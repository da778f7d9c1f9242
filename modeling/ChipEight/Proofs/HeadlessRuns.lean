import ChipEight.Host.Headless
import ChipEight.Proofs.EventScripts

/-! # Running a machine without keys

There are three ways to run a machine for a number of frames without touching a key: to ask it for
one frame after the other (`Machine.afterFrames`), to run it without a window, and to leave it
alone in one.  A run without a window stops early if the machine halts, which makes no difference,
since a halted machine does not move (`runFrames_eq`).  A window hands over keys with every frame,
and they are all up, as they were before if the machine has just been started
(`turns_idleScript`).  All of them go no further once a frame has gone astray.

The ways agree as far as frames can be counted and the screen can be shown.
-/
namespace ChipEight

/-! ## Frames without keys -/

namespace State

/-- A frame leaves the keys that it was handed over, or else those of before. -/
theorem runFrame_keypad (s : State) (keys : Option Keypad) (budget : Int) :
    (s.runFrame keys budget).state.keypad = keys.getD s.keypad := by
  obtain ⟨steps, hrun, -⟩ := s.runFrame_closes keys budget
  refine hrun.invariant (I := fun t => t.keypad = keys.getD s.keypad) ?_ rfl
  intro t t' w ht hstep
  obtain ⟨-, op, -, -, he⟩ := step_ok hstep
  exact he.keypads.1.trans ht

theorem load_keypad {s s' : State} {image : List UInt8} (h : s.load image = .ok s') :
    s'.keypad = s.keypad := by
  rcases load_ok h with rfl | rfl
  · rfl
  · rfl

end State

/-- The fault for which there is no account of a frame, if it has gone astray. -/
def Answer.stray? : Answer → Option Fault
  | .astray f => some f
  | _ => none

namespace Machine

variable (console : Console) {m : Machine}

/-- A machine that is asked for so many frames without keys, until one goes astray. -/
def afterFrames (console : Console) : (n : Nat) → Machine → Course
  | 0, m => { machine := m }
  | n + 1, m =>
    let e := m.call ⟨console, .frame none⟩
    Course.andThen ⟨e.after, e.answer.stray?⟩ (afterFrames console n)

/-- To ask for a frame is to run it. -/
theorem call_frame (m : Machine) :
    let e := m.call ⟨console, .frame none⟩
    (⟨e.after, e.answer.stray?⟩ : Course) = m.frame console none := by
  have hframe : m.runFrame console none = .ok (m.advance console none) := by
    rw [Machine.runFrame]
    exact ite_self _
  simp only [call, hframe, frame]
  obtain ⟨m', answer, lines⟩ := m.advance console none
  cases answer with
  | ok account => rfl
  | error f => rfl

theorem afterFrames_succ (n : Nat) (m : Machine) :
    m.afterFrames console (n + 1) = (m.frame console none).andThen (afterFrames console n) := by
  rw [← call_frame]
  rfl

theorem frame_of_halted {f : Fault} (hm : m.error = some f) (keys : Option Keypad) :
    m.frame console keys = { machine := m } := by
  rw [frame, advance_of_halted hm]
  rfl

theorem afterFrames_of_halted {f : Fault} (hm : m.error = some f) (n : Nat) :
    m.afterFrames console n = { machine := m } := by
  induction n with
  | zero => rfl
  | succ n ih =>
    rw [afterFrames_succ, frame_of_halted console hm]
    exact ih

/-- With the stack in reach, nothing goes astray, and the frames are so many calls. -/
theorem afterFrames_of_inReach (h : m.state.stack.InReach) (n : Nat) :
    m.afterFrames console n = { machine := m.after (List.replicate n ⟨console, .frame none⟩) } := by
  induction n generalizing m with
  | zero => rfl
  | succ n ih =>
    have hframe := frame_inReach h console none
    have hcall : (m.call ⟨console, .frame none⟩).after = (m.frame console none).machine :=
      congrArg Course.machine (call_frame console m)
    rw [afterFrames_succ, Course.andThen_of_none hframe.none, ih hframe.stack, ← hcall]
    rfl

/-- Without keys, those of before are still down. -/
theorem frame_none (m : Machine) :
    m.frame console none = m.frame console (some m.state.keypad) := rfl

theorem frame_keypad (m : Machine) :
    (m.frame console none).machine.state.keypad = m.state.keypad := by
  cases hm : m.error with
  | some f => rw [frame_of_halted console hm]
  | none =>
    rcases (m.state.runFrame none m.settings.budget).valid_cases with hvalid | ⟨f, hstray⟩
    · obtain ⟨_, hadvance⟩ := advance_of_valid hm console rfl hvalid
      rw [frame, hadvance]
      exact m.state.runFrame_keypad none m.settings.budget
    · obtain ⟨_, hadvance⟩ := advance_of_stray hm console rfl hstray
      rw [frame, hadvance]
      rfl

theorem inReach_of_start {c : Settings} {trace : Option Trace} (h : Machine.start c trace = .ok m) :
    m.state.stack.InReach := by
  obtain ⟨s, hs, rfl⟩ := start_eq_ok_iff.mp h
  exact (Settings.reachable_start hs).bounded.tidy.inReach

/-- All keys are up when a machine is started. -/
theorem keypad_of_start {c : Settings} {trace : Option Trace} (h : Machine.start c trace = .ok m) :
    m.state.keypad = .allUp := by
  obtain ⟨s, hs, rfl⟩ := start_eq_ok_iff.mp h
  unfold Settings.start at hs
  split at hs
  · cases hs
  · cases hkey : RandomKey.ofSeed? c.seed with
    | error why =>
      rw [hkey] at hs
      cases hs
    | ok key =>
      rw [hkey] at hs
      exact State.load_keypad (Fault.mapError_eq_ok_iff.mp hs)

end Machine

namespace Host

variable (console : Console)

/-! ## Without a window -/

/-- **A run that stops early leaves the machine that all of its frames leave.** -/
theorem runFrames_eq (n : Nat) (m : Machine) :
    (runFrames console n m).1 = (m.afterFrames console n).machine ∧
      (runFrames console n m).2.1 = (m.afterFrames console n).stray? := by
  induction n generalizing m with
  | zero => exact ⟨rfl, rfl⟩
  | succ n ih =>
    rw [Machine.afterFrames_succ, runFrames]
    cases hstray : Frame.stray? (m.advance console none).2.1 with
    | some f =>
      rw [Course.andThen_of_some hstray]
      simp only [hstray]
      exact ⟨rfl, hstray.symm⟩
    | none =>
      rw [Course.andThen_of_none hstray]
      simp only [hstray]
      by_cases hhalted : (m.advance console none).1.halted = true
      · obtain ⟨f, hf⟩ := Option.isSome_iff_exists.mp hhalted
        have hrest : (m.frame console none).machine.afterFrames console n =
          { machine := (m.advance console none).1 } := Machine.afterFrames_of_halted console hf n
        rw [if_pos hhalted, hrest]
        exact ⟨rfl, rfl⟩
      · rw [if_neg hhalted]
        exact ih _

theorem runHeadless_of_lt (m : Machine) {n : Int} (hn : n < 9223372036854775808)
    (showScreen : Bool) :
    let plain := m.afterFrames console n.toNat
    (runHeadless console m n showScreen).machine = plain.machine ∧
      (runHeadless console m n showScreen).status = plain.status := by
  intro plain
  obtain ⟨hmachine, hstray⟩ := runFrames_eq console n.toNat m
  rw [runHeadless, if_neg (Int.not_le.mpr hn)]
  rw [Course.status, ← hmachine, ← hstray, Machine.halted]
  obtain ⟨m', stray?, lines⟩ := runFrames console n.toNat m
  cases stray? with
  | some f => exact ⟨rfl, rfl⟩
  | none =>
    cases herror : m'.error with
    | none =>
      simp only [herror]
      exact ⟨trivial, rfl⟩
    | some f =>
      simp only [herror]
      exact ⟨trivial, rfl⟩

/-! ## In a window that is left alone -/

/-- Turns in which nothing happens, and a last one with the wish to quit. -/
def idleScript (n : Nat) : List (List Event) := List.replicate n [] ++ [[.quit]]

theorem turnsOf_idleScript (n : Nat) : turnsOf (idleScript n) = idleScript n := by
  induction n with
  | zero => rfl
  | succ n ih => exact congrArg ([] :: ·) ih

/-- A turn without keys is a frame without keys, since a halted machine does not move. -/
theorem turn_of_idle {m : Machine} (hkeys : m.state.keypad = .allUp) {events : List Event}
    (hevents : events = [] ∨ events = [.quit]) :
    m.turn console [] events = m.frame console none := by
  have hquiet : events.any (·.isReset) = false ∧ isPaused ([] ++ events) = false ∧
      held ([] ++ events) = m.state.keypad := by
    rw [hkeys]
    rcases hevents with rfl | rfl <;> decide
  obtain ⟨hreset, hpaused, hheld⟩ := hquiet
  have hturn : m.turn console [] events =
      if m.halted then { machine := m } else m.frame console (some (held ([] ++ events))) := by
    simp only [Machine.turn, hreset, hpaused, Bool.false_or, Bool.false_eq_true, if_false]
  rw [hturn, hheld, ← Machine.frame_none]
  cases hm : m.error with
  | some f =>
    rw [Machine.frame_of_halted console hm]
    exact ite_self _
  | none =>
    rw [Machine.halted, hm]
    rfl

theorem turns_idleScript {m : Machine} (hkeys : m.state.keypad = .allUp) (n : Nat) :
    m.turns console [] (idleScript n) = m.afterFrames console (n + 1) := by
  induction n generalizing m with
  | zero =>
    rw [Machine.afterFrames_succ]
    exact congrArg (Course.andThen · _) (turn_of_idle console hkeys (.inr rfl))
  | succ n ih =>
    have hframe := turn_of_idle console hkeys (.inl rfl)
    have hrest := ih ((Machine.frame_keypad console m).trans hkeys)
    rw [Machine.afterFrames_succ]
    show (m.turn console [] []).andThen (·.turns console [] (idleScript n)) = _
    rw [hframe]
    cases hstray : (m.frame console none).stray? with
    | none =>
      rw [Course.andThen_of_none hstray, Course.andThen_of_none hstray]
      exact hrest
    | some f => rw [Course.andThen_of_some hstray, Course.andThen_of_some hstray]

/-- The first of these turns is a frame without keys, whether it is the last or not. -/
theorem take_one_idleScript {m : Machine} (hkeys : m.state.keypad = .allUp) (n : Nat) :
    m.turns console [] ((idleScript n).take 1) = m.afterFrames console 1 := by
  rw [Machine.afterFrames_succ]
  cases n with
  | zero => exact congrArg (Course.andThen · _) (turn_of_idle console hkeys (.inr rfl))
  | succ n => exact congrArg (Course.andThen · _) (turn_of_idle console hkeys (.inl rfl))

/-- A window that is left alone for some turns, with or without room for its pictures. -/
theorem play_idleScript {m : Machine} (hkeys : m.state.keypad = .allUp)
    (hreach : m.state.stack.InReach) {c : WindowSettings} {scheme : ColorScheme}
    (hname : ColorScheme.ofName? c.scheme = some scheme) (hscale : 1 ≤ c.scale) (n : Nat) :
    let a := Window.play c console m (idleScript n)
    (Bitmap.HasRoom c.room 64 32 c.scale →
      a.window.machine = (m.afterFrames console (n + 1)).machine ∧
      a.status = (m.afterFrames console (n + 1)).status) ∧
    (¬Bitmap.HasRoom c.room 64 32 c.scale →
      a.window.machine = (m.afterFrames console 1).machine ∧
      a.status = .error (.picture (.noRoom (c.room.shortage ⟨64, 32, c.scale⟩)))) := by
  refine ⟨fun hroom => ?_, fun hroom => ?_⟩
  · obtain ⟨hmachine, hstatus⟩ :=
      Window.play_of_room console m (idleScript n) hname hscale hroom
    rw [turnsOf_idleScript, turns_idleScript console hkeys] at hmachine hstatus
    exact ⟨hmachine, hstatus⟩
  · obtain ⟨hmachine, hstatus⟩ :=
      Window.play_of_no_room console m (idleScript n) hname hscale hroom
    rw [turnsOf_idleScript, take_one_idleScript console hkeys] at hmachine hstatus
    rw [Machine.afterFrames_of_inReach console hreach] at hstatus
    exact ⟨hmachine, hstatus⟩

/-- **The ways to run a machine without keys agree.**

As long as the frames can be counted in 64 bits, a run without a window leaves any machine as so
many single frames do (none, if the number is below zero), and its exit status is 1 exactly if the
machine is then halted; a larger number is refused before the first of them.  A frame that goes
astray ends the single frames and the run alike.  None does if the stack pointer is in reach, and
then the frames are just so many calls.

A machine that has just been started is left the same, with the same exit status, by a window that
is left alone for all turns but the last, with the wish to quit, where there is room for the
pictures; without room the first turn is the last. -/
theorem runHeadless_agrees (m : Machine) (n : Int) :
    (n < 9223372036854775808 → ∀ showScreen,
      let plain := m.afterFrames console n.toNat
      (runHeadless console m n showScreen).machine = plain.machine ∧
      (runHeadless console m n showScreen).status = plain.status) ∧
    (9223372036854775808 ≤ n → ∀ showScreen,
      runHeadless console m n showScreen = ⟨m, [], .error (.frames n)⟩) ∧
    (m.state.stack.InReach → ∀ k,
      let left := m.after (List.replicate k ⟨console, .frame none⟩)
      (m.afterFrames console k).machine = left ∧
      (m.afterFrames console k).status = .ok (if left.halted then 1 else 0)) ∧
    ∀ settings trace, Machine.start settings trace = .ok m → 1 ≤ n →
      ∀ (c : WindowSettings) scheme, ColorScheme.ofName? c.scheme = some scheme → 1 ≤ c.scale →
        let a := Window.play c console m (idleScript (n.toNat - 1))
        let plain := m.afterFrames console n.toNat
        (Bitmap.HasRoom c.room 64 32 c.scale →
          a.window.machine = plain.machine ∧ a.status = plain.status) ∧
        (¬Bitmap.HasRoom c.room 64 32 c.scale →
          a.window.machine = (m.afterFrames console 1).machine ∧
          a.status = .error (.picture (.noRoom (c.room.shortage ⟨64, 32, c.scale⟩)))) := by
  refine ⟨runHeadless_of_lt console m, fun hn _ => if_pos hn, fun hreach k => ?_, ?_⟩
  · rw [Machine.afterFrames_of_inReach console hreach]
    exact ⟨rfl, rfl⟩
  · intro settings trace hstart hn c scheme hname hscale a plain
    have hkeys := Machine.keypad_of_start hstart
    have hreach := Machine.inReach_of_start hstart
    have hcount : n.toNat - 1 + 1 = n.toNat := by omega
    have hplay := play_idleScript console hkeys hreach hname hscale (n.toNat - 1)
    rw [hcount] at hplay
    exact hplay

/-- A program that draws, which ends its first frame, and makes no sense in the second.  It is run
for three frames, with and without a window. -/
theorem runHeadless_agrees_sample :
    let settings : Settings := { program := [0xD0, 0x05, 0xFF, 0xFF] }
    let s : State := { State.initial (.ofSeed 0) {} with
      memory := Memory.initial.store programStart [0xD0, 0x05, 0xFF, 0xFF] }
    let m : Machine := { settings := settings, origin := s, started := rfl, state := s }
    let plain := m.afterFrames {} 3
    let r := runHeadless {} m 3 true
    let a := Window.play { room := .counted } {} m [[], [], [.quit]]
    Machine.start settings none = .ok m ∧ plain.machine.frames = 2 ∧
      r.machine = plain.machine ∧ r.status = .ok 1 ∧
      a.window.machine = plain.machine ∧ a.status = .ok 1 := by
  intro settings s m plain r a
  have hstart : Machine.start settings none = .ok m := rfl
  have hleft : plain.machine.frames = 2 ∧ plain.status = .ok 1 := by decide +kernel
  obtain ⟨hheadless, -, -, hwindow⟩ := runHeadless_agrees {} m 3
  obtain ⟨hmachine, hstatus⟩ := hheadless (by decide) true
  obtain ⟨hroom, -⟩ :=
    hwindow settings none hstart (by decide) { room := .counted } .classic (by decide) (by decide)
  obtain ⟨hplayed, hended⟩ := hroom (by decide)
  exact ⟨hstart, hleft.1, hmachine, hstatus.trans hleft.2, hplayed, hended.trans hleft.2⟩

/-- Two to the 63 frames are refused, though single frames would halt the machine in the first of
them; a window whose pictures have no room is closed in its first turn; and a machine whose stack
pointer was set out of reach runs no frame. -/
theorem runHeadless_refuses_to_count :
    let settings : Settings := { program := [0x00, 0xEE] }
    let s : State := { State.initial (.ofSeed 0) {} with
      memory := Memory.initial.store programStart [0x00, 0xEE] }
    let m : Machine := { settings := settings, origin := s, started := rfl, state := s }
    let stray : Machine := { m with
      state := { s with stack := { s.stack with pointer := 2147483649 } } }
    let c : WindowSettings := { scale := 9223372036854775808, room := .counted }
    Machine.start settings none = .ok m ∧
      (m.afterFrames {} 9223372036854775808).status = .ok 1 ∧
      (m.afterFrames {} 9223372036854775808).machine.frames = 1 ∧
      runHeadless {} m 9223372036854775808 false =
        ⟨m, [], .error (.frames 9223372036854775808)⟩ ∧
      (m.afterFrames {} 1).status = .ok 1 ∧
      (Window.play c {} m [[.quit]]).status =
        .error (.picture (.noRoom (c.room.shortage ⟨64, 32, c.scale⟩))) ∧
      (runHeadless {} stray 1 false).status =
        .error (.astray { cause := .strayPointer 2147483648 }) ∧
      (runHeadless {} stray 1 false).machine.frames = 0 := by
  intro settings s m stray c
  have hfirst : (m.frame {} none).machine.error = some ⟨.emptyStack, some 0x200⟩ ∧
      (m.frame {} none).machine.frames = 1 ∧ (m.frame {} none).stray? = none := by decide +kernel
  obtain ⟨herror, hframes, hnone⟩ := hfirst
  have hall (n : Nat) : m.afterFrames {} (n + 1) = { machine := (m.frame {} none).machine } := by
    rw [Machine.afterFrames_succ, Course.andThen_of_none hnone,
      Machine.afterFrames_of_halted {} herror]
  have hstatus (n : Nat) : (m.afterFrames {} (n + 1)).status = .ok 1 := by
    rw [hall, Course.status, Machine.halted, herror]
    rfl
  have hstray : (runHeadless {} stray 1 false).status =
        .error (.astray { cause := .strayPointer 2147483648 }) ∧
      (runHeadless {} stray 1 false).machine.frames = 0 := by decide +kernel
  have hmany := hall 9223372036854775807
  refine ⟨rfl, hstatus 9223372036854775807, ?_, rfl, hstatus 0, by decide +kernel, hstray⟩
  rw [hmany]
  exact hframes

end Host

end ChipEight
