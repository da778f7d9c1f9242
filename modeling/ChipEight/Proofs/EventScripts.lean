import ChipEight.Host.Window
import ChipEight.Proofs.MachineCalls
import Mathlib.Data.List.DropRight

/-! # What a script of events does to a machine

A window carries from event to event which keys are down, whether the machine is paused and
whether there is to be another turn.  None of this has to be carried: it can be told from the
events that there have been.  `held` are the keys whose last event since the last reset was a
down, `isPaused` says whether pause was pressed an odd number of times, and `turnsOf` cuts a
script after the first turn with a wish to quit in it.

`Machine.turns` runs a machine by these alone.  What it gives is a `Course`: a machine on its way,
which goes no further once a frame has gone astray.  `Follows` relates a window to the events that
it has seen: an event keeps it (`Follows.handled`), and so does a turn (`Follows.turn`).  A turn
also shows a picture, and ends the run if there is none; that is a matter of the scale and the room
and not of the machine (`picture_eq`).
-/
namespace ChipEight

namespace Host

/-! ## What events tell -/

namespace Event

/-- Whether an event is a wish to quit. -/
def isQuit (e : Event) : Bool := e == .quit || e == .down .escape

/-- Whether an event resets the machine. -/
def isReset (e : Event) : Bool := e == .down .f5

/-- Whether an event pauses the machine or lets it go on. -/
def isPause (e : Event) : Bool := e == .down .pause

/-- What an event tells of a key of the keypad: that it went down or up, or nothing. -/
def tells? (d : Fin 16) : Event → Option Bool
  | .down k => if k.digit? = some d then some true else none
  | .up k => if k.digit? = some d then some false else none
  | .quit | .other => none

end Event

/-- Whether a key is down after some events: its last event since the last reset was a down. -/
def isHeld (past : List Event) (d : Fin 16) : Bool :=
  ((past.rtakeWhile fun e => !e.isReset).filterMap (·.tells? d)).getLast? == some true

/-- The keys that are down after some events. -/
def held (past : List Event) : Keypad := Vector.ofFn (isHeld past)

/-- Whether the machine is paused after some events. -/
def isPaused (past : List Event) : Bool := past.countP (·.isPause) % 2 == 1

/-- The turns of a script: all up to the first with a wish to quit in it, which comes at last
when the script is used up. -/
def turnsOf : List (List Event) → List (List Event)
  | [] => [[.quit]]
  | events :: script => if events.any (·.isQuit) then [events] else events :: turnsOf script

theorem isHeld_concat (past : List Event) (e : Event) (d : Fin 16) :
    isHeld (past ++ [e]) d = if e.isReset then false else (e.tells? d).getD (isHeld past d) := by
  by_cases hreset : e.isReset = true
  · rw [isHeld, List.rtakeWhile_concat_neg _ _ _ (by simp [hreset]), if_pos hreset]
    rfl
  · rw [isHeld, List.rtakeWhile_concat_pos _ _ _ (by simp [hreset]), if_neg hreset,
      List.filterMap_append]
    cases htells : e.tells? d with
    | none => simp [htells, isHeld]
    | some b => simp [htells]

theorem get_held (past : List Event) (d : Fin 16) : (held past).get d = isHeld past d :=
  Vector.getElem_ofFn ..

theorem isPaused_concat (past : List Event) (e : Event) :
    isPaused (past ++ [e]) = (isPaused past ^^ e.isPause) := by
  rw [isPaused, isPaused, List.countP_append, List.countP_singleton]
  by_cases hpause : e.isPause = true
  · rcases Nat.mod_two_eq_zero_or_one (past.countP (·.isPause)) with h | h
    · simp [hpause, h, Nat.add_mod]
    · simp [hpause, h, Nat.add_mod]
  · simp [hpause]

end Host

/-! ## A machine on its way -/

/-- Where a machine is on its way through some frames. -/
structure Course where
  /-- The machine. -/
  machine : Machine
  /-- The fault for which there is no account of the last frame, if it has gone astray. -/
  stray? : Option Fault := none

namespace Course

/-- Go on from there, unless a frame has gone astray. -/
def andThen (c : Course) (go : Machine → Course) : Course :=
  match c.stray? with
  | none => go c.machine
  | some _ => c

/-- The exit status at the end of the way: 1 if the machine is halted and 0 otherwise, or the
frame that has gone astray. -/
def status (c : Course) : Except Host.Failure Nat :=
  match c.stray? with
  | none => .ok (if c.machine.halted then 1 else 0)
  | some f => .error (.astray f)

/-- No frame has gone astray, and none will. -/
structure InReach (c : Course) : Prop where
  none : c.stray? = none
  stack : c.machine.state.stack.InReach

variable {c : Course} {go : Machine → Course}

theorem andThen_of_none (h : c.stray? = none) : c.andThen go = go c.machine := by rw [andThen, h]

theorem andThen_of_some {f : Fault} (h : c.stray? = some f) : c.andThen go = c := by
  rw [andThen, h]

/-- To go nowhere. -/
theorem andThen_mk (c : Course) : c.andThen ({ machine := · }) = c := by
  obtain ⟨m, _ | f⟩ := c
  · rfl
  · rfl

theorem InReach.andThen (h : c.InReach)
    (hgo : ∀ m : Machine, m.state.stack.InReach → (go m).InReach) : (c.andThen go).InReach := by
  rw [andThen_of_none h.none]
  exact hgo c.machine h.stack

theorem eq_mk_of_none (h : c.stray? = none) : c = { machine := c.machine } := by
  obtain ⟨m, stray?⟩ := c
  obtain rfl : stray? = none := h
  rfl

theorem status_of_none (h : c.stray? = none) :
    c.status = .ok (if c.machine.halted then 1 else 0) := by
  rw [status, h]

end Course

namespace Machine

open Host

variable {m : Machine}

/-- One frame with these keys. -/
def frame (console : Console) (keys : Option Keypad) (m : Machine) : Course where
  machine := (m.advance console keys).1
  stray? := Frame.stray? (m.advance console keys).2.1

/-- One turn of a machine with these events, of which others came before: it starts over if there
is a reset among them, and then runs a frame with the keys that are down, unless it is paused or
halted. -/
def turn (console : Console) (past events : List Host.Event) (m : Machine) : Course :=
  let m := if events.any (·.isReset) then m.reset else m
  if isPaused (past ++ events) || m.halted then { machine := m }
  else m.frame console (some (held (past ++ events)))

/-- Turns of a machine, one after the other. -/
def turns (console : Console) (past : List Host.Event) (m : Machine) :
    List (List Host.Event) → Course
  | [] => { machine := m }
  | events :: script =>
    (m.turn console past events).andThen fun m => m.turns console (past ++ events) script

/-- A turn is the last of those in which it comes first, if there are no others or it goes
astray. -/
theorem turns_cons_of_last {console : Console} {past events : List Host.Event}
    {script : List (List Host.Event)}
    (h : script = [] ∨ ∃ f, (m.turn console past events).stray? = some f) :
    m.turns console past (events :: script) = m.turn console past events := by
  rcases h with rfl | ⟨f, hf⟩
  · exact Course.andThen_mk _
  · exact Course.andThen_of_some hf

/-! ### Stacks in reach -/

/-- A reset brings the stack back into reach. -/
theorem inReach_origin (m : Machine) : m.origin.stack.InReach :=
  m.reachable_origin.bounded.tidy.inReach

theorem frame_inReach (h : m.state.stack.InReach) (console : Console) (keys : Option Keypad) :
    (m.frame console keys).InReach := by
  cases hm : m.error with
  | some f =>
    have hadvance := advance_of_halted hm console keys
    refine ⟨?_, ?_⟩
    · rw [frame, hadvance]
      rfl
    · rw [frame, hadvance]
      exact h
  | none =>
    obtain ⟨lines, hadvance⟩ := advance_of_valid hm console rfl
      (State.valid_runFrame_of_inReach h keys m.settings.budget)
    refine ⟨?_, ?_⟩
    · rw [frame, hadvance]
      rfl
    · rw [frame, hadvance]
      exact State.runFrame_inReach h keys m.settings.budget

theorem turn_inReach (h : m.state.stack.InReach) (console : Console)
    (past events : List Host.Event) : (m.turn console past events).InReach := by
  have hready : (if events.any (·.isReset) then m.reset else m).state.stack.InReach := by
    split
    · exact m.inReach_origin
    · exact h
  rw [turn]
  generalize (if events.any (·.isReset) then m.reset else m) = ready at hready
  by_cases hstays : (isPaused (past ++ events) || ready.halted) = true
  · rw [if_pos hstays]
    exact ⟨rfl, hready⟩
  · rw [if_neg hstays]
    exact frame_inReach hready console _

theorem turns_inReach (h : m.state.stack.InReach) (console : Console) (past : List Host.Event)
    (script : List (List Host.Event)) : (m.turns console past script).InReach := by
  induction script generalizing m past with
  | nil => exact ⟨rfl, h⟩
  | cons events script ih => exact (turn_inReach h console past events).andThen fun _ h => ih h _

end Machine

namespace Host

/-! ## Events in a window -/

namespace Window

variable (console : Console)

theorem get_setKey (w : Window) (k : Key) (isDown : Bool) (d : Fin 16) :
    (w.setKey k isDown).keys.get d = if k.digit? = some d then isDown else w.keys.get d := by
  unfold setKey
  cases hk : k.digit? with
  | none => simp
  | some d' =>
    by_cases hd : d' = d
    · subst hd
      rw [if_pos rfl]
      exact Vector.getElem_setIfInBounds_self ..
    · rw [if_neg fun h => hd (Option.some.inj h)]
      exact Vector.getElem_setIfInBounds_ne d.isLt fun h => hd (Fin.ext h)

/-- What an event does to a window. -/
structure Handled (w : Window) (e : Event) (w' : Window) : Prop where
  /-- A reset starts the machine over, and nothing else touches it. -/
  machine : w'.machine = if e.isReset then w.machine.reset else w.machine
  /-- A reset lets go of all keys. -/
  keys : ∀ d, w'.keys.get d = if e.isReset then false else (e.tells? d).getD (w.keys.get d)
  paused : w'.paused = (w.paused ^^ e.isPause)
  running : w'.running = (w.running && !e.isQuit)

/-- A window in which only a key of the keypad has moved. -/
theorem Handled.of_setKey {w : Window} {e : Event} {k : Key} {isDown : Bool}
    (hreset : e.isReset = false) (hpause : e.isPause = false) (hquit : e.isQuit = false)
    (htells : ∀ d, e.tells? d = if k.digit? = some d then some isDown else none) :
    Handled w e (w.setKey k isDown) := by
  have hrest : (w.setKey k isDown).machine = w.machine ∧ (w.setKey k isDown).paused = w.paused ∧
      (w.setKey k isDown).running = w.running := by
    unfold setKey
    cases k.digit? with
    | none => exact ⟨rfl, rfl, rfl⟩
    | some d => exact ⟨rfl, rfl, rfl⟩
  refine ⟨?_, fun d => ?_, ?_, ?_⟩
  · rw [hrest.1, hreset]
    rfl
  · rw [get_setKey, htells, hreset]
    by_cases hd : k.digit? = some d
    · simp [hd]
    · simp [hd]
  · rw [hrest.2.1, hpause, Bool.xor_false]
  · rw [hrest.2.2, hquit, Bool.not_false, Bool.and_true]

theorem handled (w : Window) (e : Event) : Handled w e (w.handle console e).1 := by
  cases e with
  | quit => exact ⟨rfl, fun _ => rfl, (Bool.xor_false _).symm, (Bool.and_false _).symm⟩
  | other => exact ⟨rfl, fun _ => rfl, (Bool.xor_false _).symm, (Bool.and_true _).symm⟩
  | up k => exact .of_setKey rfl rfl rfl fun _ => rfl
  | down k =>
    cases k with
    | escape =>
      exact ⟨rfl, fun _ => rfl, (Bool.xor_false _).symm, (Bool.and_false _).symm⟩
    | f5 =>
      refine ⟨rfl, fun d => ?_, (Bool.xor_false _).symm, (Bool.and_true _).symm⟩
      exact Vector.getElem_replicate ..
    | other =>
      have hmoved : (w.handle console (.down .other)).1 = w.setKey .other true := rfl
      rw [hmoved]
      exact .of_setKey rfl rfl rfl fun _ => rfl
    | char c =>
      by_cases hc : Key.char c = .pause
      · have htoggled : (w.handle console (.down (.char c))).1 =
            { w with paused := !w.paused } := by
          simp only [handle, if_pos hc]
        obtain rfl : c = 'p' := Key.char.inj hc
        rw [htoggled]
        exact ⟨rfl, fun _ => rfl, (Bool.xor_true _).symm, (Bool.and_true _).symm⟩
      · have hmoved : (w.handle console (.down (.char c))).1 = w.setKey (.char c) true := by
          simp only [handle, if_neg hc]
        rw [hmoved]
        refine .of_setKey rfl ?_ rfl fun _ => rfl
        simpa [Event.isPause] using hc

/-- A window carries what its events tell. -/
structure Follows (w : Window) (past : List Event) : Prop where
  keys : ∀ d, w.keys.get d = isHeld past d
  paused : w.paused = isPaused past

namespace Follows

variable {w : Window} {past : List Event}

theorem keys_eq (h : w.Follows past) : w.keys = held past :=
  Vector.ext fun i hi => (h.keys ⟨i, hi⟩).trans (get_held past ⟨i, hi⟩).symm

theorem handled {w' : Window} {e : Event} (h : w.Follows past) (he : Handled w e w') :
    w'.Follows (past ++ [e]) where
  keys d := by rw [he.keys, isHeld_concat, h.keys]
  paused := by rw [he.paused, isPaused_concat, h.paused]

/-- Events in order: all resets are one, and any wish to quit is heard. -/
theorem handleAll (h : w.Follows past) (events : List Event) :
    (w.handleAll console events).1.Follows (past ++ events) ∧
      (w.handleAll console events).1.machine =
        (if events.any (·.isReset) then w.machine.reset else w.machine) ∧
      (w.handleAll console events).1.running = (w.running && !events.any (·.isQuit)) := by
  induction events generalizing w past with
  | nil => exact ⟨by rwa [List.append_nil], rfl, (Bool.and_true _).symm⟩
  | cons e events ih =>
    have he := w.handled console e
    obtain ⟨hfollows, hmachine, hrunning⟩ := ih (h.handled he)
    rw [← List.append_cons] at hfollows
    refine ⟨hfollows, hmachine.trans ?_, hrunning.trans ?_⟩
    · rw [he.machine, List.any_cons]
      cases e.isReset with
      | false => rfl
      | true => exact ite_self _
    · rw [he.running, List.any_cons, Bool.not_or, Bool.and_assoc]

end Follows

/-! ## Turns in a window -/

/-- The window leaves it to the machine whether a frame goes astray. -/
theorem runFrame_eq (w : Window) :
    let ran : Course := if w.paused || w.machine.halted then { machine := w.machine }
      else w.machine.frame console (some w.keys)
    (w.runFrame console).1 = { w with machine := ran.machine } ∧
      (w.runFrame console).2.1 = ran.stray? := by
  intro ran
  unfold runFrame
  by_cases hstays : (w.paused || w.machine.halted) = true
  · have hran : ran = { machine := w.machine } := if_pos hstays
    rw [if_pos hstays, hran]
    exact ⟨rfl, rfl⟩
  · have hran : ran = w.machine.frame console (some w.keys) := if_neg hstays
    rw [if_neg hstays, hran]
    exact ⟨rfl, rfl⟩

/-- Starting or stopping the tone touches nothing else. -/
theorem sound_fst (w : Window) (c : WindowSettings) :
    (w.sound c).1 = { w with beeping := (w.sound c).1.beeping } := by
  unfold sound
  split
  · rfl
  · split <;> rfl

end Window

namespace WindowSettings

/-- Why no screen can be shown, if none can. -/
def obstacle? (c : WindowSettings) : Option PictureError :=
  if c.scale < 1 then some (.scale c.scale)
  else if Bitmap.HasRoom c.room 64 32 c.scale then none
  else some (.noRoom (c.room.shortage ⟨64, 32, c.scale⟩))

/-- What ends a run early on this course, if anything does: a frame that has gone astray, or else
a screen that cannot be shown. -/
def failure? (c : WindowSettings) (told : Course) : Option Failure :=
  (told.stray?.map .astray).or (c.obstacle?.map .picture)

variable {c : WindowSettings}

theorem obstacle?_of_lt_one (hscale : c.scale < 1) : c.obstacle? = some (.scale c.scale) :=
  if_pos hscale

theorem one_le_of_no_obstacle (h : c.obstacle? = none) : 1 ≤ c.scale := by
  refine Int.not_lt.mp fun hlt => ?_
  rw [obstacle?_of_lt_one hlt] at h
  cases h

theorem obstacle?_of_hasRoom (hscale : 1 ≤ c.scale) (hroom : Bitmap.HasRoom c.room 64 32 c.scale) :
    c.obstacle? = none := by
  rw [obstacle?, if_neg (Int.not_lt.mpr hscale), if_pos hroom]

theorem obstacle?_of_not_hasRoom (hscale : 1 ≤ c.scale)
    (hroom : ¬Bitmap.HasRoom c.room 64 32 c.scale) :
    c.obstacle? = some (.noRoom (c.room.shortage ⟨64, 32, c.scale⟩)) := by
  rw [obstacle?, if_neg (Int.not_lt.mpr hscale), if_neg hroom]

end WindowSettings

namespace Window

variable (console : Console) {c : WindowSettings} (scheme : ColorScheme)

/-- **Whether there is a picture does not depend on the machine.** -/
theorem picture_eq (w : Window) :
    w.picture c scheme =
      match c.obstacle? with
      | some e => .error e
      | none => .ok (w.machine.state.screen.paint c.scale.toNat scheme.on scheme.off) := by
  unfold picture WindowSettings.obstacle?
  by_cases hscale : c.scale < 1
  · rw [if_pos hscale, if_pos hscale]
  · rw [if_neg hscale, if_neg hscale]
    by_cases hroom : Bitmap.HasRoom c.room 64 32 c.scale
    · rw [if_pos hroom]
      exact Bitmap.enlarge_of_hasRoom _ hroom _ _
    · rw [if_neg hroom]
      exact Bitmap.enlarge_of_not_hasRoom _ hroom _ _

/-- A turn leaves the window in which its frame has run, but for the tone. -/
theorem turn_window (w : Window) (events : List Event) :
    (w.turn c console scheme events).window =
      { ((w.handleAll console events).1.runFrame console).1 with
        beeping := (w.turn c console scheme events).window.beeping } := by
  simp only [turn]
  split
  · rfl
  · split
    · exact sound_fst _ c
    · exact sound_fst _ c

/-- After the events of a turn, the window runs the frame that they tell. -/
theorem Follows.runFrame_handleAll {w : Window} {past : List Event} (h : w.Follows past)
    (events : List Event) :
    let told := w.machine.turn console past events
    let ready := (w.handleAll console events).1
    (ready.runFrame console).1 = { ready with machine := told.machine } ∧
      (ready.runFrame console).2.1 = told.stray? := by
  intro told ready
  obtain ⟨hfollows, hmachine, -⟩ := h.handleAll console events
  have hrun := ready.runFrame_eq console
  have htold : (if ready.paused || ready.machine.halted then { machine := ready.machine }
      else ready.machine.frame console (some ready.keys)) = told := by
    rw [hfollows.paused, hfollows.keys_eq, hmachine]
    rfl
  rw [htold] at hrun
  exact hrun

/-- A turn sees its events, and the machine takes the turn that they tell.  The turn fails if its
frame goes astray, or else if the screen cannot be shown. -/
theorem Follows.turn {w : Window} {past : List Event} (h : w.Follows past) (events : List Event) :
    let told := w.machine.turn console past events
    (w.turn c console scheme events).window.Follows (past ++ events) ∧
      (w.turn c console scheme events).window.machine = told.machine ∧
      (w.turn c console scheme events).window.running =
        (w.running && !events.any (·.isQuit)) ∧
      (w.turn c console scheme events).failure = c.failure? told := by
  intro told
  obtain ⟨hfollows, -, hrunning⟩ := h.handleAll console events
  obtain ⟨hran, hstray⟩ := h.runFrame_handleAll console events
  rw [turn_window, hran]
  refine ⟨⟨hfollows.keys, hfollows.paused⟩, rfl, hrunning, ?_⟩
  simp only [Window.turn, hstray, WindowSettings.failure?, picture_eq]
  cases told.stray? with
  | some f => rfl
  | none =>
    cases c.obstacle? with
    | some e => rfl
    | none => rfl

/-! ## The turns that are taken -/

/-- The turns of a script that are taken: all of them, or only the first if nothing can be
shown. -/
def taken (c : WindowSettings) (script : List (List Event)) : List (List Event) :=
  if c.obstacle?.isSome then (turnsOf script).take 1 else turnsOf script

theorem taken_of_no_obstacle (h : c.obstacle? = none) (script : List (List Event)) :
    taken c script = turnsOf script := by
  rw [taken, h]
  rfl

theorem taken_of_obstacle {e : PictureError} (h : c.obstacle? = some e)
    (script : List (List Event)) : taken c script = (turnsOf script).take 1 := by
  rw [taken, h]
  rfl

theorem taken_nil : taken c [] = [[.quit]] := by
  unfold taken
  split <;> rfl

theorem taken_cons (events : List Event) (script : List (List Event)) :
    taken c (events :: script) =
      if c.obstacle?.isSome || events.any (·.isQuit) then [events]
      else events :: taken c script := by
  unfold taken
  rw [turnsOf]
  cases c.obstacle?.isSome with
  | true =>
    rw [Bool.true_or, if_pos rfl, if_pos rfl]
    split <;> rfl
  | false =>
    rw [Bool.false_or]
    rfl

theorem turns_of_stop {w : Window} {events : List Event} (script : List (List Event))
    (h : ((w.turn c console scheme events).failure.isSome ||
      !(w.turn c console scheme events).window.running) = true) :
    Window.turns c console w scheme (events :: script) = w.turn c console scheme events := if_pos h

theorem turns_of_go {w : Window} {events : List Event} (script : List (List Event))
    (h : ((w.turn c console scheme events).failure.isSome ||
      !(w.turn c console scheme events).window.running) = false) :
    Window.turns c console w scheme (events :: script) =
      (Window.turns c console (w.turn c console scheme events).window scheme script).after
        (w.turn c console scheme events).effects (w.turn c console scheme events).printed :=
  if_neg (ne_true_of_eq_false h)

/-- A turn is the last that is taken, or the rest of the script follows. -/
theorem Follows.turns_cons {w : Window} {past : List Event} (h : w.Follows past)
    (hrunning : w.running = true) (events : List Event) (script : List (List Event)) :
    let told := w.machine.turn console past events
    let a := w.turn c console scheme events
    (Window.turns c console w scheme (events :: script) = a ∧
      ∃ rest, taken c (events :: script) = events :: rest ∧
        (rest = [] ∨ ∃ f, told.stray? = some f)) ∨
    (Window.turns c console w scheme (events :: script) =
        (Window.turns c console a.window scheme script).after a.effects a.printed ∧
      taken c (events :: script) = events :: taken c script ∧
      told.stray? = none ∧ a.window.running = true) := by
  intro told a
  obtain ⟨-, -, hrun, hfailure⟩ := h.turn (c := c) console scheme events
  rw [hrunning, Bool.true_and] at hrun
  rw [taken_cons]
  cases hstray : told.stray? with
  | some f =>
    have hfails : a.failure.isSome = true := by
      rw [hfailure, WindowSettings.failure?, hstray]
      rfl
    refine Or.inl ⟨turns_of_stop console scheme script ?_, ?_⟩
    · rw [hfails]
      rfl
    · split
      · exact ⟨_, rfl, Or.inr ⟨f, rfl⟩⟩
      · exact ⟨_, rfl, Or.inr ⟨f, rfl⟩⟩
  | none =>
    have hends : (a.failure.isSome || !a.window.running) =
        (c.obstacle?.isSome || events.any (·.isQuit)) := by
      rw [hfailure, WindowSettings.failure?, hstray, hrun, Bool.not_not]
      exact congrArg (· || _) Option.isSome_map
    cases hstop : c.obstacle?.isSome || events.any (·.isQuit) with
    | true =>
      exact Or.inl ⟨turns_of_stop console scheme script (hends.trans hstop), [], rfl, Or.inl rfl⟩
    | false =>
      refine Or.inr ⟨turns_of_go console scheme script (hends.trans hstop), rfl, rfl, ?_⟩
      rw [hrun, (Bool.or_eq_false_iff.mp hstop).2]
      rfl

/-- **A window goes through the turns that are taken of its script**, as far as they go. -/
theorem Follows.turns {w : Window} {past : List Event} (h : w.Follows past)
    (hrunning : w.running = true) (script : List (List Event)) :
    let told := w.machine.turns console past (taken c script)
    (Window.turns c console w scheme script).window.machine = told.machine ∧
      (Window.turns c console w scheme script).failure = c.failure? told := by
  induction script generalizing w past with
  | nil =>
    obtain ⟨-, hmachine, -, hfailure⟩ := h.turn (c := c) console scheme [.quit]
    rw [taken_nil, Machine.turns_cons_of_last (Or.inl rfl)]
    exact ⟨hmachine, hfailure⟩
  | cons events script ih =>
    obtain ⟨hfollows, hmachine, -, hfailure⟩ := h.turn (c := c) console scheme events
    rcases h.turns_cons (c := c) console scheme hrunning events script with
      ⟨hturns, rest, htaken, hlast⟩ | ⟨hturns, htaken, hstray, hgoes⟩
    · rw [hturns, htaken, Machine.turns_cons_of_last hlast]
      exact ⟨hmachine, hfailure⟩
    · have hrest := ih hfollows hgoes
      rw [hmachine] at hrest
      rw [hturns, htaken, Machine.turns, Course.andThen_of_none hstray]
      exact hrest

/-! ## Whole runs -/

/-- A fresh window has seen no events. -/
theorem follows_nil (m : Machine) : Follows { machine := m } [] where
  keys _ := Vector.getElem_replicate ..
  paused := rfl

/-- What a run in a window leaves and how it ends is decided by its turns. -/
theorem play_of_scheme {scheme : ColorScheme} (m : Machine) (script : List (List Event))
    (hname : ColorScheme.ofName? c.scheme = some scheme) :
    let told := m.turns console [] (taken c script)
    (play c console m script).window.machine = told.machine ∧
      (play c console m script).failure = c.failure? told := by
  have hscheme : ColorScheme.ofName c.scheme = .ok scheme := by rw [ColorScheme.ofName, hname]
  rw [play, hscheme]
  exact (follows_nil m).turns console scheme rfl script

section Room

variable {scheme : ColorScheme} (m : Machine) (script : List (List Event))
  (hname : ColorScheme.ofName? c.scheme = some scheme) (hscale : 1 ≤ c.scale)

include hname hscale

/-- With room for the pictures, all turns of the script are taken. -/
theorem play_of_room (hroom : Bitmap.HasRoom c.room 64 32 c.scale) :
    let told := m.turns console [] (turnsOf script)
    (play c console m script).window.machine = told.machine ∧
      (play c console m script).status = told.status := by
  obtain ⟨hmachine, hfailure⟩ := play_of_scheme console m script hname
  have hnone := WindowSettings.obstacle?_of_hasRoom hscale hroom
  rw [taken_of_no_obstacle hnone] at hmachine hfailure
  rw [WindowSettings.failure?, hnone, Option.map_none, Option.or_none] at hfailure
  refine ⟨hmachine, ?_⟩
  rw [Account.status, Course.status, hfailure, hmachine]
  cases (m.turns console [] (turnsOf script)).stray? with
  | none => rfl
  | some f => rfl

/-- Without room for a picture, the run ends with the first turn. -/
theorem play_of_no_room (hroom : ¬Bitmap.HasRoom c.room 64 32 c.scale) :
    let first := m.turns console [] ((turnsOf script).take 1)
    (play c console m script).window.machine = first.machine ∧
      (play c console m script).status = .error ((first.stray?.map .astray).getD
        (.picture (.noRoom (c.room.shortage ⟨64, 32, c.scale⟩)))) := by
  obtain ⟨hmachine, hfailure⟩ := play_of_scheme console m script hname
  have hsome := WindowSettings.obstacle?_of_not_hasRoom hscale hroom
  rw [taken_of_obstacle hsome] at hmachine hfailure
  rw [WindowSettings.failure?, hsome] at hfailure
  refine ⟨hmachine, ?_⟩
  rw [Account.status, hfailure]
  cases (m.turns console [] ((turnsOf script).take 1)).stray? with
  | none => rfl
  | some f => rfl

end Room

/-- **A run in a window drives the machine as its events say.**

Where there is room for the pictures, the machine goes through all turns of the script, up to and
with the first in which there is a wish to quit, and the exit status is 1 exactly if it ends
halted.  Without room the first turn is the last, and the run ends with the reason.

A frame that goes astray ends the run where it stands.  No frame does if the stack pointer is in
reach, as it is in every machine that has only been started and run. -/
theorem play_follows_script {scheme : ColorScheme} (m : Machine) (script : List (List Event))
    (hname : ColorScheme.ofName? c.scheme = some scheme) (hscale : 1 ≤ c.scale) :
    let a := play c console m script
    let told := m.turns console [] (turnsOf script)
    let first := m.turns console [] ((turnsOf script).take 1)
    (Bitmap.HasRoom c.room 64 32 c.scale →
      a.window.machine = told.machine ∧ a.status = told.status) ∧
    (¬Bitmap.HasRoom c.room 64 32 c.scale →
      a.window.machine = first.machine ∧
      a.status = .error ((first.stray?.map .astray).getD
        (.picture (.noRoom (c.room.shortage ⟨64, 32, c.scale⟩))))) ∧
    (m.state.stack.InReach → told.stray? = none ∧ first.stray? = none ∧
      told.status = .ok (if told.machine.halted then 1 else 0)) := by
  refine ⟨play_of_room console m script hname hscale, play_of_no_room console m script hname hscale,
    fun hreach => ?_⟩
  have htold := (Machine.turns_inReach hreach console [] (turnsOf script)).none
  exact ⟨htold, (Machine.turns_inReach hreach console [] _).none, Course.status_of_none htold⟩

/-- A key goes down and the machine is paused.  In the next turn a wish to quit comes before a
reset and the end of the pause, and the turn still runs its frame. -/
theorem play_follows_script_sample :
    let s : State := { State.initial (.ofSeed 0) .classic with
      memory := Memory.initial.store programStart [0x12, 0x00] }
    let m : Machine := {
      settings := { program := [0x12, 0x00], frequency := 60 }
      origin := s
      started := rfl
      state := s }
    let c : WindowSettings := { room := .counted }
    let script : List (List Event) :=
      [[.down (.char 'x'), .down .pause], [.up (.char 'x'), .quit, .down .f5, .down .pause], []]
    ColorScheme.ofName? c.scheme = some .classic ∧ 1 ≤ c.scale ∧ turnsOf script = script.take 2 ∧
      (play c {} m script).window.machine = (m.turns {} [] (script.take 2)).machine ∧
      (play c {} m script).window.machine.frames = 1 ∧
      (play c {} m script).status = .ok 0 := by
  intro s m c script
  have hname : ColorScheme.ofName? c.scheme = some .classic := by decide
  have hscale : 1 ≤ c.scale := by decide
  obtain ⟨hplayed, -, -⟩ := play_follows_script {} m script hname hscale
  obtain ⟨hmachine, hstatus⟩ := hplayed (by decide)
  have hturns : turnsOf script = script.take 2 := by decide
  have hleft : (m.turns {} [] (script.take 2)).machine.frames = 1 ∧
      (m.turns {} [] (script.take 2)).status = .ok 0 := by decide +kernel
  rw [hturns] at hmachine hstatus
  refine ⟨hname, hscale, hturns, hmachine, ?_, ?_⟩
  · rw [hmachine]
    exact hleft.1
  · rw [hstatus]
    exact hleft.2

/-- A scale of two to the 63 leaves no room for a picture: the second turn of this script is not
taken.  Nor is it, at any scale, if the stack pointer was set out of reach and the program
returns. -/
theorem play_stops_without_room :
    let image : List UInt8 := [0x12, 0x00, 0x00, 0xEE]
    let s : State := { State.initial (.ofSeed 0) .classic with
      memory := Memory.initial.store programStart image }
    let m : Machine := {
      settings := { program := image, frequency := 60 }
      origin := s
      started := rfl
      state := s }
    let stray : Machine := { m with
      state := { s with pc := 0x202, stack := { s.stack with pointer := 2147483649 } } }
    let c : WindowSettings := {
      scale := 9223372036854775808
      audio := false
      room := .counted }
    1 ≤ c.scale ∧ ColorScheme.ofName? c.scheme = some .classic ∧
      (play c {} m [[]]).window.machine.frames = 1 ∧
      (m.turns {} [] (turnsOf [[]])).machine.frames = 2 ∧
      (play c {} m [[]]).window.machine ≠ (m.turns {} [] (turnsOf [[]])).machine ∧
      (play c {} m [[]]).status = .error (.picture (.noRoom (c.room.shortage ⟨64, 32, c.scale⟩))) ∧
      (play { room := .counted } {} stray [[]]).window.machine.frames = 0 ∧
      (play { room := .counted } {} stray [[]]).status =
        .error (.astray { cause := .strayPointer 2147483648 }) := by
  intro image s m stray c
  have hplayed : (play c {} m [[]]).window.machine.frames = 1 ∧
      (play c {} m [[]]).status =
        .error (.picture (.noRoom (c.room.shortage ⟨64, 32, c.scale⟩))) := by decide +kernel
  have hturns : (m.turns {} [] (turnsOf [[]])).machine.frames = 2 := by decide +kernel
  have hstray : (play { room := .counted } {} stray [[]]).window.machine.frames = 0 ∧
      (play { room := .counted } {} stray [[]]).status =
        .error (.astray { cause := .strayPointer 2147483648 }) := by decide +kernel
  refine ⟨by decide, by decide, hplayed.1, hturns, fun heq => ?_, hplayed.2, hstray⟩
  have hframes := hplayed.1
  rw [heq, hturns] at hframes
  exact absurd hframes (by decide)

end Window

end Host

end ChipEight
