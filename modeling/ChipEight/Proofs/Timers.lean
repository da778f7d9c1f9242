import ChipEight.Proofs.MachineCalls
import ChipEight.Proofs.Sessions
import ChipEight.Proofs.WriteFootprint

/-! # The timers

A frame counts both timers down once, as far as zero, before any of its instructions runs.  After
that a timer changes only where an instruction sets it (`State.step_reading`), so a run leaves the
value last set, or else what it found (`Run.reading`).  With the tick this settles every frame
(`Played.Faithful.reading`), however it ends, and the rest is counting frames: those in which
nothing sets the timer (`Frames.reading_of_untouched`), and those since it was set
(`Frames.reading_since_set`).

The two timers differ in the instruction that sets them only, and are treated as one `Timer`.
-/
namespace ChipEight

/-- The timers. -/
inductive Timer where
  /-- The timer that programs read. -/
  | delay
  /-- The timer that sounds the tone while it runs. -/
  | sound
  deriving DecidableEq, Repr

namespace Timer

/-- What a timer shows. -/
def reading (timer : Timer) (s : State) : UInt8 :=
  match timer with
  | delay => s.delayTimer
  | sound => s.soundTimer

/-- The operation that sets a timer. -/
def setter : Timer → Operation
  | delay => .setDelay
  | sound => .setSound

/-- The value that a step has set the timer to, if it has. -/
def set? (timer : Timer) (t : Taken) : Option UInt8 :=
  if timer.setter.Matches t.word then some (t.before.registers.get t.word.x) else none

/-- The value that the timer was last set to. -/
def lastSet? (timer : Timer) (steps : List Taken) : Option UInt8 :=
  (steps.filterMap timer.set?).getLast?

/-- None of the steps sets the timer. -/
def Untouched (timer : Timer) (steps : List Taken) : Prop :=
  ∀ t ∈ steps, ¬timer.setter.Matches t.word

variable {timer : Timer} {steps : List Taken} {t : Taken}

/-- What is set later counts. -/
theorem lastSet?_cons : timer.lastSet? (t :: steps) = (timer.lastSet? steps).or (timer.set? t) := by
  unfold lastSet?
  cases h : timer.set? t with
  | none => rw [List.filterMap_cons_none h, Option.or_none]
  | some v =>
    rw [List.filterMap_cons_some h, List.getLast?_cons]
    cases (steps.filterMap timer.set?).getLast? <;> rfl

theorem lastSet?_eq_none_iff : timer.lastSet? steps = none ↔ timer.Untouched steps := by
  rw [lastSet?, List.getLast?_eq_none_iff, List.filterMap_eq_nil_iff]
  refine forall₂_congr fun t _ => ?_
  rw [set?]
  split <;> simp [*]

end Timer

/-! ## Along a run -/

theorem State.step_reading {s s' : State} {w : Word} (timer : Timer) (h : s.step = .ok (s', w)) :
    timer.reading s' = (timer.set? ⟨s, w, s'⟩).getD (timer.reading s) := by
  obtain ⟨-, op, hop, -, he⟩ := step_ok h
  by_cases hw : timer.setter.Matches w
  · have hset : timer.set? ⟨s, w, s'⟩ = some (s.registers.get w.x) := if_pos hw
    rw [hset]
    obtain rfl := hop.unique hw
    cases timer with
    | delay =>
      cases he
      rfl
    | sound =>
      cases he
      rfl
  · have hset : timer.set? ⟨s, w, s'⟩ = none := if_neg hw
    have hne : op ≠ timer.setter := by
      rintro rfl
      exact hw hop
    rw [hset]
    cases timer with
    | delay => exact he.delayTimer hne
    | sound => exact he.soundTimer hne

/-- **A run leaves a timer as it was last set**, or else as it was. -/
theorem Run.reading {s t : State} {steps : List Taken} (h : Run s steps t) (timer : Timer) :
    timer.reading t = (timer.lastSet? steps).getD (timer.reading s) := by
  induction h with
  | nil => rfl
  | cons hstep _ ih =>
    rw [ih, State.step_reading timer hstep, Timer.lastSet?_cons]
    cases timer.lastSet? _ <;> rfl

/-! ## Over frames -/

theorem State.reading_beginFrame (s : State) (keys : Option Keypad) (timer : Timer) :
    (timer.reading (s.beginFrame keys)).toNat = (timer.reading s).toNat - 1 := by
  have hcount (b : UInt8) : (UInt8.ofNat (b.toNat - 1)).toNat = b.toNat - 1 := by
    have hlt := b.toNat_lt
    rw [UInt8.toNat_ofNat']
    exact Nat.mod_eq_of_lt (by omega)
  rw [beginFrame, tick_eq]
  cases timer with
  | delay => exact hcount s.delayTimer
  | sound => exact hcount s.soundTimer

/-- **What a frame does to a timer.** -/
theorem Played.Faithful.reading {f : Played} (h : f.Faithful) (timer : Timer) :
    (timer.reading f.account.state).toNat =
      match timer.lastSet? f.steps with
      | some v => v.toNat
      | none => (timer.reading f.before).toNat - 1 := by
  rw [h.run.reading timer]
  cases timer.lastSet? f.steps with
  | some v => rfl
  | none => exact f.before.reading_beginFrame f.keys timer

theorem Played.Faithful.reading_of_untouched {f : Played} {timer : Timer} (h : f.Faithful)
    (hno : timer.Untouched f.steps) :
    (timer.reading f.account.state).toNat = (timer.reading f.before).toNat - 1 := by
  have hframe := h.reading timer
  rw [Timer.lastSet?_eq_none_iff.mpr hno] at hframe
  exact hframe

namespace Frames

variable {s t : State} {frames : List Played} {timer : Timer}

theorem reading_of_untouched (h : Frames s frames t)
    (hno : ∀ f ∈ frames, timer.Untouched f.steps) :
    (timer.reading t).toNat = (timer.reading s).toNat - frames.length := by
  induction h with
  | nil => rfl
  | @cons t f frames hf _ ih =>
    obtain ⟨hfirst, hrest⟩ := List.forall_mem_cons.mp hno
    rw [ih hrest, hf.reading_of_untouched hfirst, List.length_cons]
    omega

/-- A timer that was set, and then left alone for some frames, has counted them. -/
theorem reading_since_set (h : Frames s frames t) {n i : Nat} {f g : Played} {v : UInt8}
    (hf : frames[n]? = some f) (hv : timer.lastSet? f.steps = some v)
    (hg : frames[n + i]? = some g)
    (hno : ∀ j g', 0 < j → j ≤ i → frames[n + j]? = some g' → timer.Untouched g'.steps) :
    (timer.reading g.account.state).toNat = v.toNat - i := by
  induction i generalizing g with
  | zero =>
    obtain rfl := Option.some.inj (hf.symm.trans hg)
    have hframe := (h.faithful f (List.mem_of_getElem? hf)).reading timer
    rw [hv] at hframe
    exact hframe
  | succ i ih =>
    -- the frame before this one
    obtain ⟨hlt, -⟩ := List.getElem?_eq_some_iff.mp hg
    have hprevious : frames[n + i]? = some frames[n + i] := List.getElem?_eq_getElem (by omega)
    have hcount := ih hprevious fun j g' hj hle => hno j g' hj (Nat.le_succ_of_le hle)
    have hfaithful := h.faithful g (List.mem_of_getElem? hg)
    have huntouched := hno (i + 1) g (Nat.succ_pos i) (Nat.le_refl _) hg
    rw [hfaithful.reading_of_untouched huntouched, h.before_succ hprevious hg]
    omega

end Frames

/-- **The cadence of a timer.**

Whatever frames are run, at the end of each a timer shows what it was last set to in that frame,
or else one less than at the end of the frame before, down to zero.  So as long as no instruction
sets it, it has counted all frames.  If a frame last sets it to `v`, then `i` frames later, if none
of these has set it again, it shows `v - i`, and the tone sounds in exactly `v` frames from that
one on.  The timers of a machine that has halted stand still. -/
theorem timer_cadence (s : State) (calls : List (Option Keypad × Int)) (timer : Timer) :
    (∃ frames, Frames s frames (s.runFrames calls) ∧ frames.map Played.call = calls ∧
      (∀ f ∈ frames, (timer.reading f.account.state).toNat =
        match timer.lastSet? f.steps with
        | some v => v.toNat
        | none => (timer.reading f.before).toNat - 1) ∧
      ((∀ f ∈ frames, timer.Untouched f.steps) →
        (timer.reading (s.runFrames calls)).toNat = (timer.reading s).toNat - calls.length) ∧
      ∀ n f v i g, frames[n]? = some f → timer.lastSet? f.steps = some v →
        frames[n + i]? = some g →
        (∀ j g', 0 < j → j ≤ i → frames[n + j]? = some g' → timer.Untouched g'.steps) →
        (timer.reading g.account.state).toNat = v.toNat - i ∧
          (timer = .sound → (g.account.state.soundActive = true ↔ i < v.toNat))) ∧
    ∀ (m : Machine) (cs : List Call), m.halted = true → (∀ c ∈ cs, c.request ≠ .reset) →
      timer.reading (m.after cs).state = timer.reading m.state := by
  constructor
  · obtain ⟨frames, hframes, hcalls⟩ := exists_frames s calls
    refine ⟨frames, hframes, hcalls, ?_, ?_, ?_⟩
    · intro f hf
      exact (hframes.faithful f hf).reading timer
    · intro hno
      rw [hframes.reading_of_untouched hno, ← hcalls, List.length_map]
    · intro n f v i g hf hv hg hno
      have hreading := hframes.reading_since_set hf hv hg hno
      refine ⟨hreading, ?_⟩
      rintro rfl
      have hsound : (g.account.state.soundTimer).toNat = v.toNat - i := hreading
      rw [State.soundActive, decide_eq_true_iff, UInt8.lt_iff_toNat_lt, hsound]
      show 0 < _ ↔ _
      omega
  · intro m cs hhalted hcs
    obtain ⟨f, hm⟩ := Option.isSome_iff_exists.mp hhalted
    rw [Machine.after_of_halted hm hcs]

/-- A program that sets the timer of the tone and then makes no sense.  The machine halts in its
first frame, and the timer stands still from then on. -/
theorem timer_cadence_sample :
    let image : List UInt8 := [0x63, 0x05, 0xF3, 0x18, 0xFF, 0xFF]
    let s : State := { State.initial (.ofSeed 0) {} with
      memory := Memory.initial.store programStart image }
    let start : Machine := {
      settings := { program := image }
      origin := s
      started := rfl
      state := s }
    let m := start.after [⟨{}, .frame none⟩]
    let cs : List Call := [⟨{}, .frame none⟩, ⟨{}, .frame (some (.row []))⟩]
    m.halted = true ∧ (∀ c ∈ cs, c.request ≠ .reset) ∧ m.state.soundTimer = 5 ∧
      (m.after cs).state.soundTimer = m.state.soundTimer ∧
      ∃ frames, Frames s frames (s.runFrames [(none, 3), (none, 0)]) ∧
        ∀ f ∈ frames, (Timer.sound.reading f.account.state).toNat =
          match Timer.sound.lastSet? f.steps with
          | some v => v.toNat
          | none => (Timer.sound.reading f.before).toNat - 1 := by
  intro image s start m cs
  have hm : m.halted = true ∧ m.state.soundTimer = 5 := by decide +kernel
  have hcs : ∀ c ∈ cs, c.request ≠ .reset := by
    intro c hc
    rcases List.mem_cons.mp hc with rfl | hc
    · exact nofun
    · rw [List.mem_singleton.mp hc]
      exact nofun
  obtain ⟨⟨frames, hframes, -, hreading, -⟩, hstill⟩ :=
    timer_cadence s [(none, 3), (none, 0)] .sound
  exact ⟨hm.1, hcs, hm.2, hstill m cs hm.1 hcs, frames, hframes, hreading⟩

end ChipEight
