import ChipEight.Frame
import ChipEight.Proofs.Runs

/-! # A frame is a bounded run

The instructions of a frame are a run of steps from the state in which the frame begins,
and the frame ends where the first of four things happens: the budget is used up, a sprite
is drawn, an instruction waits for a key, or a step is refused.

`runSteps` tells a wait from a key taken by looking whether the program counter is where it
was.  That this is the same as looking for a released key, and that a wait changes nothing
at all, is `step_of_waits`.  `Closes` says how a run of at most so many steps ends, with one
clause for each ending, and is kept when a step that ends nothing is put before the run
(`Closes.cons`); `runSteps_closes` is the induction over the budget.
-/
namespace ChipEight

/-! ## The steps that end a frame -/

namespace Taken

/-- A step that drew a sprite. -/
def Draws (t : Taken) : Prop := Operation.draw.Matches t.word

/-- A step that waited for a key: no key that was down in the frame before is up. -/
def Waits (t : Taken) : Prop :=
  Operation.waitKey.Matches t.word ∧
    ∀ k : Fin 16, t.before.previousKeypad.get k = true → t.before.keypad.get k = true

/-- The entry of the step in the account of a frame. -/
def entry (t : Taken) : Executed := ⟨t.before.pc, t.word⟩

end Taken

namespace Word

theorem isDraw_iff {w : Word} : w.isDraw = true ↔ Operation.draw.Matches w := beq_iff_eq

theorem isKeyWait_iff {w : Word} : w.isKeyWait = true ↔ Operation.waitKey.Matches w := by
  rw [isKeyWait, Bool.and_eq_true, beq_iff_eq, beq_iff_eq]
  rfl

end Word

namespace Keypad

theorem released?_eq_none_iff_held {before now : Keypad} :
    released? before now = none ↔ ∀ k : Fin 16, before.get k = true → now.get k = true := by
  rw [released?_eq_none_iff]
  refine forall_congr' fun k => ?_
  cases before.get k <;> cases now.get k <;> decide

end Keypad

namespace State

variable {s s' : State} {w : Word}

/-- Passing a word moves the program counter. -/
theorem past_pc_ne (s : State) : s.past.pc ≠ s.pc := by
  intro h
  have htwo : s.pc + 2 - s.pc = s.pc - s.pc := congrArg (· - s.pc) h
  rw [UInt16.add_comm, UInt16.add_sub_cancel, UInt16.sub_self] at htwo
  exact absurd htwo (by decide)

theorem past_pc_sub (s : State) : s.past.pc - 2 = s.pc := UInt16.add_sub_cancel _ _

/-- **A wait leaves the state as it was**, and no other step for a key leaves the program
counter where it was. -/
theorem step_of_waits (h : s.step = .ok (s', w)) (hw : Operation.waitKey.Matches w) :
    (Taken.Waits ⟨s, w, s'⟩ ∧ s' = s) ∨ (¬Taken.Waits ⟨s, w, s'⟩ ∧ s'.pc ≠ s.pc) := by
  obtain ⟨-, op, hop, -, he⟩ := step_ok h
  obtain rfl := hop.unique hw
  cases he with
  | wait hk =>
    refine Or.inl ⟨⟨hw, Keypad.released?_eq_none_iff_held.mp hk⟩, ?_⟩
    show { s with pc := s.past.pc - 2 } = s
    rw [past_pc_sub]
  | takeKey hk =>
    refine Or.inr ⟨fun hwait => ?_, s.past_pc_ne⟩
    have hnone := Keypad.released?_eq_none_iff_held.mpr hwait.2
    cases hnone.symm.trans hk

/-- The ending that a step brings about, if it does. -/
theorem endingAfter_cases (h : s.step = .ok (s', w)) :
    (s.endingAfter s' w = some .draw ∧ Taken.Draws ⟨s, w, s'⟩) ∨
    (s.endingAfter s' w = some .keyWait ∧ Taken.Waits ⟨s, w, s'⟩ ∧ s' = s) ∨
    (s.endingAfter s' w = none ∧ ¬Taken.Draws ⟨s, w, s'⟩ ∧ ¬Taken.Waits ⟨s, w, s'⟩) := by
  unfold endingAfter
  by_cases hd : w.isDraw = true
  · exact Or.inl ⟨if_pos hd, Word.isDraw_iff.mp hd⟩
  · have hnd : ¬Taken.Draws ⟨s, w, s'⟩ := fun hm => hd (Word.isDraw_iff.mpr hm)
    rw [if_neg hd]
    by_cases hk : w.isKeyWait = true
    · rcases step_of_waits h (Word.isKeyWait_iff.mp hk) with ⟨hw, heq⟩ | ⟨hnw, hne⟩
      · exact Or.inr (Or.inl ⟨by simp [hk, heq], hw, heq⟩)
      · exact Or.inr (Or.inr ⟨by simp [hne], hnd, hnw⟩)
    · refine Or.inr (Or.inr ⟨by simp [hk], hnd, fun hw => ?_⟩)
      exact hk (Word.isKeyWait_iff.mpr hw.1)

end State

/-! ## How a run closes -/

/-- How the steps of a frame with a budget close, by the ending of the frame. -/
def Closes (budget : Nat) (steps : List Taken) (last : State) : Ending → Prop
  | .budget => steps.length = budget ∧ ∀ t ∈ steps, ¬t.Draws ∧ ¬t.Waits
  | .draw => ∃ init t, steps = init ++ [t] ∧ (∀ u ∈ init, ¬u.Draws ∧ ¬u.Waits) ∧ t.Draws
  | .keyWait => ∃ init t, steps = init ++ [t] ∧ (∀ u ∈ init, ¬u.Draws ∧ ¬u.Waits) ∧
      t.Waits ∧ t.after = t.before
  | .fault f => steps.length < budget ∧ (∀ t ∈ steps, ¬t.Draws ∧ ¬t.Waits) ∧ last.step = .error f

theorem Closes.cons {budget : Nat} {steps : List Taken} {last : State} {e : Ending} {t : Taken}
    (h : Closes budget steps last e) (ht : ¬t.Draws ∧ ¬t.Waits) :
    Closes (budget + 1) (t :: steps) last e := by
  have all : ∀ {l : List Taken}, (∀ u ∈ l, ¬u.Draws ∧ ¬u.Waits) →
      ∀ u ∈ t :: l, ¬u.Draws ∧ ¬u.Waits :=
    fun hl => List.forall_mem_cons.mpr ⟨ht, hl⟩
  cases e with
  | budget => exact ⟨congrArg (· + 1) h.1, all h.2⟩
  | draw =>
    obtain ⟨init, u, rfl, hinit, hu⟩ := h
    exact ⟨t :: init, u, rfl, all hinit, hu⟩
  | keyWait =>
    obtain ⟨init, u, rfl, hinit, hu⟩ := h
    exact ⟨t :: init, u, rfl, all hinit, hu⟩
  | fault f => exact ⟨Nat.succ_lt_succ h.1, all h.2.1, h.2.2⟩

namespace State

/-- **The steps of a frame**: a run within the budget that closes as the frame ended. -/
theorem runSteps_closes (budget : Nat) (s : State) :
    ∃ steps, Run s steps (s.runSteps budget).state ∧
      (s.runSteps budget).executed = steps.map Taken.entry ∧ steps.length ≤ budget ∧
      Closes budget steps (s.runSteps budget).state (s.runSteps budget).ending := by
  induction budget generalizing s with
  | zero => exact ⟨[], .nil s, rfl, Nat.le_refl 0, rfl, fun _ h => absurd h List.not_mem_nil⟩
  | succ n ih =>
    cases hstep : s.step with
    | error f =>
      rw [runSteps_succ_of_error n hstep]
      exact ⟨[], .nil s, rfl, Nat.zero_le _, Nat.succ_pos n,
        fun _ h => absurd h List.not_mem_nil, hstep⟩
    | ok p =>
      obtain ⟨s', w⟩ := p
      have one : Run s [⟨s, w, s'⟩] s' := .cons hstep (.nil s')
      rcases endingAfter_cases hstep with ⟨he, hd⟩ | ⟨he, hw, heq⟩ | ⟨he, hno⟩
      · rw [runSteps_succ_of_ending n hstep he]
        exact ⟨_, one, rfl, Nat.succ_pos n, [], _, rfl, fun _ h => absurd h List.not_mem_nil, hd⟩
      · rw [runSteps_succ_of_ending n hstep he]
        exact ⟨_, one, rfl, Nat.succ_pos n, [], _, rfl, fun _ h => absurd h List.not_mem_nil, hw,
          heq⟩
      · obtain ⟨steps, hrun, hexec, hlen, hclose⟩ := ih s'
        rw [runSteps_succ_of_none n hstep he]
        refine ⟨⟨s, w, s'⟩ :: steps, .cons hstep hrun, ?_, Nat.succ_le_succ hlen, hclose.cons hno⟩
        exact congrArg (Taken.entry ⟨s, w, s'⟩ :: ·) hexec

theorem runFrame_closes (s : State) (keys : Option Keypad) (budget : Int) :
    ∃ steps, Run (s.beginFrame keys) steps (s.runFrame keys budget).state ∧
      (s.runFrame keys budget).executed = steps.map Taken.entry ∧
      steps.length ≤ budget.toNat ∧
      Closes budget.toNat steps (s.runFrame keys budget).state (s.runFrame keys budget).ending :=
  runSteps_closes budget.toNat (s.beginFrame keys)

end State

/-! ## The four exits of a frame -/

/-- The ways out of a frame. -/
inductive Exit where
  /-- The budget is used up. -/
  | budget
  /-- A sprite was drawn. -/
  | draw
  /-- An instruction waits for a key. -/
  | keyWait
  /-- The next step is refused. -/
  | fault
  deriving DecidableEq, Repr

/-- What an exit tells of a frame with this budget and these steps: which of its marks are
set, and what the last step did or the next one would.  The fault names the address of the step if
the program brought it about. -/
def Exit.Holds (budget : Int) (steps : List Taken) (f : Frame) : Exit → Prop
  | .budget =>
    f.drew = false ∧ f.waiting = false ∧ f.ending.fault? = none ∧
      (steps.length : Int) = max budget 0 ∧
      ∀ t, steps.getLast? = some t → ¬t.Draws ∧ ¬t.Waits
  | .draw =>
    f.drew = true ∧ f.waiting = false ∧ f.ending.fault? = none ∧
      ∃ t, steps.getLast? = some t ∧ t.Draws
  | .keyWait =>
    f.drew = false ∧ f.waiting = true ∧ f.ending.fault? = none ∧
      ∃ t, steps.getLast? = some t ∧ t.Waits ∧ t.after = t.before
  | .fault =>
    f.drew = false ∧ f.waiting = false ∧
      ∃ e, f.ending.fault? = some e ∧ (steps.length : Int) < budget ∧
        f.state.step = .error e ∧
        e.pc = if e.cause.isOfProgram then some (f.state.pc.toNat : Int) else none

/-- The exit that an ending stands for. -/
def Ending.exit : Ending → Exit
  | .budget => .budget
  | .draw => .draw
  | .keyWait => .keyWait
  | .fault _ => .fault

theorem Closes.not_ends_of_mem_dropLast {budget : Nat} {steps : List Taken} {last : State}
    {e : Ending} (h : Closes budget steps last e) :
    ∀ t ∈ steps.dropLast, ¬t.Draws ∧ ¬t.Waits := by
  cases e with
  | budget => exact fun t ht => h.2 t (List.dropLast_subset _ ht)
  | draw | keyWait =>
    obtain ⟨init, u, rfl, hinit, -⟩ := h
    rwa [List.dropLast_concat]
  | fault f => exact fun t ht => h.2.1 t (List.dropLast_subset _ ht)

/-- A run that closes as a frame ended leaves it by the exit of that ending. -/
theorem Closes.exit_holds {budget : Int} {steps : List Taken} {f : Frame}
    (h : Closes budget.toNat steps f.state f.ending) : f.ending.exit.Holds budget steps f := by
  obtain ⟨state, executed, ending⟩ := f
  cases ending with
  | budget =>
    refine ⟨rfl, rfl, rfl, ?_, fun t ht => h.2 t (List.mem_of_getLast? ht)⟩
    rw [h.1]
    omega
  | draw =>
    obtain ⟨init, t, rfl, -, hd⟩ := h
    exact ⟨rfl, rfl, rfl, t, List.getLast?_concat, hd⟩
  | keyWait =>
    obtain ⟨init, t, rfl, -, hw, heq⟩ := h
    exact ⟨rfl, rfl, rfl, t, List.getLast?_concat, hw, heq⟩
  | fault e =>
    obtain ⟨hlen, -, hstep⟩ := h
    obtain ⟨c, hc, -⟩ := State.step_error hstep
    exact ⟨rfl, rfl, e, rfl, by omega, hstep, by rw [hc]⟩

/-- The marks of a frame tell its exit. -/
theorem Exit.Holds.eq_exit {budget : Int} {steps : List Taken} {f : Frame} {x : Exit}
    (h : x.Holds budget steps f) : x = f.ending.exit := by
  obtain ⟨state, executed, ending⟩ := f
  cases x with
  | budget =>
    obtain ⟨hd, hw, hf, -⟩ := h
    cases ending with
    | budget => rfl
    | draw => cases hd
    | keyWait => cases hw
    | fault e => cases hf
  | draw =>
    obtain ⟨hd, -⟩ := h
    cases ending with
    | draw => rfl
    | _ => cases hd
  | keyWait =>
    obtain ⟨-, hw, -⟩ := h
    cases ending with
    | keyWait => rfl
    | _ => cases hw
  | fault =>
    obtain ⟨-, -, e, hf, -⟩ := h
    cases ending with
    | fault e' => rfl
    | _ => cases hf

/-- The account of a frame is one that a host may use, unless the frame met a stack pointer
out of reach. -/
theorem Closes.valid_or {budget : Nat} {steps : List Taken} {f : Frame}
    (h : Closes budget steps f.state f.ending) :
    f.valid = .ok f ∨ ¬f.state.stack.InReach ∧
      ∃ e p, f.ending = .fault e ∧ e.cause = .strayPointer p ∧ f.valid = .error e := by
  obtain ⟨state, executed, ending⟩ := f
  cases ending with
  | fault e =>
    obtain ⟨c, he, hmeet⟩ := State.step_error h.2.2
    have hcause : e.cause = c := congrArg Fault.cause he
    rcases hmeet.isOfProgram_or with hprogram | ⟨p, hp, hstray⟩
    · exact Or.inl (if_pos (hcause ▸ hprogram))
    · have hno : ¬e.cause.isOfProgram = true := by
        rw [hcause, hp]
        exact Bool.false_ne_true
      exact Or.inr ⟨hstray, e, p, rfl, hcause.trans hp, if_neg hno⟩
  | _ => exact Or.inl rfl

namespace State

/-- A frame leaves a stack in reach as it finds one. -/
theorem runFrame_inReach {s : State} (hs : s.stack.InReach) (keys : Option Keypad) (budget : Int) :
    (s.runFrame keys budget).state.stack.InReach := by
  obtain ⟨steps, hrun, -⟩ := s.runFrame_closes keys budget
  exact hrun.invariant (I := fun t => t.stack.InReach) step_inReach hs

theorem valid_runFrame_of_inReach {s : State} (hs : s.stack.InReach) (keys : Option Keypad)
    (budget : Int) : (s.runFrame keys budget).valid = .ok (s.runFrame keys budget) := by
  obtain ⟨steps, -, -, -, hclose⟩ := s.runFrame_closes keys budget
  rcases hclose.valid_or with hvalid | ⟨hstray, -⟩
  · exact hvalid
  · exact absurd (runFrame_inReach hs keys budget) hstray

/-- **A frame is a bounded iteration of steps.**

From the state in which the keys are read and the timers have ticked, a frame has taken so
many steps one after the other, no more than the budget, and none but the last drew or
waited.  It has left by exactly one of the four exits.  The host is given this account,
unless the fault is a stray stack pointer: that one the host set up itself, and instead of an
account it is given the fault. -/
theorem runFrame_bounded_iteration (s : State) (keys : Option Keypad) (budget : Int) :
    ∃ steps,
      Run (s.acceptKeys (keys.getD s.keypad)).tick steps (s.runFrame keys budget).state ∧
      (s.runFrame keys budget).executed = steps.map Taken.entry ∧
      (s.runFrame keys budget).count = steps.length ∧
      (steps.length : Int) ≤ max budget 0 ∧
      (∀ t ∈ steps.dropLast, ¬t.Draws ∧ ¬t.Waits) ∧
      (∃ x : Exit, x.Holds budget steps (s.runFrame keys budget) ∧
        ∀ y : Exit, y.Holds budget steps (s.runFrame keys budget) → y = x) ∧
      ((s.runFrame keys budget).valid = .ok (s.runFrame keys budget) ∨
        ¬s.stack.InReach ∧ ∃ e p, (s.runFrame keys budget).ending = .fault e ∧
          e.cause = .strayPointer p ∧ (s.runFrame keys budget).valid = .error e) := by
  obtain ⟨steps, hrun, hexec, hlen, hclose⟩ := s.runFrame_closes keys budget
  refine ⟨steps, hrun, hexec, ?_, by omega, hclose.not_ends_of_mem_dropLast,
    ⟨_, hclose.exit_holds, fun y hy => hy.eq_exit⟩, ?_⟩
  · rw [Frame.count, hexec, List.length_map]
  · rcases hclose.valid_or with hvalid | ⟨hstray, hfault⟩
    · exact Or.inl hvalid
    · -- steps cannot have led a stack in reach astray
      exact Or.inr ⟨fun hs => hstray (runFrame_inReach hs keys budget), hfault⟩

/-- A return with the stack pointer at two to the 31 and one more: there is no account of
this frame. -/
theorem valid_runFrame_astray :
    let s : State := { State.initial (.ofSeed 0) .classic with
      memory := Memory.initial.store programStart [0x00, 0xEE]
      stack := { CallStack.empty 16 with pointer := 2147483649 } }
    (s.runFrame none 11).valid =
      .error { cause := .strayPointer 2147483648, pc := none } := by
  intro s
  have hword : (s.beginFrame none).word = 0x00EE := by decide +kernel
  have hop : Operation.returnFromCall.Matches
      ((s.beginFrame none).memory.chain (s.beginFrame none).word 0) := hword
  have hstep : (s.beginFrame none).step =
      .error { cause := .strayPointer 2147483648, pc := none } :=
    step_eq_error_iff.mpr ⟨{ cause := .strayPointer 2147483648 },
      stepHere_eq_error_iff.mpr (Or.inr ⟨by decide, Or.inr ⟨_, _,
        settle_of_matches (Nat.zero_le _) (Memory.passes_zero _) hop, rfl⟩⟩), rfl⟩
  have hframe : s.runFrame none 11 = _ := runSteps_succ_of_error 10 hstep
  rw [hframe]
  rfl

end State

end ChipEight
