import ChipEight.Proofs.Steps

/-! # Runs of steps

A `Run` is a list of steps that succeeded one after the other, each with the states before
and after it and the word that ran.  Runs are not bounded and do not stop at a drawing or a
wait; a frame is a run that a budget and four kinds of endings cut short.

What a step keeps, a run keeps (`Run.invariant`).
-/
namespace ChipEight

/-- A step that succeeded. -/
structure Taken where
  /-- The state it was taken in. -/
  before : State
  /-- The word that ran. -/
  word : Word
  /-- The state it led to. -/
  after : State

/-- The steps taken one after the other from one state to another. -/
inductive Run : State → List Taken → State → Prop where
  | nil (s : State) : Run s [] s
  | cons {s s' t : State} {w : Word} {steps : List Taken} (h : s.step = .ok (s', w))
    (rest : Run s' steps t) : Run s (⟨s, w, s'⟩ :: steps) t

namespace Run

variable {s t u : State} {steps more : List Taken}

/-- What every step keeps, every run keeps. -/
theorem invariant {I : State → Prop}
    (keep : ∀ {s s' : State} {w : Word}, I s → s.step = .ok (s', w) → I s')
    (h : Run s steps t) (hs : I s) : I t := by
  induction h with
  | nil => exact hs
  | cons hstep _ ih => exact ih (keep hs hstep)

theorem of_nil (h : Run s [] t) : t = s := by
  cases h
  rfl

/-- A run that takes a step begins with it. -/
theorem of_cons {first : Taken} (h : Run s (first :: steps) t) :
    first.before = s ∧ s.step = .ok (first.after, first.word) ∧ Run first.after steps t := by
  cases h with
  | cons hstep rest => exact ⟨rfl, hstep, rest⟩

/-- A run stops on the way after any of its steps. -/
theorem of_append (h : Run s (steps ++ more) u) : ∃ t, Run s steps t ∧ Run t more u := by
  induction steps generalizing s with
  | nil => exact ⟨s, .nil s, h⟩
  | cons first steps ih =>
    obtain ⟨rfl, hstep, rest⟩ := h.of_cons
    obtain ⟨t, hrun, hmore⟩ := ih rest
    exact ⟨t, .cons hstep hrun, hmore⟩

/-- Every step on the way was taken. -/
theorem step_of_mem (h : Run s steps t) :
    ∀ u ∈ steps, u.before.step = .ok (u.after, u.word) := by
  induction h with
  | nil => exact fun _ hu => absurd hu List.not_mem_nil
  | cons hstep _ ih => exact List.forall_mem_cons.mpr ⟨hstep, ih⟩

/-- From one state there is only one way to take so many steps. -/
theorem unique {t' : State} {steps' : List Taken} (h : Run s steps t) (h' : Run s steps' t')
    (hlen : steps.length = steps'.length) : steps = steps' := by
  induction h generalizing steps' with
  | nil => exact (List.eq_nil_of_length_eq_zero hlen.symm).symm
  | cons hstep _ ih =>
    cases h' with
    | nil => cases hlen
    | cons hstep' rest' =>
      obtain ⟨rfl, rfl⟩ := Prod.mk.inj (Except.ok.inj (hstep.symm.trans hstep'))
      rw [ih rest' (Nat.succ.inj hlen)]

end Run

namespace State

variable {s s' : State} {w : Word}

/-! ## Stacks along a run -/

/-- What pushes and pops keep, a step keeps. -/
theorem step_stack {P : CallStack 16 → Prop}
    (push : ∀ {t u : CallStack 16} {a : Int}, P t → t.push a = .ok u → P u)
    (pop : ∀ {t u : CallStack 16} {a : UInt16}, P t → t.pop = .ok (u, a) → P u)
    (hs : P s.stack) (h : s.step = .ok (s', w)) : P s'.stack := by
  obtain ⟨-, op, -, -, he⟩ := step_ok h
  rcases he.stack with ⟨-, heq⟩ | ⟨-, hpush⟩ | ⟨-, hpop⟩
  · rw [heq]
    exact hs
  · exact push hs hpush
  · exact pop hs hpop

theorem step_inReach (hs : s.stack.InReach) (h : s.step = .ok (s', w)) : s'.stack.InReach :=
  step_stack CallStack.InReach.push CallStack.InReach.pop hs h

theorem step_tidy (hs : s.stack.Tidy) (h : s.step = .ok (s', w)) : s'.stack.Tidy :=
  step_stack CallStack.Tidy.push CallStack.Tidy.pop hs h

end State

end ChipEight
