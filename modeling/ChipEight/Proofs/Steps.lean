import ChipEight.Proofs.Effects
import ChipEight.Proofs.MachineCodeChain

/-! # One step

A step fetches a word, settles what it comes down to and runs that.  This module says once
what a step that succeeds has done (`step_ok`) and what a step that is refused has met
(`step_error`); both are read off the laws of the three parts.

`State.word` is the word at the program counter and `State.past` the state in which it
runs, with the program counter past it.  `State.Unsettled` lists why a word comes down to no
operation; with `settle_eq_ok_iff` and `settle_eq_error_iff` nothing more needs to be known
of the search.
-/
namespace ChipEight

namespace State

variable {s s' : State} {w : Word} {op : Operation} {f : Fault}

/-! ## Fetching -/

/-- The word at the program counter. -/
def word (s : State) : Word := s.memory.word s.pc.toNat

/-- The state in which the word at the program counter runs. -/
def past (s : State) : State := { s with pc := s.pc + 2 }

theorem fetch_of_le (h : s.pc.toNat ≤ 0xFFE) : s.fetch = .ok (s.past, s.word) := by
  rw [fetch, s.memory.wordAt_eq_word (by omega)]
  rfl

/-- A word that cannot be fetched is refused by the first address that memory does not
have. -/
theorem fetch_of_lt (h : 0xFFE < s.pc.toNat) :
    s.fetch = .error { cause := .outOfBoundsAddress (max s.pc.toNat 0x1000 : Nat) } := by
  rw [fetch, s.memory.wordAt_of_le (by omega)]
  rfl

/-! ## Settling -/

/-- What a word comes down to depends on memory alone. -/
theorem follow_congr {t : State} (h : s.memory = t.memory) (n : Nat) (w : Word) :
    s.follow n w = t.follow n w := by
  induction n generalizing w with
  | zero => rfl
  | succ n ih =>
    rw [follow_succ, follow_succ, h]
    simp only [ih]

theorem settle_congr {t : State} (h : s.memory = t.memory) (w : Word) :
    s.settle w = t.settle w := by
  rw [settle, settle]
  simp only [follow_congr h]

/-- Why a word comes down to no operation. -/
inductive Unsettled (s : State) (v : Word) : Fault.Cause → Prop where
  /-- Its chain breaks off at a call of the last address. -/
  | breaks {j : Nat} (hj : j < maxHops) (hp : s.memory.Passes v j)
    (hw : (s.memory.chain v j).IsMachineCode) (hlast : (s.memory.chain v j).nnn.toNat = 0xFFF) :
    Unsettled s v (.outOfBoundsAddress 0x1000)
  /-- Its chain is still passing on after the hops allowed. -/
  | endless (hp : s.memory.Passes v maxHops) (hw : (s.memory.chain v maxHops).IsMachineCode) :
    Unsettled s v (.invalidOpcode (s.memory.chain v maxHops).toNat .endlessChain)
  /-- Its chain lands on a word that stands for nothing. -/
  | unassigned {k : Nat} (hk : k ≤ maxHops) (hp : s.memory.Passes v k)
    (hu : (s.memory.chain v k).IsUnassigned) :
    Unsettled s v (.invalidOpcode (s.memory.chain v k).toNat .unassigned)

theorem Unsettled.settle_eq {v : Word} {c : Fault.Cause} (h : s.Unsettled v c) :
    s.settle v = .error { cause := c } := by
  cases h with
  | breaks hj hp hw hlast => exact settle_of_breaks hj hp hw hlast
  | endless hp hw => exact settle_of_endless hp hw
  | unassigned hk hp hu =>
    rw [settle_of_lands hk hp hu.not_machineCode, settle_eq_settleWithin]
    exact settleWithin_of_unassigned _ hu

theorem settle_of_matches {v : Word} {k : Nat} (hk : k ≤ maxHops) (hp : s.memory.Passes v k)
    (hop : op.Matches (s.memory.chain v k)) : s.settle v = .ok (op, s.memory.chain v k) := by
  rw [settle_of_lands hk hp fun hm => hm.not_matches op hop, settle_eq_settleWithin]
  exact settleWithin_of_matches _ hop

/-- Either the chain of a word lands on one that matches an operation, or there is a reason
why it comes down to none. -/
theorem matches_or_unsettled (s : State) (v : Word) :
    (∃ k ≤ maxHops, s.memory.Passes v k ∧ ∃ op : Operation, op.Matches (s.memory.chain v k)) ∨
      ∃ c, s.Unsettled v c := by
  rcases s.memory.chain_cases v maxHops with ⟨k, hk, hp, hw⟩ | ⟨j, hj, hp, hw, hlast⟩ | ⟨hp, hw⟩
  · rcases (s.memory.chain v k).kind_cases with hm | hop | hu
    · exact absurd hm hw
    · exact Or.inl ⟨k, hk, hp, hop⟩
    · exact Or.inr ⟨_, .unassigned hk hp hu⟩
  · exact Or.inr ⟨_, .breaks hj hp hw hlast⟩
  · exact Or.inr ⟨_, .endless hp hw⟩

/-- **What a word comes down to** is what the word its chain lands on matches. -/
theorem settle_eq_ok_iff {v : Word} :
    s.settle v = .ok (op, w) ↔
      ∃ k ≤ maxHops, s.memory.Passes v k ∧ s.memory.chain v k = w ∧ op.Matches w := by
  constructor
  · intro h
    rcases s.matches_or_unsettled v with ⟨k, hk, hp, op', hop⟩ | ⟨c, hc⟩
    · obtain ⟨rfl, rfl⟩ := Prod.mk.inj (Except.ok.inj (h.symm.trans (settle_of_matches hk hp hop)))
      exact ⟨k, hk, hp, rfl, hop⟩
    · cases h.symm.trans hc.settle_eq
  · rintro ⟨k, hk, hp, rfl, hop⟩
    exact settle_of_matches hk hp hop

/-- **A word comes down to nothing for one of these reasons**, and each is met. -/
theorem settle_eq_error_iff {v : Word} :
    s.settle v = .error f ↔ ∃ c, s.Unsettled v c ∧ f = { cause := c } := by
  constructor
  · intro h
    rcases s.matches_or_unsettled v with ⟨k, hk, hp, op, hop⟩ | ⟨c, hc⟩
    · cases h.symm.trans (settle_of_matches hk hp hop)
    · exact ⟨c, hc, Except.error.inj (h.symm.trans hc.settle_eq)⟩
  · rintro ⟨c, hc, rfl⟩
    exact hc.settle_eq

theorem Unsettled.canMeet {v : Word} {c : Fault.Cause} (h : s.Unsettled v c) : s.CanMeet c := by
  cases h <;> trivial

/-! ## Stepping -/

theorem stepHere_of_le (h : s.pc.toNat ≤ 0xFFE) :
    s.stepHere = s.settle s.word >>= fun p => (p.1.run p.2 s.past).map fun t => (t, p.2) := by
  have hsettle : s.past.settle s.word = s.settle s.word := settle_congr rfl _
  rw [stepHere, fetch_of_le h]
  show s.past.settle s.word >>= _ = _
  rw [hsettle]
  refine congrArg (s.settle s.word >>= ·) (funext fun p => ?_)
  show p.1.run p.2 s.past >>= _ = _
  cases p.1.run p.2 s.past <;> rfl

theorem stepHere_of_lt (h : 0xFFE < s.pc.toNat) :
    s.stepHere = .error { cause := .outOfBoundsAddress (max s.pc.toNat 0x1000 : Nat) } := by
  rw [stepHere, fetch_of_lt h]
  rfl

theorem step_eq_ok_iff : s.step = .ok (s', w) ↔ s.stepHere = .ok (s', w) := by
  rw [step, Fault.mapError_eq_ok_iff]

theorem step_eq_error_iff :
    s.step = .error f ↔ ∃ g, s.stepHere = .error g ∧ f = g.locate s.pc.toNat := by
  rw [step, Fault.mapError_eq_error_iff]

/-- A step that succeeds has fetched a word, settled what it comes down to, and run that. -/
theorem step_eq_ok_iff_run :
    s.step = .ok (s', w) ↔
      s.pc.toNat ≤ 0xFFE ∧ ∃ op, s.settle s.word = .ok (op, w) ∧ op.run w s.past = .ok s' := by
  rw [step_eq_ok_iff]
  rcases Nat.lt_or_ge 0xFFE s.pc.toNat with hlt | hle
  · rw [stepHere_of_lt hlt]
    simp [Nat.not_le.mpr hlt]
  · rw [stepHere_of_le hle, Fault.bind_eq_ok_iff]
    constructor
    · rintro ⟨⟨op, v⟩, hsettle, hpair⟩
      obtain ⟨t, hrun, heq⟩ := Fault.map_eq_ok_iff.mp hpair
      obtain ⟨rfl, rfl⟩ := Prod.mk.inj heq
      exact ⟨hle, op, hsettle, hrun⟩
    · rintro ⟨-, op, hsettle, hrun⟩
      exact ⟨(op, w), hsettle, Fault.map_eq_ok_iff.mpr ⟨s', hrun, rfl⟩⟩

/-- A word whose chain lands on an operation runs it, with the program counter past the word. -/
theorem step_of_matches {k : Nat} (hpc : s.pc.toNat ≤ 0xFFE) (hk : k ≤ maxHops)
    (hp : s.memory.Passes s.word k) (hw : s.memory.chain s.word k = w) (hop : op.Matches w)
    (hrun : op.run w s.past = .ok s') : s.step = .ok (s', w) := by
  subst hw
  exact step_eq_ok_iff_run.mpr ⟨hpc, op, settle_of_matches hk hp hop, hrun⟩

/-- **What a step that succeeds has done.**  The word at the program counter came down to an
operation, and that took effect with the program counter past the word. -/
theorem step_ok (h : s.step = .ok (s', w)) :
    s.pc.toNat ≤ 0xFFE ∧
      ∃ op : Operation, op.Matches w ∧ s.settle s.word = .ok (op, w) ∧ op.Effect w s.past s' := by
  obtain ⟨hle, op, hsettle, hrun⟩ := step_eq_ok_iff_run.mp h
  obtain ⟨k, -, -, -, hop⟩ := settle_eq_ok_iff.mp hsettle
  exact ⟨hle, op, hop, hsettle, Operation.effect_of_run hrun⟩

/-- A step that does not yet say where is refused by the fetch, by the word, or by what the
word comes down to. -/
theorem stepHere_eq_error_iff :
    s.stepHere = .error f ↔
      (0xFFE < s.pc.toNat ∧
        f = { cause := .outOfBoundsAddress (max s.pc.toNat 0x1000 : Nat) }) ∨
      (s.pc.toNat ≤ 0xFFE ∧ (s.settle s.word = .error f ∨
        ∃ op w, s.settle s.word = .ok (op, w) ∧ op.run w s.past = .error f)) := by
  rcases Nat.lt_or_ge 0xFFE s.pc.toNat with hlt | hle
  · have hnle : ¬s.pc.toNat ≤ 0xFFE := Nat.not_le.mpr hlt
    rw [stepHere_of_lt hlt]
    simp [hlt, hnle, eq_comm]
  · have hnlt : ¬0xFFE < s.pc.toNat := Nat.not_lt.mpr hle
    rw [stepHere_of_le hle, Fault.bind_eq_error_iff]
    simp [hle, hnlt, Fault.map_eq_error_iff]

theorem stepHere_error (h : s.stepHere = .error f) : ∃ c, f = { cause := c } ∧ s.CanMeet c := by
  rcases stepHere_eq_error_iff.mp h with ⟨-, rfl⟩ | ⟨-, hsettle | ⟨op, w, -, hrun⟩⟩
  · exact ⟨_, rfl, trivial⟩
  · obtain ⟨c, hc, rfl⟩ := settle_eq_error_iff.mp hsettle
    exact ⟨c, rfl, hc.canMeet⟩
  · -- the stack, by which a cause is judged, is that of `s`
    exact Operation.run_error (s := s.past) hrun

/-- **What a step that is refused has met.**  A fault of the program says where it happened. -/
theorem step_error (h : s.step = .error f) :
    ∃ c, f = { cause := c, pc := if c.isOfProgram then some s.pc.toNat else none } ∧
      s.CanMeet c := by
  obtain ⟨g, hg, rfl⟩ := step_eq_error_iff.mp h
  obtain ⟨c, rfl, hmeet⟩ := stepHere_error hg
  exact ⟨c, Fault.locate_mk_none c _, hmeet⟩

end State

end ChipEight
