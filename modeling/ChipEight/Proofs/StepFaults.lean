import ChipEight.Proofs.ReachableStates

/-! # The faults of a step

`State.Faults s c` lists what a step from `s` can be refused for: the word at the program
counter cannot be fetched, it comes down to nothing (`State.Unsettled`), or the operation it
comes down to is refused (`Operation.Refused`).  For a state whose index register is an
address and whose stack pointer counts its entries, the list is exact: a step is refused with
the cause listed, and for no other reason (`step_refused_iff`).

Memory is checked up to the last byte that an operation touches.  Of a sprite these are the
rows shown only, so one that begins on the last row of the screen reads one byte however high
it is.
-/
namespace ChipEight

/-- A fault under a condition, as one of a list of causes. -/
theorem Fault.and_eq_iff {p : Prop} {f : Fault} {c : Fault.Cause} :
    p ∧ f = { cause := c } ↔ ∃ c', (p ∧ c' = c) ∧ f = { cause := c' } := by
  constructor
  · rintro ⟨hp, rfl⟩
    exact ⟨c, ⟨hp, rfl⟩, rfl⟩
  · rintro ⟨_, ⟨hp, rfl⟩, rfl⟩
    exact ⟨hp, rfl⟩

/-! ## The operations that can be refused -/

/-- What an operation is refused for. -/
def Operation.Refused (w : Word) (s : State) (c : Fault.Cause) : Operation → Prop
  | returnFromCall => s.stack.pointer = 0 ∧ c = .emptyStack
  | call => s.stack.pointer = 16 ∧ c = .fullStack 16
  | storeDecimal =>
    0xFFF < s.index.toNat + 2 ∧ c = .outOfBoundsAddress (s.index.toNat + 2 : Nat)
  | storeRegisters | loadRegisters =>
    0xFFF < s.index.toNat + w.x.val ∧ c = .outOfBoundsAddress (s.index.toNat + w.x.val : Nat)
  | draw =>
    let rows := min w.n.val (32 - (s.registers.get w.y).toNat % 32)
    (0 < w.n.val ∧ 0xFFF < s.index.toNat + rows - 1) ∧
      c = .outOfBoundsAddress (s.index.toNat + rows - 1 : Nat)
  | _ => False

theorem Operation.Refused.isOfProgram {w : Word} {s : State} {c : Fault.Cause} {op : Operation}
    (h : op.Refused w s c) : c.isOfProgram = true := by
  cases op with
  | returnFromCall | call | storeDecimal | storeRegisters | loadRegisters | draw =>
    rw [h.2]
    rfl
  | _ => exact absurd h not_false

namespace State

/-- The bounds that the checks of a step rely on. -/
structure InBounds (s : State) : Prop where
  index_le : s.index.toNat ≤ 0xFFF
  nonneg : 0 ≤ s.stack.pointer
  le_capacity : s.stack.pointer ≤ 16

variable {s : State} {w : Word} {f : Fault}

theorem InBounds.pop_eq_error_iff (hs : s.InBounds) :
    s.stack.pop = .error f ↔ s.stack.pointer = 0 ∧ f = { cause := .emptyStack } := by
  have hn := hs.nonneg
  rcases Int.lt_or_le 0 s.stack.pointer with hpos | hle
  · have hne : s.stack.pointer ≠ 0 := by omega
    rw [CallStack.pop_of_pos hpos hs.le_capacity]
    simp [hne]
  · have hzero : s.stack.pointer = 0 := by omega
    rw [CallStack.pop_of_le hle]
    simp [hzero, eq_comm]

theorem InBounds.push_eq_error_iff (hs : s.InBounds) {address : Int} :
    s.stack.push address = .error f ↔ s.stack.pointer = 16 ∧ f = { cause := .fullStack 16 } := by
  have hc := hs.le_capacity
  rcases Int.lt_or_le s.stack.pointer 16 with hlt | hle
  · have hne : s.stack.pointer ≠ 16 := by omega
    rw [CallStack.push_of_lt hs.nonneg hlt]
    simp [hne]
  · have hfull : s.stack.pointer = 16 := by omega
    rw [CallStack.push_of_le hle]
    simp [hfull, eq_comm]

theorem InBounds.checkSpan_eq_error_iff (hs : s.InBounds) {span : Nat} :
    s.checkSpan span = .error f ↔
      0xFFF < s.index.toNat + span ∧
        f = { cause := .outOfBoundsAddress (s.index.toNat + span : Nat) } := by
  rw [State.checkSpan_eq_error_iff, if_pos (Nat.lt_succ_of_le hs.index_le)]

end State

namespace Operation

variable {s : State} {w : Word} {f : Fault}

/-- **An operation is refused for what is listed, and for nothing else.** -/
theorem run_eq_error_iff (hs : s.InBounds) (op : Operation) :
    op.run w s = .error f ↔ ∃ c, op.Refused w s c ∧ f = { cause := c } := by
  cases op with
  | returnFromCall =>
    show s.returnFromCall = _ ↔ _
    rw [s.returnFromCall_eq, Fault.map_eq_error_iff, hs.pop_eq_error_iff, Fault.and_eq_iff]
    rfl
  | call =>
    show s.callSubroutine w.nnn = _ ↔ _
    rw [s.callSubroutine_eq, Fault.map_eq_error_iff, hs.push_eq_error_iff, Fault.and_eq_iff]
    rfl
  | draw =>
    show s.drawSprite w.x w.y w.n = _ ↔ _
    rw [State.drawSprite_eq_error_iff, Fault.and_eq_iff]
    rfl
  | storeDecimal =>
    show s.storeDecimal w.x = _ ↔ _
    rw [s.storeDecimal_eq, Fault.map_eq_error_iff, hs.checkSpan_eq_error_iff, Fault.and_eq_iff]
    rfl
  | storeRegisters =>
    show s.storeRegisters w.x = _ ↔ _
    rw [s.storeRegisters_eq, Fault.map_eq_error_iff, hs.checkSpan_eq_error_iff, Fault.and_eq_iff]
    rfl
  | loadRegisters =>
    show s.loadRegisters w.x = _ ↔ _
    rw [s.loadRegisters_eq, Fault.map_eq_error_iff, hs.checkSpan_eq_error_iff, Fault.and_eq_iff]
    rfl
  | _ => simp [run, Refused]

end Operation

namespace State

/-! ## A whole step -/

/-- What a step is refused for. -/
inductive Faults (s : State) : Fault.Cause → Prop where
  /-- The two bytes at the program counter are not both in memory. -/
  | fetch (h : 0xFFF ≤ s.pc.toNat) :
    Faults s (.outOfBoundsAddress (max s.pc.toNat 0x1000 : Nat))
  /-- The word at the program counter comes down to nothing. -/
  | word {c : Fault.Cause} (hpc : s.pc.toNat ≤ 0xFFE) (h : s.Unsettled s.word c) : Faults s c
  /-- The operation that it comes down to is refused. -/
  | operation {c : Fault.Cause} {k : Nat} {op : Operation} (hpc : s.pc.toNat ≤ 0xFFE)
    (hk : k ≤ 16) (hp : s.memory.Passes s.word k) (hop : op.Matches (s.memory.chain s.word k))
    (h : op.Refused (s.memory.chain s.word k) s c) : Faults s c

variable {s : State} {f : Fault}

/-- All of it is the program's own doing. -/
theorem Faults.isOfProgram {c : Fault.Cause} (h : s.Faults c) : c.isOfProgram = true := by
  cases h with
  | fetch => rfl
  | word _ h => cases h <;> rfl
  | operation _ _ _ _ h => exact h.isOfProgram

theorem Bounded.inBounds (hs : s.Bounded) : s.InBounds :=
  ⟨hs.index_le, hs.tidy.nonneg, hs.tidy.le_capacity⟩

theorem stepHere_eq_error_iff_faults (hs : s.InBounds) :
    s.stepHere = .error f ↔ ∃ c, s.Faults c ∧ f = { cause := c } := by
  have hpast : s.past.InBounds := ⟨hs.index_le, hs.nonneg, hs.le_capacity⟩
  rw [stepHere_eq_error_iff]
  constructor
  · rintro (⟨hlt, rfl⟩ | ⟨hle, hsettle | ⟨op, w, hsettle, hrun⟩⟩)
    · exact ⟨_, .fetch hlt, rfl⟩
    · obtain ⟨c, hc, rfl⟩ := settle_eq_error_iff.mp hsettle
      exact ⟨c, .word hle hc, rfl⟩
    · obtain ⟨k, hk, hp, rfl, hop⟩ := settle_eq_ok_iff.mp hsettle
      obtain ⟨c, hc, rfl⟩ := (Operation.run_eq_error_iff hpast op).mp hrun
      exact ⟨c, .operation hle hk hp hop hc, rfl⟩
  · rintro ⟨c, hc, rfl⟩
    cases hc with
    | fetch h => exact Or.inl ⟨h, rfl⟩
    | word hle h => exact Or.inr ⟨hle, Or.inl h.settle_eq⟩
    | operation hle hk hp hop h =>
      refine Or.inr ⟨hle, Or.inr ⟨_, _, settle_of_matches hk hp hop, ?_⟩⟩
      exact (Operation.run_eq_error_iff hpast _).mpr ⟨c, h, rfl⟩

theorem step_eq_error_iff_faults (hs : s.InBounds) :
    s.step = .error f ↔ ∃ c, s.Faults c ∧ f = { cause := c, pc := some s.pc.toNat } := by
  rw [step_eq_error_iff]
  constructor
  · rintro ⟨g, hg, rfl⟩
    obtain ⟨c, hc, rfl⟩ := (stepHere_eq_error_iff_faults hs).mp hg
    exact ⟨c, hc, by rw [Fault.locate_mk_none, if_pos hc.isOfProgram]⟩
  · rintro ⟨c, hc, rfl⟩
    refine ⟨_, (stepHere_eq_error_iff_faults hs).mpr ⟨c, hc, rfl⟩, ?_⟩
    rw [Fault.locate_mk_none, if_pos hc.isOfProgram]

/-- No state has two causes to be refused for. -/
theorem Faults.unique {c c' : Fault.Cause} (hs : s.InBounds) (h : s.Faults c)
    (h' : s.Faults c') : c = c' := by
  have hc := (step_eq_error_iff_faults hs).mpr ⟨c, h, rfl⟩
  have hc' := (step_eq_error_iff_faults hs).mpr ⟨c', h', rfl⟩
  exact congrArg Fault.cause (Except.error.inj (hc.symm.trans hc'))

/-- **The faults of a step.**  Where the index register is an address and the stack pointer
counts its entries, a step is refused exactly for what `Faults` lists, by a fault with that
cause and the address of the instruction.  No step names a register that there is not. -/
theorem step_refused_iff (hs : s.InBounds) :
    (∀ f, s.step = .error f ↔ ∃ c, s.Faults c ∧ f = { cause := c, pc := some s.pc.toNat }) ∧
      ∀ f i, s.step = .error f → f.cause ≠ .invalidRegister i := by
  refine ⟨fun f => step_eq_error_iff_faults hs, fun f i h hi => ?_⟩
  obtain ⟨c, rfl, hmeet⟩ := step_error h
  have hc : c = .invalidRegister i := hi
  rw [hc] at hmeet
  exact hmeet

/-- Three decimal digits do not fit into the last two bytes of memory. -/
theorem step_refused_iff_sample :
    let s : State := { State.initial (.ofSeed 0) .classic with
      memory := Memory.initial.store programStart [0xF0, 0x33]
      index := 0xFFE }
    s.InBounds ∧
      s.step = .error { cause := .outOfBoundsAddress 0x1000, pc := some 0x200 } := by
  intro s
  have hs : s.InBounds := ⟨by decide, by decide, by decide⟩
  have hword : s.word = 0xF033 := by decide +kernel
  have hop : Operation.storeDecimal.Matches (s.memory.chain s.word 0) := by
    rw [Memory.chain_zero, hword]
    decide
  have hfault : s.Faults (.outOfBoundsAddress 0x1000) :=
    .operation (by decide) (Nat.zero_le _) (Memory.passes_zero _) hop ⟨by decide, rfl⟩
  exact ⟨hs, ((step_refused_iff hs).1 _).mpr ⟨_, hfault, rfl⟩⟩

end State

/-- A reachable state is refused a step for what is listed. -/
theorem Reachable.step_eq_error_iff {s : State} {f : Fault} (hs : Reachable s) :
    s.step = .error f ↔ ∃ c, s.Faults c ∧ f = { cause := c, pc := some s.pc.toNat } :=
  State.step_eq_error_iff_faults hs.bounded.inBounds

end ChipEight
