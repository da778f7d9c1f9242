import ChipEight.Proofs.MachineCodeChain
import ChipEight.Proofs.WriteFootprint

/-! # Blocks of registers in memory

`FX55` stores the registers up to `VX` at the index register, and `FX65` loads them from there.  The
block has `X + 1` bytes (`State.registersUpTo`), so the last address that is checked is its last
byte, and a block that ends at the end of memory still fits.

Storing and loading at the same place are inverse to each other in both orders: what was stored is
loaded again, and storing what was loaded changes no byte.  Either first half leaves memory and
registers in agreement (`State.HoldsRegisters`), and on such a state either second half changes
nothing.  In between the index register has to be set back in a dialect in which it
moves on.  There, where it moves past the block, the next block is stored right behind it, which is
storing one block after the other in one go (`Memory.store_append`).
-/
namespace ChipEight

namespace State

variable (s : State)

/-! ## One block -/

/-- The registers from `V0` to `VX`, in this order. -/
def registersUpTo (x : Fin 16) : List UInt8 := s.registers.toList.take (x.val + 1)

@[simp] theorem length_registersUpTo (x : Fin 16) : (s.registersUpTo x).length = x.val + 1 := by
  rw [registersUpTo, List.length_take, Vector.length_toList]
  omega

theorem getElem?_registersUpTo {x i : Fin 16} (h : i ≤ x) :
    (s.registersUpTo x)[i.val]? = some (s.registers.get i) := by
  rw [registersUpTo, List.getElem?_take_of_lt (Nat.lt_succ_of_le h), Vector.getElem?_toList]
  exact Vector.getElem?_eq_getElem i.isLt

/-- The state after the registers up to `x` were stored. -/
def stored (x : Fin 16) : State := {
  s with
  memory := s.memory.store s.index.toNat (s.registersUpTo x)
  index := s.advancedIndex x }

/-- The registers after those up to `x` were loaded. -/
def loadedRegisters (x : Fin 16) : Vector UInt8 16 :=
  Vector.ofFn fun r =>
    if r.val ≤ x.val then s.memory.byteAt (s.index.toNat + r.val) else s.registers.get r

theorem get_loadedRegisters (x i : Fin 16) :
    (s.loadedRegisters x).get i =
      if i ≤ x then s.memory.byteAt (s.index.toNat + i.val) else s.registers.get i :=
  Vector.getElem_ofFn i.isLt

/-- The state after the registers up to `x` were loaded. -/
def loaded (x : Fin 16) : State :=
  { s with registers := s.loadedRegisters x, index := s.advancedIndex x }

variable {s} {w : Word}

theorem execute_of_stores (hw : Operation.storeRegisters.Matches w)
    (h : s.index.toNat + w.x.val ≤ 0xFFF) : s.execute w = .ok (s.stored w.x) := by
  rw [execute_of_matches hw]
  show s.storeRegisters w.x = _
  rw [storeRegisters_eq, checkSpan_of_lt (Nat.lt_succ_of_le h)]
  rfl

theorem execute_of_loads (hw : Operation.loadRegisters.Matches w)
    (h : s.index.toNat + w.x.val ≤ 0xFFF) : s.execute w = .ok (s.loaded w.x) := by
  rw [execute_of_matches hw]
  show s.loadRegisters w.x = _
  rw [loadRegisters_eq, checkSpan_of_lt (Nat.lt_succ_of_le h)]
  rfl

-- from here on they are read by `get_loadedRegisters` alone
attribute [irreducible] loadedRegisters

theorem execute_of_setIndex (hw : Operation.setIndex.Matches w) :
    s.execute w = .ok { s with index := w.nnn } := by
  rw [execute_of_matches hw]
  rfl

/-- Where the index register is after a block that fits. -/
theorem advancedIndex_toNat (x : Fin 16) :
    (s.advancedIndex x).toNat =
      if s.dialect.memoryAdvancesIndex then (s.index.toNat + x.val + 1) % 4096
      else s.index.toNat := by
  unfold advancedIndex
  split
  · rw [UInt16.toNat_ofNat']
    omega
  · rfl

/-! ## Storing and loading -/

/-- Whether an address belongs to the block of the registers up to `x`. -/
def InBlock (s : State) (x : Fin 16) (a : Nat) : Prop :=
  s.index.toNat ≤ a ∧ a ≤ s.index.toNat + x.val

/-- Whether memory holds the registers up to `x` at the index register. -/
def HoldsRegisters (s : State) (x : Fin 16) : Prop :=
  ∀ i, i ≤ x → s.memory.byteAt (s.index.toNat + i.val) = s.registers.get i

variable {x i : Fin 16}

theorem byteAt_stored (h : s.index.toNat + x.val ≤ 0xFFF) (hi : i ≤ x) :
    (s.stored x).memory.byteAt (s.index.toNat + i.val) = s.registers.get i := by
  have hle : i.val ≤ x.val := hi
  exact s.memory.byteAt_store (s.getElem?_registersUpTo hi) (by omega)

theorem get_stored {a : Fin 4096} (ha : ¬s.InBlock x a.val) :
    (s.stored x).memory.get a = s.memory.get a := by
  refine s.memory.get_store_of_outside fun hin => ha ⟨hin.1, ?_⟩
  rw [length_registersUpTo] at hin
  omega

/-- Loading what the registers have already moves the index register and does nothing else. -/
theorem HoldsRegisters.loaded_eq (h : s.HoldsRegisters x) :
    s.loaded x = { s with index := s.advancedIndex x } := by
  have hget (i : Fin 16) : (s.loadedRegisters x).get i = s.registers.get i := by
    rw [get_loadedRegisters]
    by_cases hi : i ≤ x
    · rw [if_pos hi, h i hi]
    · rw [if_neg hi]
  have hregisters : s.loadedRegisters x = s.registers := Vector.ext fun i hi => hget ⟨i, hi⟩
  rw [loaded, hregisters]

/-- Storing what memory has already moves the index register and does nothing else. -/
theorem HoldsRegisters.stored_eq (h : s.HoldsRegisters x) :
    s.stored x = { s with index := s.advancedIndex x } := by
  have hmemory : s.memory.store s.index.toNat (s.registersUpTo x) = s.memory := by
    refine s.memory.store_eq_self fun i b hb => ?_
    obtain ⟨hlt, -⟩ := List.getElem?_eq_some_iff.mp hb
    rw [length_registersUpTo] at hlt
    have hi : i < 16 := by omega
    have hle : (⟨i, hi⟩ : Fin 16) ≤ x := Nat.le_of_lt_succ hlt
    have hget := s.getElem?_registersUpTo hle
    rw [← Option.some.inj (hget.symm.trans hb)]
    exact h ⟨i, hi⟩ hle
  rw [stored, hmemory]

/-- Loading back what was stored leaves the state as it was after storing. -/
theorem loaded_stored (h : s.index.toNat + x.val ≤ 0xFFF) :
    ({ s.stored x with index := s.index } : State).loaded x = s.stored x := by
  have hholds : ({ s.stored x with index := s.index } : State).HoldsRegisters x :=
    fun _ hi => byteAt_stored h hi
  rw [hholds.loaded_eq]
  rfl

/-- Storing back what was loaded leaves the state as it was after loading. -/
theorem stored_loaded (s : State) (x : Fin 16) :
    ({ s.loaded x with index := s.index } : State).stored x = s.loaded x := by
  have hholds : ({ s.loaded x with index := s.index } : State).HoldsRegisters x :=
    fun i hi => ((s.get_loadedRegisters x i).trans (if_pos hi)).symm
  rw [hholds.stored_eq]
  rfl

/-! ## Two blocks -/

section Blocks
variable {y : Fin 16} (hd : s.dialect.memoryAdvancesIndex = true)
  (hroom : s.index.toNat + x.val + 1 + y.val ≤ 0xFFF)

include hd hroom in
/-- Where the index register moves on, the second block begins behind the first. -/
theorem index_stored : (s.stored x).index.toNat = s.index.toNat + x.val + 1 := by
  refine (advancedIndex_toNat x).trans ?_
  rw [if_pos hd]
  omega

include hd hroom in
/-- **Two blocks stored one after the other are one block.** -/
theorem memory_stored_stored :
    ((s.stored x).stored y).memory =
      s.memory.store s.index.toNat (s.registersUpTo x ++ s.registersUpTo y) := by
  rw [Memory.store_append, length_registersUpTo, ← Nat.add_assoc, ← index_stored hd hroom]
  rfl

include hd hroom in
theorem byteAt_stored_stored_first (hi : i ≤ x) :
    ((s.stored x).stored y).memory.byteAt (s.index.toNat + i.val) = s.registers.get i := by
  have hle : i.val ≤ x.val := hi
  rw [memory_stored_stored hd hroom]
  refine s.memory.byteAt_store ?_ (by omega)
  rw [List.getElem?_append_left (by rw [length_registersUpTo]; omega)]
  exact s.getElem?_registersUpTo hi

include hd hroom in
theorem byteAt_stored_stored_second (hi : i ≤ y) :
    ((s.stored x).stored y).memory.byteAt (s.index.toNat + x.val + 1 + i.val) =
      s.registers.get i := by
  have hle : i.val ≤ y.val := hi
  have hbyte := (s.stored x).byteAt_stored (x := y) (i := i) ?_ hi
  · rwa [index_stored hd hroom] at hbyte
  · rw [index_stored hd hroom]
    exact hroom

include hd hroom in
theorem get_stored_stored {a : Fin 4096}
    (ha : ¬(s.index.toNat ≤ a.val ∧ a.val ≤ s.index.toNat + x.val + 1 + y.val)) :
    ((s.stored x).stored y).memory.get a = s.memory.get a := by
  rw [memory_stored_stored hd hroom]
  refine s.memory.get_store_of_outside fun hin => ha ⟨hin.1, ?_⟩
  rw [List.length_append, length_registersUpTo, length_registersUpTo] at hin
  omega

end Blocks

/-- **Storing and loading registers.**

Let the registers up to `VX` fit into memory at the index register.  Storing them, setting the index
register back and loading up to `VX` leaves every register as it was, and memory as it was but for
the block, which holds the registers.  Loading first, setting the index register back and storing
leaves memory as it was, and the registers as they were but for those up to `VX`, which hold the
block.  Storing and loading each move the index register past the block, modulo 4096, in a dialect
in which they do so, and else leave it.  In such a dialect a second store without a change of the
index register in between writes its block behind the first: the two are one block. -/
theorem execute_store_load_inverse (s : State) {st ld pt : Word}
    (hst : Operation.storeRegisters.Matches st) (hld : Operation.loadRegisters.Matches ld)
    (hpt : Operation.setIndex.Matches pt) (hx : ld.x = st.x) (hback : pt.nnn = s.index)
    (hroom : s.index.toNat + st.x.val ≤ 0xFFF) :
    let after :=
      if s.dialect.memoryAdvancesIndex then (s.index.toNat + st.x.val + 1) % 4096
      else s.index.toNat
    (∃ s₁ s₂ s₃, s.execute st = .ok s₁ ∧ s₁.execute pt = .ok s₂ ∧ s₂.execute ld = .ok s₃ ∧
      s₁.index.toNat = after ∧ s₂.index = s.index ∧ s₃.index.toNat = after ∧
      s₃.registers = s.registers ∧
      (∀ i, i ≤ st.x → s₃.memory.byteAt (s.index.toNat + i.val) = s.registers.get i) ∧
      (∀ a, ¬s.InBlock st.x a.val → s₃.memory.get a = s.memory.get a) ∧
      s₃ = { s with memory := s₃.memory, index := s₃.index }) ∧
    (∃ s₁ s₂ s₃, s.execute ld = .ok s₁ ∧ s₁.execute pt = .ok s₂ ∧ s₂.execute st = .ok s₃ ∧
      s₁.index.toNat = after ∧ s₂.index = s.index ∧ s₃.index.toNat = after ∧
      s₃.memory = s.memory ∧
      (∀ i, i ≤ st.x → s₃.registers.get i = s.memory.byteAt (s.index.toNat + i.val)) ∧
      (∀ i, ¬i ≤ st.x → s₃.registers.get i = s.registers.get i) ∧
      s₃ = { s with registers := s₃.registers, index := s₃.index }) ∧
    (s.dialect.memoryAdvancesIndex = true → ∀ next, Operation.storeRegisters.Matches next →
      s.index.toNat + st.x.val + 1 + next.x.val ≤ 0xFFF →
      ∃ s₁ s₂, s.execute st = .ok s₁ ∧ s₁.execute next = .ok s₂ ∧
        (∀ i, i ≤ st.x → s₂.memory.byteAt (s.index.toNat + i.val) = s.registers.get i) ∧
        (∀ i, i ≤ next.x →
          s₂.memory.byteAt (s.index.toNat + st.x.val + 1 + i.val) = s.registers.get i) ∧
        (∀ a : Fin 4096, ¬(s.index.toNat ≤ a.val ∧
          a.val ≤ s.index.toNat + st.x.val + 1 + next.x.val) → s₂.memory.get a = s.memory.get a) ∧
        s₂ = { s with memory := s₂.memory, index := s₂.index }) := by
  intro after
  have hst₁ := execute_of_stores hst hroom
  have hld₁ := execute_of_loads hld (hx ▸ hroom)
  rw [hx] at hld₁
  have hafter : (s.advancedIndex st.x).toNat = after := advancedIndex_toNat st.x
  refine ⟨?_, ?_, fun hd next hnext hroom' => ?_⟩
  · have hpt₂ : (s.stored st.x).execute pt = .ok { s.stored st.x with index := s.index } := by
      rw [execute_of_setIndex hpt, hback]
    have hld₃ := execute_of_loads (s := { s.stored st.x with index := s.index }) hld (hx ▸ hroom)
    rw [hx, loaded_stored hroom] at hld₃
    exact ⟨_, _, _, hst₁, hpt₂, hld₃, hafter, rfl, hafter, rfl,
      fun i hi => byteAt_stored hroom hi, fun a ha => get_stored ha, rfl⟩
  · have hpt₂ : (s.loaded st.x).execute pt = .ok { s.loaded st.x with index := s.index } := by
      rw [execute_of_setIndex hpt, hback]
    have hst₃ := execute_of_stores (s := { s.loaded st.x with index := s.index }) hst hroom
    rw [stored_loaded] at hst₃
    exact ⟨_, _, _, hld₁, hpt₂, hst₃, hafter, rfl, hafter, rfl,
      fun i hi => (s.get_loadedRegisters st.x i).trans (if_pos hi),
      fun i hi => (s.get_loadedRegisters st.x i).trans (if_neg hi), rfl⟩
  · have hnext₂ : (s.stored st.x).execute next = .ok _ := execute_of_stores hnext (by
      rw [index_stored hd hroom']
      exact hroom')
    exact ⟨_, _, hst₁, hnext₂, fun i hi => byteAt_stored_stored_first hd hroom' hi,
      fun i hi => byteAt_stored_stored_second hd hroom' hi,
      fun a ha => get_stored_stored hd hroom' ha, rfl⟩

/-- Two registers stored and loaded sixteen bytes before the end of memory, and stored there with
fourteen more behind them. -/
theorem execute_store_load_inverse_sample :
    let s : State := { State.initial (.ofSeed 0) .classic with
      registers := Vector.ofFn fun r => UInt8.ofNat (2 * r.val + 1)
      index := 0xFF0 }
    Operation.storeRegisters.Matches 0xF155 ∧ Operation.loadRegisters.Matches 0xF165 ∧
      Operation.setIndex.Matches 0xAFF0 ∧
      (∃ s₁ s₂ s₃, s.execute 0xF155 = .ok s₁ ∧ s₁.execute 0xAFF0 = .ok s₂ ∧
        s₂.execute 0xF165 = .ok s₃ ∧ s₃.index.toNat = 0xFF2 ∧ s₃.registers = s.registers ∧
        s₃.memory.byteAt 0xFF1 = 3) ∧
      (∃ s₁ s₂ s₃, s.execute 0xF165 = .ok s₁ ∧ s₁.execute 0xAFF0 = .ok s₂ ∧
        s₂.execute 0xF155 = .ok s₃ ∧ s₃.memory = s.memory ∧ s₃.registers.get 1 = 0) ∧
      ∃ s₁ s₂, s.execute 0xF155 = .ok s₁ ∧ s₁.execute 0xFD55 = .ok s₂ ∧
        s₂.memory.byteAt 0xFF2 = 1 ∧ s₂.memory.byteAt 0xFFF = 27 := by
  intro s
  have hst : Operation.storeRegisters.Matches 0xF155 := by decide
  have hld : Operation.loadRegisters.Matches 0xF165 := by decide
  have hpt : Operation.setIndex.Matches 0xAFF0 := by decide
  have hroom : s.index.toNat + (0xF155 : Word).x.val ≤ 0xFFF := by decide
  have hzero : Memory.initial.byteAt 0xFF1 = 0 := by decide +kernel
  obtain ⟨hstored, hloaded, htwice⟩ :=
    s.execute_store_load_inverse hst hld hpt (by decide) (by decide) hroom
  obtain ⟨s₁, s₂, s₃, h₁, h₂, h₃, -, -, hindex, hregisters, hbytes, -⟩ := hstored
  obtain ⟨t₁, t₂, t₃, k₁, k₂, k₃, -, -, -, hmemory, hread, -⟩ := hloaded
  obtain ⟨u₁, u₂, l₁, l₂, -, hsecond, -⟩ := htwice rfl 0xFD55 (by decide) (by decide)
  exact ⟨hst, hld, hpt, ⟨s₁, s₂, s₃, h₁, h₂, h₃, hindex, hregisters, hbytes 1 (by decide)⟩,
    ⟨t₁, t₂, t₃, k₁, k₂, k₃, hmemory, (hread 1 (by decide)).trans hzero⟩,
    u₁, u₂, l₁, l₂, hsecond 0 (by decide), hsecond 13 (by decide)⟩

end State

end ChipEight
