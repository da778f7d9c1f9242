import ChipEight.Fault

/-! # The call stack

Return addresses in a fixed number of entries, with a pointer to the first free one.
`push` keeps the low twelve bits of an address; `pop` clears the entry it takes, so
that entries from the pointer on are zero (`Tidy`) whenever they once were, and `pop` takes
back what `push` did, unused entries included (`pop_of_push`).

The pointer is an integer because a stack may be set up from outside with any value.
Between zero and the capacity it counts the pending calls.  An entry written below zero
is counted from the end of the entries, and then around in steps of two to the 32; one written
outside them is lost, and one read past them is the last.  Where a position takes too many
bits there is no entry to look for, and the pointer is a stray one.
-/
namespace ChipEight

/-- A stack of return addresses with a fixed number of entries. -/
structure CallStack (capacity : Nat) where
  /-- The entries; those from the pointer on are free. -/
  entries : Vector UInt16 capacity
  /-- The number of pending calls. -/
  pointer : Int
  deriving DecidableEq, Repr

namespace CallStack

variable {capacity : Nat}

/-- No pending call. -/
def empty (capacity : Nat) : CallStack capacity := ⟨Vector.replicate capacity 0, 0⟩

/-- The stack that holds the given entries, the oldest first, and nothing else. -/
def ofEntries (capacity : Nat) (addresses : List UInt16) : CallStack capacity :=
  ⟨Vector.ofFn fun i => addresses.getD i 0, addresses.length⟩

/-- The number of pending calls. -/
def depth (s : CallStack capacity) : Int := s.pointer

/-- A position counted from the end of the entries. -/
def fromEnd (capacity : Nat) (position : Int) : Int := position + capacity

/-- Overwrite one entry.  A position below zero is counted from the end, of which 32 bits
are kept, the sign included; one outside the entries changes nothing. -/
def write (s : CallStack capacity) (position : Int) (v : UInt16) : Vector UInt16 capacity :=
  let index :=
    if position < 0 then (fromEnd capacity position).bmod 4294967296 else position
  if index < 0 then s.entries else s.entries.setIfInBounds index.toNat v

/-- Remember a return address, of which twelve bits are kept.  A position that takes more than
64 bits, the sign included, is out of reach. -/
def push (s : CallStack capacity) (address : Int) : Except Fault (CallStack capacity) :=
  if (capacity : Int) ≤ s.pointer then .error { cause := .fullStack capacity }
  else if fromEnd capacity s.pointer < -9223372036854775808 then
    .error { cause := .strayPointer (fromEnd capacity s.pointer) }
  else .ok {
    entries := s.write s.pointer (UInt16.ofNat (address % 4096).toNat)
    pointer := s.pointer + 1 }

/-- Take the newest return address and clear its entry.  A position past the entries that
takes more than 32 bits, the sign included, is out of reach. -/
def pop (s : CallStack capacity) : Except Fault (CallStack capacity × UInt16) :=
  if s.pointer ≤ 0 then .error { cause := .emptyStack }
  else
    let top := (s.pointer - 1).toNat
    if max capacity 2147483648 ≤ top then .error { cause := .strayPointer top }
    else .ok ({ entries := s.entries.setIfInBounds top 0, pointer := s.pointer - 1 },
      s.entries.getD (min top (capacity - 1)) 0)

/-! ## What the operations give -/

theorem write_of_nonneg (s : CallStack capacity) {position : Int} (h : 0 ≤ position) (v : UInt16) :
    s.write position v = s.entries.setIfInBounds position.toNat v := by
  have hneg : ¬position < 0 := Int.not_lt.mpr h
  simp [write, hneg]

theorem push_of_le {s : CallStack capacity} (h : (capacity : Int) ≤ s.pointer) (address : Int) :
    s.push address = .error { cause := .fullStack capacity } := if_pos h

theorem push_of_lt {s : CallStack capacity} (hn : 0 ≤ s.pointer) (h : s.pointer < capacity)
    (address : Int) :
    s.push address = .ok {
      entries := s.entries.setIfInBounds s.pointer.toNat (UInt16.ofNat (address % 4096).toNat)
      pointer := s.pointer + 1 } := by
  have hreach : ¬fromEnd capacity s.pointer < -9223372036854775808 := by
    rw [fromEnd]
    omega
  rw [push, if_neg (Int.not_le.mpr h), if_neg hreach, write_of_nonneg s hn]

theorem pop_of_le {s : CallStack capacity} (h : s.pointer ≤ 0) :
    s.pop = .error { cause := .emptyStack } := if_pos h

theorem pop_of_pos {s : CallStack capacity} (h : 0 < s.pointer) (hc : s.pointer ≤ capacity) :
    s.pop = .ok (⟨s.entries.setIfInBounds (s.pointer - 1).toNat 0, s.pointer - 1⟩,
      s.entries.getD (s.pointer - 1).toNat 0) := by
  have hreach : ¬max capacity 2147483648 ≤ (s.pointer - 1).toNat := by omega
  have hmin : min (s.pointer - 1).toNat (capacity - 1) = (s.pointer - 1).toNat := by omega
  rw [pop, if_neg (Int.not_le.mpr h)]
  simp only [if_neg hreach, hmin]

theorem getD_of_lt (entries : Vector UInt16 capacity) {i : Nat} (h : i < capacity) :
    entries.getD i 0 = entries[i] := by
  simp [Vector.getD, h]

/-! ## Tidy stacks -/

/-- A stack as the operations leave it: the pointer lies within the entries, every
entry is an address of twelve bits, and the free ones are zero. -/
structure Tidy (s : CallStack capacity) : Prop where
  nonneg : 0 ≤ s.pointer
  le_capacity : s.pointer ≤ capacity
  lt_entry : ∀ (i : Nat) (h : i < capacity), (s.entries[i]).toNat < 4096
  free : ∀ (i : Nat) (h : i < capacity), s.pointer ≤ i → s.entries[i] = 0

theorem tidy_empty : (empty capacity).Tidy where
  nonneg := by simp [empty]
  le_capacity := by simp [empty]
  lt_entry i h := by simp [empty]
  free i h _ := by simp [empty]

/-- Push keeps a stack tidy. -/
theorem Tidy.push {s t : CallStack capacity} {address : Int} (hs : s.Tidy)
    (h : s.push address = .ok t) : t.Tidy := by
  rcases Int.lt_or_le s.pointer capacity with hlt | hle
  · have hn := hs.nonneg
    rw [push_of_lt hn hlt] at h
    obtain rfl := Except.ok.inj h
    have hmod : (UInt16.ofNat (address % 4096).toNat).toNat < 4096 := by
      rw [UInt16.toNat_ofNat']
      omega
    refine ⟨by simp only; omega, by simp only; omega, fun i hi => ?_, fun i hi hfree => ?_⟩
    · rw [Vector.getElem_setIfInBounds hi]
      split
      · exact hmod
      · exact hs.lt_entry i hi
    · have hfree' : s.pointer + 1 ≤ i := hfree
      rw [Vector.getElem_setIfInBounds hi, if_neg (by omega)]
      exact hs.free i hi (by omega)
  · rw [push_of_le hle] at h
    cases h

/-- Pop keeps a stack tidy. -/
theorem Tidy.pop {s t : CallStack capacity} {a : UInt16} (hs : s.Tidy)
    (h : s.pop = .ok (t, a)) : t.Tidy := by
  rcases Int.lt_or_le 0 s.pointer with hpos | hle
  · have hc := hs.le_capacity
    rw [pop_of_pos hpos hc] at h
    obtain ⟨rfl, rfl⟩ := Prod.mk.inj (Except.ok.inj h)
    refine ⟨by simp only; omega, by simp only; omega, fun i hi => ?_, fun i hi hfree => ?_⟩
    · rw [Vector.getElem_setIfInBounds hi]
      split
      · decide
      · exact hs.lt_entry i hi
    · have hfree' : s.pointer - 1 ≤ i := hfree
      rw [Vector.getElem_setIfInBounds hi]
      split
      · rfl
      · exact hs.free i hi (by omega)
  · rw [pop_of_le hle] at h
    cases h

/-- What is popped off a tidy stack is an address of twelve bits. -/
theorem Tidy.popped_lt {s t : CallStack capacity} {a : UInt16} (hs : s.Tidy)
    (h : s.pop = .ok (t, a)) : a.toNat < 4096 := by
  rcases Int.lt_or_le 0 s.pointer with hpos | hle
  · have hc := hs.le_capacity
    have htop : (s.pointer - 1).toNat < capacity := by omega
    rw [pop_of_pos hpos hc] at h
    obtain ⟨-, rfl⟩ := Prod.mk.inj (Except.ok.inj h)
    rw [getD_of_lt s.entries htop]
    exact hs.lt_entry _ htop
  · rw [pop_of_le hle] at h
    cases h

/-- Pop takes back what push did, as far as the address has twelve bits. -/
theorem pop_of_push {s t : CallStack capacity} {address : Int} (hs : s.Tidy)
    (h : s.push address = .ok t) :
    t.pop = .ok (s, UInt16.ofNat (address % 4096).toNat) := by
  rcases Int.lt_or_le s.pointer capacity with hlt | hle
  · have hn := hs.nonneg
    rw [push_of_lt hn hlt] at h
    obtain rfl := Except.ok.inj h
    -- the entry that `pop` clears was free before, hence zero
    have hlt' : s.pointer.toNat < capacity := by omega
    have hback : s.pointer + 1 - 1 = s.pointer := by omega
    rw [pop_of_pos (by simp only; omega) (by simp only; omega)]
    simp only [hback]
    congr 2
    · cases s with
      | mk entries pointer =>
        congr 1
        refine Vector.ext fun i hi => ?_
        rw [Vector.getElem_setIfInBounds hi, Vector.getElem_setIfInBounds hi]
        split
        · exact (hs.free i hi (by simp only at *; omega)).symm
        · rfl
    · rw [getD_of_lt _ hlt', Vector.getElem_setIfInBounds hlt', if_pos rfl]
  · rw [push_of_le hle] at h
    cases h

/-! ## Stacks in reach -/

/-- A stack of which every push and every pop finds its entry, or is refused for want of
one. -/
structure InReach (s : CallStack capacity) : Prop where
  low : -9223372036854775808 ≤ fromEnd capacity s.pointer
  high : s.pointer ≤ (max capacity 2147483648 : Nat)

theorem Tidy.inReach {s : CallStack capacity} (hs : s.Tidy) : s.InReach where
  low := by
    have hn := hs.nonneg
    rw [fromEnd]
    omega
  high := by
    have hc := hs.le_capacity
    omega

theorem push_pointer {s t : CallStack capacity} {address : Int} (h : s.push address = .ok t) :
    s.pointer < capacity ∧ t.pointer = s.pointer + 1 := by
  unfold push at h
  split at h
  · cases h
  · rename_i hroom
    split at h
    · cases h
    · obtain rfl := Except.ok.inj h
      exact ⟨Int.not_le.mp hroom, rfl⟩

theorem pop_pointer {s t : CallStack capacity} {a : UInt16} (h : s.pop = .ok (t, a)) :
    0 < s.pointer ∧ t.pointer = s.pointer - 1 := by
  unfold pop at h
  split at h
  · cases h
  · rename_i hsome
    simp only at h
    split at h
    · cases h
    · obtain ⟨rfl, -⟩ := Prod.mk.inj (Except.ok.inj h)
      exact ⟨Int.not_le.mp hsome, rfl⟩

theorem InReach.push {s t : CallStack capacity} {address : Int} (hs : s.InReach)
    (h : s.push address = .ok t) : t.InReach := by
  obtain ⟨hlt, hp⟩ := push_pointer h
  have hlow := hs.low
  rw [fromEnd] at hlow
  exact ⟨by rw [fromEnd, hp]; omega, by rw [hp]; omega⟩

theorem InReach.pop {s t : CallStack capacity} {a : UInt16} (hs : s.InReach)
    (h : s.pop = .ok (t, a)) : t.InReach := by
  obtain ⟨hpos, hp⟩ := pop_pointer h
  have hhigh := hs.high
  exact ⟨by rw [fromEnd, hp]; omega, by rw [hp]; omega⟩

/-- A push is refused for want of room, or by a pointer out of reach. -/
theorem push_error {s : CallStack capacity} {address : Int} {f : Fault}
    (h : s.push address = .error f) :
    f = { cause := .fullStack capacity } ∨
      ∃ p, f = { cause := .strayPointer p } ∧ ¬s.InReach := by
  unfold push at h
  split at h
  · exact Or.inl (Except.error.inj h).symm
  · split at h
    · rename_i hlow
      exact Or.inr ⟨_, (Except.error.inj h).symm, fun hs => Int.not_le.mpr hlow hs.low⟩
    · cases h

/-- A pop is refused for want of a call, or by a pointer out of reach. -/
theorem pop_error {s : CallStack capacity} {f : Fault} (h : s.pop = .error f) :
    f = { cause := .emptyStack } ∨ ∃ p, f = { cause := .strayPointer p } ∧ ¬s.InReach := by
  unfold pop at h
  split at h
  · exact Or.inl (Except.error.inj h).symm
  · simp only at h
    split at h
    · rename_i hhigh
      refine Or.inr ⟨_, (Except.error.inj h).symm, fun hs => ?_⟩
      have hle := hs.high
      omega
    · cases h

end CallStack

end ChipEight
