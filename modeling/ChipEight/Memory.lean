import ChipEight.Fault
import ChipEight.Word

/-! # Memory

4096 bytes.  The glyphs of the hexadecimal digits lie at its start and a program is
loaded at `programStart`.  An address that a program names is checked by `checkAddress`
first, which its two lemmas describe and which nothing else unfolds.  `Memory.store`
writes a block of bytes, and `Memory.getElem_store` tells what every byte is afterwards.
-/
namespace ChipEight

/-! ## Layout -/

/-- The number of bytes. -/
def memorySize : Nat := 4096

/-- Where a program image is loaded and started. -/
def programStart : Nat := 0x200

/-- Where the digit glyphs lie. -/
def fontStart : Nat := 0x000

/-- The number of bytes in a glyph: one for each of its rows. -/
def glyphSize : Nat := 5

/-- The glyphs of the sixteen hexadecimal digits, from `0` to `F`. -/
def fontData : List UInt8 := [
  0xF0, 0x90, 0x90, 0x90, 0xF0,
  0x20, 0x60, 0x20, 0x20, 0x70,
  0xF0, 0x10, 0xF0, 0x80, 0xF0,
  0xF0, 0x10, 0xF0, 0x10, 0xF0,
  0x90, 0x90, 0xF0, 0x10, 0x10,
  0xF0, 0x80, 0xF0, 0x10, 0xF0,
  0xF0, 0x80, 0xF0, 0x90, 0xF0,
  0xF0, 0x10, 0x20, 0x40, 0x40,
  0xF0, 0x90, 0xF0, 0x90, 0xF0,
  0xF0, 0x90, 0xF0, 0x10, 0xF0,
  0xF0, 0x90, 0xF0, 0x90, 0x90,
  0xE0, 0x90, 0xE0, 0x90, 0xE0,
  0xF0, 0x80, 0x80, 0x80, 0xF0,
  0xE0, 0x90, 0x90, 0x90, 0xE0,
  0xF0, 0x80, 0xF0, 0x80, 0xF0,
  0xF0, 0x80, 0xF0, 0x80, 0x80]

/-! ## Addresses -/

/-- An address, if memory has it. -/
def checkAddress (a : Int) : Except Fault (Fin 4096) :=
  if h : 0 ≤ a ∧ a < 4096 then .ok ⟨a.toNat, by omega⟩
  else .error { cause := .outOfBoundsAddress a }

theorem checkAddress_of_lt {a : Nat} (h : a < 4096) :
    checkAddress (a : Int) = .ok ⟨a, h⟩ := by
  have h' : (0 : Int) ≤ a ∧ (a : Int) < 4096 := by omega
  simp [checkAddress, h']

theorem checkAddress_of_le {a : Nat} (h : 4096 ≤ a) :
    checkAddress (a : Int) = .error { cause := .outOfBoundsAddress a } := by
  have h' : ¬((0 : Int) ≤ a ∧ (a : Int) < 4096) := by omega
  simp only [checkAddress, h', dite_false]

attribute [irreducible] checkAddress

/-! ## Memory contents -/

/-- The contents of memory. -/
abbrev Memory := Vector UInt8 4096

namespace Memory

/-- The byte at an address; past the end there are zeros. -/
def byteAt (m : Memory) (a : Nat) : UInt8 := m.getD a 0

/-- The `count` bytes from `start` on. -/
def block (m : Memory) (start count : Nat) : List UInt8 :=
  (List.range count).map fun i => m.byteAt (start + i)

theorem byteAt_of_lt (m : Memory) {a : Nat} (h : a < 4096) : m.byteAt a = m[a] := by
  simp [byteAt, Vector.getD, h]

@[simp] theorem length_block (m : Memory) (start count : Nat) :
    (m.block start count).length = count := by
  simp [block]

theorem getElem?_block (m : Memory) (start : Nat) {count i : Nat} (h : i < count) :
    (m.block start count)[i]? = some (m.byteAt (start + i)) := by
  simp [block, h]

/-- Write bytes one after the other from `start` on.  Bytes past the end are
dropped. -/
def store (m : Memory) (start : Nat) : List UInt8 → Memory
  | [] => m
  | b :: bs => store (m.setIfInBounds start b) (start + 1) bs

/-- A stored block and nothing else has changed. -/
theorem getElem_store (m : Memory) (start : Nat) (bs : List UInt8) (k : Nat)
    (hk : k < 4096) :
    (m.store start bs)[k] =
      if h : start ≤ k ∧ k - start < bs.length then bs[k - start] else m[k] := by
  induction bs generalizing m start with
  | nil => simp [store]
  | cons b bs ih =>
    rw [store, ih]
    -- `k` lies before the block, at its first byte, within the rest of it, or past it
    by_cases hlt : k < start
    · have h₁ : ¬(start + 1 ≤ k ∧ k - (start + 1) < bs.length) := by omega
      have h₂ : ¬(start ≤ k ∧ k - start < (b :: bs).length) := by omega
      rw [dif_neg h₁, dif_neg h₂, Vector.getElem_setIfInBounds hk, if_neg (by omega)]
    · by_cases heq : k = start
      · subst heq
        have h₁ : ¬(k + 1 ≤ k ∧ k - (k + 1) < bs.length) := by omega
        rw [dif_neg h₁, Vector.getElem_setIfInBounds hk, if_pos rfl]
        simp
      · by_cases hin : k - (start + 1) < bs.length
        · have h₁ : start + 1 ≤ k ∧ k - (start + 1) < bs.length := by omega
          have h₂ : start ≤ k ∧ k - start < (b :: bs).length := by
            simp only [List.length_cons]
            omega
          rw [dif_pos h₁, dif_pos h₂]
          have hi : k - start = k - (start + 1) + 1 := by omega
          simp only [hi, List.getElem_cons_succ]
        · have h₁ : ¬(start + 1 ≤ k ∧ k - (start + 1) < bs.length) := by omega
          have h₂ : ¬(start ≤ k ∧ k - start < (b :: bs).length) := by
            simp only [List.length_cons]
            omega
          rw [dif_neg h₁, dif_neg h₂, Vector.getElem_setIfInBounds hk, if_neg (by omega)]

/-- A byte of a block that was stored. -/
theorem byteAt_store (m : Memory) {start i : Nat} {bytes : List UInt8} {b : UInt8}
    (hb : bytes[i]? = some b) (hfit : start + i < 4096) :
    (m.store start bytes).byteAt (start + i) = b := by
  obtain ⟨hi, rfl⟩ := List.getElem?_eq_some_iff.mp hb
  have hin : start ≤ start + i ∧ start + i - start < bytes.length := by omega
  rw [byteAt_of_lt _ hfit, getElem_store _ _ _ _ hfit, dif_pos hin]
  simp only [Nat.add_sub_cancel_left]

/-- Storing what is there already changes nothing. -/
theorem store_eq_self (m : Memory) {start : Nat} {bytes : List UInt8}
    (h : ∀ i b, bytes[i]? = some b → m.byteAt (start + i) = b) : m.store start bytes = m := by
  refine Vector.ext fun a ha => ?_
  rw [getElem_store _ _ _ _ ha]
  by_cases hin : start ≤ a ∧ a - start < bytes.length
  · have hb := h (a - start) _ (List.getElem?_eq_getElem hin.2)
    rw [Nat.add_sub_cancel' hin.1, byteAt_of_lt m ha] at hb
    rw [dif_pos hin, hb]
  · rw [dif_neg hin]

/-- Blocks that are stored one behind the other are one block. -/
theorem store_append (m : Memory) (start : Nat) (first second : List UInt8) :
    m.store start (first ++ second) =
      (m.store start first).store (start + first.length) second := by
  induction first generalizing m start with
  | nil => rfl
  | cons b bytes ih =>
    rw [List.cons_append, store, store, ih, List.length_cons, Nat.add_right_comm, Nat.add_assoc]

/-- The word at an address: two bytes, both of which memory must have. -/
def wordAt (m : Memory) (a : Int) : Except Fault Word := do
  let high ← checkAddress a
  let low ← checkAddress (a + 1)
  return Word.ofBytes m[high] m[low]

theorem wordAt_of_lt (m : Memory) {a : Nat} (h : a + 1 < 4096) :
    m.wordAt (a : Int) = .ok (Word.ofBytes m[a] m[a + 1]) := by
  have h₂ : checkAddress ((a : Int) + 1) = .ok ⟨a + 1, h⟩ := checkAddress_of_lt h
  rw [wordAt, checkAddress_of_lt (show a < 4096 by omega), h₂]
  rfl

/-- Memory before a program is loaded: the digit glyphs and zeros. -/
def initial : Memory := store (Vector.replicate 4096 0) fontStart fontData

end Memory

end ChipEight
