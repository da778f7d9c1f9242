/-! # Instruction words

An instruction is a 16-bit word.  Its four hexadecimal digits are read in several
overlapping ways: the first digit is the **opcode**, the next two usually name the
registers `VX` and `VY`, and the last one, two or three digits are an immediate
number `N`, `NN` or `NNN`.  The fields are defined by division and remainder of the
word's value, and the lemmas put a word back together from them.
-/
namespace ChipEight

/-- An instruction word. -/
abbrev Word := UInt16

/-- There are digits: each of the sixteen can be written as a number. -/
instance digitNeZero : @NeZero Nat Zero.ofOfNat0 16 := ⟨Nat.succ_ne_zero 15⟩

namespace Word

/-- The word congruent to an integer of any size and sign modulo 65536. -/
def ofInt (v : Int) : Word := UInt16.ofNat (v % 65536).toNat

/-- The word stored as two bytes, the more significant one first. -/
def ofBytes (high low : UInt8) : Word := UInt16.ofNat (high.toNat * 256 + low.toNat)

/-- The first digit. -/
def opcode (w : Word) : Fin 16 := ⟨w.toNat / 4096, by have := w.toNat_lt; omega⟩

/-- The second digit: the register `VX`. -/
def x (w : Word) : Fin 16 := ⟨w.toNat / 256 % 16, Nat.mod_lt _ (by decide)⟩

/-- The third digit: the register `VY`. -/
def y (w : Word) : Fin 16 := ⟨w.toNat / 16 % 16, Nat.mod_lt _ (by decide)⟩

/-- The last digit. -/
def n (w : Word) : Fin 16 := ⟨w.toNat % 16, Nat.mod_lt _ (by decide)⟩

/-- The last two digits: an immediate byte. -/
def nn (w : Word) : UInt8 := UInt8.ofNat (w.toNat % 256)

/-- The last three digits: an address. -/
def nnn (w : Word) : UInt16 := UInt16.ofNat (w.toNat % 4096)

/-! ## The fields determine the word -/

theorem toNat_ofInt (v : Int) : ((ofInt v).toNat : Int) = v % 65536 := by
  have h₀ : 0 ≤ v % 65536 := Int.emod_nonneg v (by decide)
  have h₁ : v % 65536 < 65536 := Int.emod_lt_of_pos v (by decide)
  simp only [ofInt, UInt16.toNat_ofNat']
  omega

theorem toNat_ofBytes (high low : UInt8) :
    (ofBytes high low).toNat = high.toNat * 256 + low.toNat := by
  have h := high.toNat_lt
  have l := low.toNat_lt
  simp only [ofBytes, UInt16.toNat_ofNat']
  omega

theorem toNat_nn (w : Word) : w.nn.toNat = w.toNat % 256 := by
  simp only [nn, UInt8.toNat_ofNat']
  omega

theorem toNat_nnn (w : Word) : w.nnn.toNat = w.toNat % 4096 := by
  simp only [nnn, UInt16.toNat_ofNat']
  omega

theorem nnn_lt (w : Word) : w.nnn.toNat < 4096 := by
  rw [toNat_nnn]
  exact Nat.mod_lt _ (by decide)

theorem toNat_eq_opcode_nnn (w : Word) : w.toNat = 4096 * w.opcode.val + w.nnn.toNat := by
  rw [toNat_nnn]
  simp only [opcode]
  omega

theorem nnn_eq_x_nn (w : Word) : w.nnn.toNat = 256 * w.x.val + w.nn.toNat := by
  rw [toNat_nnn, toNat_nn]
  simp only [x]
  omega

theorem nn_eq_y_n (w : Word) : w.nn.toNat = 16 * w.y.val + w.n.val := by
  rw [toNat_nn]
  simp only [y, n]
  omega

end Word

end ChipEight
