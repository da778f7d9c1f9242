import ChipEight.Operation

/-! # What a word stands for, by its digits

An operation is found by a key, in which the digits of a word that do not matter are
blanked out.  This module reads the search as a table of instructions is read:
`Operation.Matches op w` says which digits make `w` a word for `op`, and `matches_iff` that
these are exactly the words with the key of `op`.

A word that begins with 0 and is neither `00E0` nor `00EE` is a machine-code call
(`Word.IsMachineCode`), and a word that is no such call and matches no operation stands for
nothing (`Word.IsUnassigned`).  Every word is of exactly one of the three kinds, and
`Word.resolve` tells which (`resolve_eq_operation_iff`, `resolve_eq_machineCode_iff`,
`resolve_eq_error_iff`).
-/
namespace ChipEight

/-! ## The table of instructions -/

/-- The words for a skip. -/
def SkipTest.Matches (w : Word) : SkipTest → Prop
  | .equalByte => w.opcode = 0x3
  | .unequalByte => w.opcode = 0x4
  | .equalRegister => w.opcode = 0x5 ∧ w.n = 0x0
  | .unequalRegister => w.opcode = 0x9 ∧ w.n = 0x0
  | .keyDown => w.opcode = 0xE ∧ w.nn = 0x9E
  | .keyUp => w.opcode = 0xE ∧ w.nn = 0xA1

/-- The last digit of the words for an operation on two registers. -/
def Alu.Op.lastDigit : Alu.Op → Fin 16
  | .assign => 0x0
  | .or => 0x1
  | .and => 0x2
  | .xor => 0x3
  | .add => 0x4
  | .subtract => 0x5
  | .shiftRight => 0x6
  | .subtractFrom => 0x7
  | .shiftLeft => 0xE

/-- The words for an operation. -/
def Operation.Matches (w : Word) : Operation → Prop
  | clearScreen => w = 0x00E0
  | returnFromCall => w = 0x00EE
  | jump => w.opcode = 0x1
  | call => w.opcode = 0x2
  | skip test => test.Matches w
  | setByte => w.opcode = 0x6
  | addByte => w.opcode = 0x7
  | alu op => w.opcode = 0x8 ∧ w.n = op.lastDigit
  | setIndex => w.opcode = 0xA
  | jumpRelative => w.opcode = 0xB
  | random => w.opcode = 0xC
  | draw => w.opcode = 0xD
  | readDelay => w.opcode = 0xF ∧ w.nn = 0x07
  | waitKey => w.opcode = 0xF ∧ w.nn = 0x0A
  | setDelay => w.opcode = 0xF ∧ w.nn = 0x15
  | setSound => w.opcode = 0xF ∧ w.nn = 0x18
  | addIndex => w.opcode = 0xF ∧ w.nn = 0x1E
  | pointGlyph => w.opcode = 0xF ∧ w.nn = 0x29
  | storeDecimal => w.opcode = 0xF ∧ w.nn = 0x33
  | storeRegisters => w.opcode = 0xF ∧ w.nn = 0x55
  | loadRegisters => w.opcode = 0xF ∧ w.nn = 0x65

namespace Word

/-- A machine-code call: the word begins with 0 and is no operation of that family. -/
def IsMachineCode (w : Word) : Prop := w.opcode = 0 ∧ w ≠ 0x00E0 ∧ w ≠ 0x00EE

instance (w : Word) : Decidable w.IsMachineCode :=
  inferInstanceAs (Decidable (w.opcode = 0 ∧ w ≠ 0x00E0 ∧ w ≠ 0x00EE))

/-- A word that is in no table. -/
def IsUnassigned (w : Word) : Prop := w.opcode ≠ 0 ∧ ∀ op : Operation, ¬op.Matches w

/-! ## Keys, one selector at a time -/

theorem key_div (w : Word) : w.key / 4096 = w.opcode.val := by
  have hn := w.n.isLt
  have hb := w.nn.toNat_lt
  unfold key
  cases w.selector with
  | firstDigit => simp only; omega
  | lastDigit => simp only; omega
  | lastByte => simp only; omega
  | allDigits => rfl

/-- The key of a word begins with its first digit. -/
theorem opcode_of_key {w : Word} {d : Fin 16} {r : Nat} (hr : r < 4096)
    (h : 0x1000 * d.val + r = w.key) : w.opcode = d := by
  have hdiv := w.key_div
  exact Fin.ext (by omega)

/-- A word whose first digit is enough. -/
theorem key_eq_first_iff {w : Word} {d : Fin 16}
    (hd : d ≠ 0 ∧ d ≠ 5 ∧ d ≠ 8 ∧ d ≠ 9 ∧ d ≠ 14 ∧ d ≠ 15) :
    0x1000 * d.val = w.key ↔ w.opcode = d := by
  have hkey : w.opcode = d → w.key = 0x1000 * d.val := by
    intro h
    have hs : w.selector = .firstDigit := by
      rw [selector, h]
      clear h
      revert d
      decide
    rw [key, hs, h]
  exact ⟨fun h => opcode_of_key (r := 0) (by decide) h, fun h => (hkey h).symm⟩

/-- A word whose last digit matters too. -/
theorem key_eq_lastDigit_iff {w : Word} {d e : Fin 16} (hd : d = 5 ∨ d = 8 ∨ d = 9) :
    0x1000 * d.val + e.val = w.key ↔ w.opcode = d ∧ w.n = e := by
  have hkey : w.opcode = d → w.key = 0x1000 * d.val + w.n.val := by
    intro h
    have hs : w.selector = .lastDigit := by
      rw [selector, h]
      rcases hd with rfl | rfl | rfl <;> rfl
    rw [key, hs, h]
  constructor
  · intro h
    have ho := opcode_of_key (by omega) h
    rw [hkey ho] at h
    exact ⟨ho, Fin.ext (by omega)⟩
  · rintro ⟨ho, rfl⟩
    exact (hkey ho).symm

/-- A word whose last byte matters too. -/
theorem key_eq_lastByte_iff {w : Word} {d : Fin 16} {b : UInt8} (hd : d = 14 ∨ d = 15) :
    0x1000 * d.val + b.toNat = w.key ↔ w.opcode = d ∧ w.nn = b := by
  have hkey : w.opcode = d → w.key = 0x1000 * d.val + w.nn.toNat := by
    intro h
    have hs : w.selector = .lastByte := by
      rw [selector, h]
      rcases hd with rfl | rfl <;> rfl
    rw [key, hs, h]
  constructor
  · intro h
    have hb := b.toNat_lt
    have ho := opcode_of_key (by omega) h
    rw [hkey ho] at h
    exact ⟨ho, UInt8.toNat_inj.mp (by omega)⟩
  · rintro ⟨ho, rfl⟩
    exact (hkey ho).symm

/-- A word of which every digit matters. -/
theorem key_eq_allDigits_iff {w v : Word} (hv : v.toNat < 4096) : v.toNat = w.key ↔ w = v := by
  have hkey : w.opcode = 0 → w.key = w.toNat := by
    intro h
    have hs : w.selector = .allDigits := by
      rw [selector, h]
      rfl
    rw [key, hs]
  constructor
  · intro h
    have ho : w.opcode = 0 := opcode_of_key (d := 0) hv (by simpa using h)
    rw [hkey ho] at h
    exact (UInt16.toNat_inj.mp h).symm
  · rintro rfl
    have ho : w.opcode = 0 := Fin.ext (Nat.div_eq_of_lt hv)
    exact (hkey ho).symm

end Word

namespace Operation

/-! ## The table and the search agree -/

/-- **A word matches an operation exactly if it has the key of the operation.** -/
theorem matches_iff {op : Operation} {w : Word} : op.Matches w ↔ op.key = w.key := by
  cases op with
  | clearScreen => exact (Word.key_eq_allDigits_iff (v := 0x00E0) (by decide)).symm
  | returnFromCall => exact (Word.key_eq_allDigits_iff (v := 0x00EE) (by decide)).symm
  | jump => exact (Word.key_eq_first_iff (d := 0x1) (by decide)).symm
  | call => exact (Word.key_eq_first_iff (d := 0x2) (by decide)).symm
  | skip test =>
    cases test with
    | equalByte => exact (Word.key_eq_first_iff (d := 0x3) (by decide)).symm
    | unequalByte => exact (Word.key_eq_first_iff (d := 0x4) (by decide)).symm
    | equalRegister => exact (Word.key_eq_lastDigit_iff (d := 0x5) (e := 0) (by decide)).symm
    | unequalRegister => exact (Word.key_eq_lastDigit_iff (d := 0x9) (e := 0) (by decide)).symm
    | keyDown => exact (Word.key_eq_lastByte_iff (d := 0xE) (b := 0x9E) (by decide)).symm
    | keyUp => exact (Word.key_eq_lastByte_iff (d := 0xE) (b := 0xA1) (by decide)).symm
  | setByte => exact (Word.key_eq_first_iff (d := 0x6) (by decide)).symm
  | addByte => exact (Word.key_eq_first_iff (d := 0x7) (by decide)).symm
  | alu op =>
    have hkey : aluKey op = 0x1000 * (0x8 : Fin 16).val + op.lastDigit.val := by
      cases op <;> rfl
    rw [key, hkey]
    exact (Word.key_eq_lastDigit_iff (d := 0x8) (by decide)).symm
  | setIndex => exact (Word.key_eq_first_iff (d := 0xA) (by decide)).symm
  | jumpRelative => exact (Word.key_eq_first_iff (d := 0xB) (by decide)).symm
  | random => exact (Word.key_eq_first_iff (d := 0xC) (by decide)).symm
  | draw => exact (Word.key_eq_first_iff (d := 0xD) (by decide)).symm
  | readDelay => exact (Word.key_eq_lastByte_iff (d := 0xF) (b := 0x07) (by decide)).symm
  | waitKey => exact (Word.key_eq_lastByte_iff (d := 0xF) (b := 0x0A) (by decide)).symm
  | setDelay => exact (Word.key_eq_lastByte_iff (d := 0xF) (b := 0x15) (by decide)).symm
  | setSound => exact (Word.key_eq_lastByte_iff (d := 0xF) (b := 0x18) (by decide)).symm
  | addIndex => exact (Word.key_eq_lastByte_iff (d := 0xF) (b := 0x1E) (by decide)).symm
  | pointGlyph => exact (Word.key_eq_lastByte_iff (d := 0xF) (b := 0x29) (by decide)).symm
  | storeDecimal => exact (Word.key_eq_lastByte_iff (d := 0xF) (b := 0x33) (by decide)).symm
  | storeRegisters => exact (Word.key_eq_lastByte_iff (d := 0xF) (b := 0x55) (by decide)).symm
  | loadRegisters => exact (Word.key_eq_lastByte_iff (d := 0xF) (b := 0x65) (by decide)).symm

instance (op : Operation) (w : Word) : Decidable (op.Matches w) :=
  decidable_of_iff _ matches_iff.symm

theorem ofKey?_key_eq_some_iff {w : Word} {op : Operation} :
    ofKey? w.key = some op ↔ op.Matches w :=
  ofKey?_eq_some_iff.trans matches_iff.symm

/-- No word is a word for two operations. -/
theorem Matches.unique {op op' : Operation} {w : Word} (h : op.Matches w) (h' : op'.Matches w) :
    op = op' :=
  Option.some.inj ((ofKey?_key_eq_some_iff.mpr h).symm.trans (ofKey?_key_eq_some_iff.mpr h'))

end Operation

namespace Word

/-- A machine-code call matches no operation. -/
theorem IsMachineCode.not_matches {w : Word} (h : w.IsMachineCode) (op : Operation) :
    ¬op.Matches w := by
  obtain ⟨ho, h₁, h₂⟩ := h
  intro hm
  cases op with
  | clearScreen => exact h₁ hm
  | returnFromCall => exact h₂ hm
  | skip test => cases test <;> simp [Operation.Matches, SkipTest.Matches, ho] at hm
  | _ => simp [Operation.Matches, ho] at hm

/-- A machine-code call is no more than the address that it names. -/
theorem IsMachineCode.toNat_nnn {w : Word} (h : w.IsMachineCode) : w.nnn.toNat = w.toNat := by
  have hw := w.toNat_eq_opcode_nnn
  rw [h.1] at hw
  omega

/-- Every word is a machine-code call, matches an operation, or stands for nothing. -/
theorem kind_cases (w : Word) :
    w.IsMachineCode ∨ (∃ op : Operation, op.Matches w) ∨ w.IsUnassigned := by
  by_cases hop : ∃ op : Operation, op.Matches w
  · exact Or.inr (Or.inl hop)
  · have hno : ∀ op : Operation, ¬op.Matches w := fun op h => hop ⟨op, h⟩
    by_cases ho : w.opcode = 0
    · exact Or.inl ⟨ho, hno .clearScreen, hno .returnFromCall⟩
    · exact Or.inr (Or.inr ⟨ho, hno⟩)

theorem IsUnassigned.not_machineCode {w : Word} (h : w.IsUnassigned) : ¬w.IsMachineCode :=
  fun hm => h.1 hm.1

/-! ## What the search gives -/

theorem target?_of_matches {w : Word} {op : Operation} (h : op.Matches w) :
    w.target? = some (.operation op) := by
  simp [target?, Operation.ofKey?_key_eq_some_iff.mpr h]

theorem ofKey?_key_eq_none_iff {w : Word} :
    Operation.ofKey? w.key = none ↔ ∀ op : Operation, ¬op.Matches w := by
  constructor
  · intro h op hop
    rw [Operation.ofKey?_key_eq_some_iff.mpr hop] at h
    cases h
  · intro h
    cases hk : Operation.ofKey? w.key with
    | none => rfl
    | some op => exact absurd (Operation.ofKey?_key_eq_some_iff.mp hk) (h op)

instance (w : Word) : Decidable w.IsUnassigned :=
  decidable_of_iff (w.opcode ≠ 0 ∧ Operation.ofKey? w.key = none)
    (and_congr_right fun _ => ofKey?_key_eq_none_iff)

theorem target?_of_machineCode {w : Word} (h : w.IsMachineCode) :
    w.target? = some .machineCode := by
  simp [target?, ofKey?_key_eq_none_iff.mpr h.not_matches, h.1]

theorem target?_of_unassigned {w : Word} (h : w.IsUnassigned) : w.target? = none := by
  simp [target?, ofKey?_key_eq_none_iff.mpr h.2, h.1]

theorem resolve_of_matches {w : Word} {op : Operation} (h : op.Matches w) :
    w.resolve = .ok (.operation op) := by
  rw [resolve, target?_of_matches h]

theorem resolve_of_machineCode {w : Word} (h : w.IsMachineCode) :
    w.resolve = .ok .machineCode := by
  rw [resolve, target?_of_machineCode h]

theorem resolve_of_unassigned {w : Word} (h : w.IsUnassigned) :
    w.resolve = .error { cause := .invalidOpcode w.toNat .unassigned } := by
  rw [resolve, target?_of_unassigned h]

theorem resolve_eq_operation_iff {w : Word} {op : Operation} :
    w.resolve = .ok (.operation op) ↔ op.Matches w := by
  refine ⟨fun hfound => ?_, resolve_of_matches⟩
  rcases w.kind_cases with h | ⟨op', h⟩ | h
  · rw [resolve_of_machineCode h] at hfound
    cases hfound
  · rw [resolve_of_matches h] at hfound
    cases hfound
    exact h
  · rw [resolve_of_unassigned h] at hfound
    cases hfound

theorem resolve_eq_machineCode_iff {w : Word} : w.resolve = .ok .machineCode ↔ w.IsMachineCode := by
  refine ⟨fun hfound => ?_, resolve_of_machineCode⟩
  rcases w.kind_cases with h | ⟨op', h⟩ | h
  · exact h
  · rw [resolve_of_matches h] at hfound
    cases hfound
  · rw [resolve_of_unassigned h] at hfound
    cases hfound

theorem resolve_eq_error_iff {w : Word} {f : Fault} :
    w.resolve = .error f ↔
      f = { cause := .invalidOpcode w.toNat .unassigned } ∧ w.IsUnassigned := by
  constructor
  · intro hfound
    rcases w.kind_cases with h | ⟨op', h⟩ | h
    · rw [resolve_of_machineCode h] at hfound
      cases hfound
    · rw [resolve_of_matches h] at hfound
      cases hfound
    · rw [resolve_of_unassigned h] at hfound
      cases hfound
      exact ⟨rfl, h⟩
  · rintro ⟨rfl, h⟩
    exact resolve_of_unassigned h

end Word

end ChipEight
