import ChipEight.Proofs.Listing

/-! # Reassembly

A listing can be assembled again.  `Line.operation?` looks a line up in the table of instructions,
up to the digits of its operands; the key of the operation and the digits, each at its place, make
up a word (`Line.word?`).  Calls of machine code and data have no operation, and their word is the
number that they name.  `assemble` accepts a text only if it is the listing of the word found, so it
accepts no other spellings.

Whatever a word stands for, its line has one of three forms, and it is found again from each of them
(`word?_ofWord`).  So a listing tells one word from another (`listing_determines_words`), and the
form of the line tells what the word stands for (`resolve_iff_disassemble`).
-/
namespace ChipEight

open Assembly

/-! ## Looking a line up -/

namespace Assembly

/-- The operand with zeros for its digits. -/
def Operand.blank : Operand → Operand
  | register _ => register 0
  | byte _ => byte 0
  | address _ => address 0
  | word _ => word 0
  | rows _ => rows 0
  | o => o

/-- The digits of operands, as they stand in a word: registers one after the other from a given
place on, and numbers at the end. -/
def Operand.digits (place : Nat) : List Operand → Nat
  | [] => 0
  | register r :: os => place * r.val + digits (place / 16) os
  | byte b :: os => b.toNat + digits place os
  | address a :: os => a.toNat + digits place os
  | word w :: os => w.toNat + digits place os
  | rows n :: os => n.val + digits place os
  | _ :: os => digits place os

namespace Line

/-- The line with zeros for the digits of its operands. -/
def blank (l : Line) : Line := ⟨l.mnemonic, l.operands.map Operand.blank⟩

/-- The operation that has the line, up to the digits of the operands. -/
def operation? (l : Line) : Option Operation :=
  Operation.all.find? fun op => op.line 0 == l.blank

/-- The digits that a line gives a word besides those of its operands. -/
def key? (l : Line) : Option Nat :=
  match l.operation? with
  | some op => some op.key
  | none => if l.mnemonic = .sys ∨ l.mnemonic = .dw then some 0 else none

/-- The word that a line is put together to. -/
def word? (l : Line) : Option Word :=
  l.key?.map fun key => UInt16.ofNat (key + Operand.digits 0x100 l.operands)

theorem blank_line (op : Operation) (w : Word) : (op.line w).blank = op.line 0 := by
  cases op with
  | skip test => cases test <;> rfl
  | alu op => cases op <;> rfl
  | _ => rfl

theorem operation?_line (op : Operation) (w : Word) : (op.line w).operation? = some op := by
  rw [operation?, blank_line]
  cases op with
  | skip test => cases test <;> rfl
  | alu op => cases op <;> rfl
  | _ => rfl

end Line

end Assembly

namespace Operation

/-- A word is the key of its operation and the digits of the operands. -/
theorem key_add_digits {op : Operation} {w : Word} (h : op.Matches w) :
    op.key + Operand.digits 0x100 (op.line w).operands = w.toNat := by
  have hw := w.toNat_eq_opcode_nnn
  have hnnn := w.nnn_eq_x_nn
  have hnn := w.nn_eq_y_n
  cases op with
  | clearScreen =>
    obtain rfl : w = 0x00E0 := h
    rfl
  | returnFromCall =>
    obtain rfl : w = 0x00EE := h
    rfl
  | skip test =>
    cases test with
    | equalByte | unequalByte =>
      have ho : w.opcode = _ := h
      rw [ho] at hw
      simp only [key, skipKey, line, SkipTest.line, Operand.digits]
      omega
    | equalRegister | unequalRegister =>
      obtain ⟨ho, hn⟩ := h
      rw [ho] at hw
      rw [hn] at hnn
      simp only [key, skipKey, line, SkipTest.line, Operand.digits]
      omega
    | keyDown | keyUp =>
      obtain ⟨ho, hb⟩ := h
      rw [ho] at hw
      simp only [hb, UInt8.reduceToNat] at hnnn
      simp only [key, skipKey, line, SkipTest.line, Operand.digits]
      omega
  | alu op =>
    obtain ⟨ho, hn⟩ := h
    rw [ho] at hw
    rw [hn] at hnn
    have hkey : (Operation.alu op).key = 0x8000 + op.lastDigit.val := by
      cases op <;> rfl
    simp only [hkey, line, Operand.digits]
    omega
  | readDelay | waitKey | setDelay | setSound | addIndex | pointGlyph | storeDecimal
  | storeRegisters | loadRegisters =>
    obtain ⟨ho, hb⟩ := h
    rw [ho] at hw
    simp only [hb, UInt8.reduceToNat] at hnnn
    simp only [key, line, Operand.digits]
    omega
  | _ =>
    have ho : w.opcode = _ := h
    rw [ho] at hw
    simp only [key, line, Operand.digits]
    omega

end Operation

namespace Assembly.Line

theorem word?_line {op : Operation} {w : Word} (h : op.Matches w) : (op.line w).word? = some w := by
  have hkey : (op.line w).key? = some op.key := by
    rw [key?, operation?_line]
  rw [word?, hkey, Option.map_some, Operation.key_add_digits h]
  exact congrArg some UInt16.ofNat_toNat

theorem operation?_system (a : UInt16) : (⟨.sys, [.address a]⟩ : Line).operation? = none := rfl

theorem operation?_data (w : Word) : (data w).operation? = none := rfl

/-- **A word is found again from its line.** -/
theorem word?_ofWord (w : Word) : (ofWord w).word? = some w := by
  rcases w.kind_cases with h | ⟨op, h⟩ | h
  · have hdigits : (0 : Nat) + (w.nnn.toNat + 0) = w.toNat := by
      rw [h.toNat_nnn, Nat.add_zero, Nat.zero_add]
    rw [ofWord_of_machineCode h]
    show some (UInt16.ofNat (0 + (w.nnn.toNat + 0))) = some w
    rw [hdigits, UInt16.ofNat_toNat]
  · rw [ofWord_of_matches h]
    exact word?_line h
  · have hdigits : (0 : Nat) + (w.toNat + 0) = w.toNat := Nat.zero_add _
    rw [ofWord_of_unassigned h]
    show some (UInt16.ofNat (0 + (w.toNat + 0))) = some w
    rw [hdigits, UInt16.ofNat_toNat]

end Assembly.Line

/-! ## Listings -/

/-- The word whose listing a text is. -/
def assemble (s : String) : Option Word :=
  ((Line.ofText? s).bind Line.word?).filter fun w => disassemble w == s

theorem assemble_disassemble (w : Word) : assemble (disassemble w) = some w := by
  have hread : Line.ofText? (disassemble w) = some (Line.ofWord w) :=
    Line.ofText?_text (Line.fits_ofWord w)
  rw [assemble, hread, Option.bind_some, Line.word?_ofWord]
  exact Option.filter_some_pos (beq_self_eq_true _)

/-- A text is assembled to the word that it lists, and to no other. -/
theorem assemble_eq_some_iff {s : String} {w : Word} : assemble s = some w ↔ disassemble w = s := by
  constructor
  · intro h
    obtain ⟨-, hlists⟩ := Option.filter_eq_some_iff.mp h
    exact beq_iff_eq.mp hlists
  · rintro rfl
    exact assemble_disassemble w

theorem disassemble_inj {v w : Word} : disassemble v = disassemble w ↔ v = w := by
  refine ⟨fun heq => ?_, congrArg disassemble⟩
  have hv := assemble_disassemble v
  rw [heq, assemble_disassemble w] at hv
  exact (Option.some.inj hv).symm

example : assemble "DRW V1, VA, 12" = some 0xD1AC := by decide
example : assemble "LD V1, 0X20" = none := by decide

theorem mapM_assemble (words : List Word) : (words.map disassemble).mapM assemble = some words := by
  induction words with
  | nil => rfl
  | cons w words ih =>
    rw [List.map_cons, List.mapM_cons, assemble_disassemble, ih]
    rfl

/-- **A listing loses nothing.**

Numbers are listed alike exactly if they are congruent modulo 65536, that is, if they are the same
word.  A text is assembled exactly if it lists a word, and then to this word, so a program is
assembled from its listing word for word. -/
theorem listing_determines_words :
    (∀ a b : Int, disassemble (.ofInt a) = disassemble (.ofInt b) ↔ a % 65536 = b % 65536) ∧
      (∀ (s : String) (w : Word), assemble s = some w ↔ disassemble w = s) ∧
      ∀ numbers : List Int, (numbers.map fun v => disassemble (.ofInt v)).mapM assemble =
        some (numbers.map .ofInt) := by
  refine ⟨fun a b => ?_, fun s w => assemble_eq_some_iff, fun numbers => ?_⟩
  · rw [disassemble_inj, ← Word.toNat_ofInt, ← Word.toNat_ofInt, Int.natCast_inj, UInt16.toNat_inj]
  · have hwords := mapM_assemble (numbers.map Word.ofInt)
    rwa [List.map_map] at hwords

/-! ## Listing and running -/

namespace Assembly.Line

variable {w : Word}

theorem operation?_ofWord_eq_some_iff {op : Operation} :
    (ofWord w).operation? = some op ↔ op.Matches w := by
  constructor
  · intro hfound
    rcases w.kind_cases with h | ⟨op', h⟩ | h
    · rw [ofWord_of_machineCode h, operation?_system] at hfound
      cases hfound
    · rw [ofWord_of_matches h, operation?_line] at hfound
      obtain rfl := Option.some.inj hfound
      exact h
    · rw [ofWord_of_unassigned h, operation?_data] at hfound
      cases hfound
  · intro h
    rw [ofWord_of_matches h, operation?_line]

theorem ofWord_eq_line_iff {op : Operation} : ofWord w = op.line w ↔ op.Matches w := by
  refine ⟨fun heq => operation?_ofWord_eq_some_iff.mp ?_, ofWord_of_matches⟩
  rw [heq, operation?_line]

theorem ofWord_eq_system_iff : ofWord w = ⟨.sys, [.address w.nnn]⟩ ↔ w.IsMachineCode := by
  refine ⟨fun heq => ?_, ofWord_of_machineCode⟩
  rcases w.kind_cases with h | ⟨op, h⟩ | h
  · exact h
  · have hfound := operation?_ofWord_eq_some_iff.mpr h
    rw [heq, operation?_system] at hfound
    cases hfound
  · have hmnemonic := congrArg mnemonic (ofWord_of_unassigned h)
    rw [heq] at hmnemonic
    cases hmnemonic

theorem ofWord_eq_data_iff : ofWord w = data w ↔ w.IsUnassigned := by
  refine ⟨fun heq => ?_, ofWord_of_unassigned⟩
  rcases w.kind_cases with h | ⟨op, h⟩ | h
  · have hmnemonic := congrArg mnemonic (ofWord_of_machineCode h)
    rw [heq] at hmnemonic
    cases hmnemonic
  · have hfound := operation?_ofWord_eq_some_iff.mpr h
    rw [heq, operation?_data] at hfound
    cases hfound
  · exact h

end Assembly.Line

/-- A word has the listing of a line only if this is its line. -/
theorem disassemble_eq_text_iff {w : Word} {l : Line} (h : l.Fits) :
    disassemble w = l.text ↔ Line.ofWord w = l := Line.text_inj (Line.fits_ofWord w) h

/-- **What runs is what is listed.**

A number of any size and sign is taken modulo 65536.  The word is refused, by its number, exactly
if it is listed as data, and it stands for an operation exactly if it is listed with the mnemonic of
this operation and the digits of the word for its operands.  It is a call of machine code exactly if
it is listed as such. -/
theorem resolve_iff_disassemble (v : Int) :
    (∀ f : Fault, (Word.ofInt v).resolve = .error f ↔
      f = { cause := .invalidOpcode (v % 65536) .unassigned } ∧
        disassemble (.ofInt v) = "DW 0x" ++ Text.hex 4 (v % 65536)) ∧
    (∀ op : Operation, (Word.ofInt v).resolve = .ok (.operation op) ↔
      disassemble (.ofInt v) = (op.line (.ofInt v)).text) ∧
    ((Word.ofInt v).resolve = .ok .machineCode ↔
      disassemble (.ofInt v) = "SYS 0x" ++ Text.hex 3 (Word.ofInt v).nnn.toNat) := by
  have hvalue : ((Word.ofInt v).toNat : Int) = v % 65536 := Word.toNat_ofInt v
  generalize Word.ofInt v = w at hvalue ⊢
  have hdata : "DW 0x" ++ Text.hex 4 (v % 65536) = (Line.data w).text := by
    rw [← hvalue]
    simp [Line.data, Line.text, Mnemonic.text, Operand.text, ← String.append_assoc]
  have hsystem : "SYS 0x" ++ Text.hex 3 w.nnn.toNat = Line.text ⟨.sys, [.address w.nnn]⟩ := by
    simp [Line.text, Mnemonic.text, Operand.text, ← String.append_assoc]
  refine ⟨fun f => ?_, fun op => ?_, ?_⟩
  · rw [Word.resolve_eq_error_iff, hvalue, hdata, disassemble_eq_text_iff (Line.fits_data w),
      Line.ofWord_eq_data_iff]
  · rw [Word.resolve_eq_operation_iff, disassemble_eq_text_iff (Line.fits_line op w),
      Line.ofWord_eq_line_iff]
  · rw [Word.resolve_eq_machineCode_iff, hsystem, disassemble_eq_text_iff (Line.fits_system w),
      Line.ofWord_eq_system_iff]

end ChipEight
