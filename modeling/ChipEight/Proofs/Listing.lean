import ChipEight.Proofs.Dispatch
import ChipEight.Proofs.LineReading

/-! # The lines of the operations

`Line.ofWord` reads a word digit by digit and never asks which operations the machine has.
`Operation.line` is the table of instructions as assembly: the mnemonic and the operands of each
operation.  A word for an operation has the line of the operation (`ofWord_of_matches`), so no
word that runs is listed as data (`disassemble_ne_data`).  The other words are calls of machine
code, listed with their address, and data (`ofWord_of_machineCode`, `ofWord_of_unassigned`).
-/
namespace ChipEight

open Assembly

/-! ## The table of instructions as assembly -/

/-- The mnemonic of an operation on two registers. -/
def Alu.Op.mnemonic : Alu.Op → Mnemonic
  | .assign => .ld
  | .or => .or
  | .and => .and
  | .xor => .xor
  | .add => .add
  | .subtract => .sub
  | .shiftRight => .shr
  | .subtractFrom => .subn
  | .shiftLeft => .shl

/-- The line of a skip. -/
def SkipTest.line (w : Word) : SkipTest → Line
  | .equalByte => ⟨.se, [.register w.x, .byte w.nn]⟩
  | .unequalByte => ⟨.sne, [.register w.x, .byte w.nn]⟩
  | .equalRegister => ⟨.se, [.register w.x, .register w.y]⟩
  | .unequalRegister => ⟨.sne, [.register w.x, .register w.y]⟩
  | .keyDown => ⟨.skp, [.register w.x]⟩
  | .keyUp => ⟨.sknp, [.register w.x]⟩

/-- The line of an operation, with the operands that a word gives it. -/
def Operation.line (w : Word) : Operation → Line
  | clearScreen => ⟨.cls, []⟩
  | returnFromCall => ⟨.ret, []⟩
  | jump => ⟨.jp, [.address w.nnn]⟩
  | call => ⟨.call, [.address w.nnn]⟩
  | skip test => test.line w
  | setByte => ⟨.ld, [.register w.x, .byte w.nn]⟩
  | addByte => ⟨.add, [.register w.x, .byte w.nn]⟩
  | alu op => ⟨op.mnemonic, [.register w.x, .register w.y]⟩
  | setIndex => ⟨.ld, [.index, .address w.nnn]⟩
  | jumpRelative => ⟨.jp, [.register 0, .address w.nnn]⟩
  | random => ⟨.rnd, [.register w.x, .byte w.nn]⟩
  | draw => ⟨.drw, [.register w.x, .register w.y, .rows w.n]⟩
  | readDelay => ⟨.ld, [.register w.x, .delayTimer]⟩
  | waitKey => ⟨.ld, [.register w.x, .key]⟩
  | setDelay => ⟨.ld, [.delayTimer, .register w.x]⟩
  | setSound => ⟨.ld, [.soundTimer, .register w.x]⟩
  | addIndex => ⟨.add, [.index, .register w.x]⟩
  | pointGlyph => ⟨.ld, [.glyph, .register w.x]⟩
  | storeDecimal => ⟨.ld, [.decimal, .register w.x]⟩
  | storeRegisters => ⟨.ld, [.indirect, .register w.x]⟩
  | loadRegisters => ⟨.ld, [.register w.x, .indirect]⟩

namespace Assembly.Line

variable {w : Word}

/-- **A word has the line of its operation.** -/
theorem ofWord_of_matches {op : Operation} (h : op.Matches w) : ofWord w = op.line w := by
  cases op with
  | clearScreen =>
    obtain rfl : w = 0x00E0 := h
    rfl
  | returnFromCall =>
    obtain rfl : w = 0x00EE := h
    rfl
  | skip test =>
    cases test with
    | equalByte | unequalByte =>
      have ho : w.opcode = _ := h
      rw [ofWord, ho]
      rfl
    | equalRegister | unequalRegister =>
      obtain ⟨ho, hn⟩ := h
      simp only [ofWord, ho, hn]
      rfl
    | keyDown | keyUp =>
      obtain ⟨ho, hb⟩ := h
      simp only [ofWord, ho, ofKeySkip, hb]
      rfl
  | alu op =>
    obtain ⟨ho, hn⟩ := h
    simp only [ofWord, ho, ofAlu, hn]
    cases op <;> rfl
  | readDelay | waitKey | setDelay | setSound | addIndex | pointGlyph | storeDecimal
  | storeRegisters | loadRegisters =>
    obtain ⟨ho, hb⟩ := h
    simp only [ofWord, ho, ofMisc, hb]
    rfl
  | _ =>
    have ho : w.opcode = _ := h
    rw [ofWord, ho]
    rfl

/-! ## The lines of other words -/

/-- A machine-code call is listed with its address. -/
theorem ofWord_of_machineCode (h : w.IsMachineCode) : ofWord w = ⟨.sys, [.address w.nnn]⟩ := by
  have hw := h.toNat_nnn
  obtain ⟨ho, hclear, hreturn⟩ := h
  have hsystem : ofWord w = ofSystem w := by
    rw [ofWord, ho]
    rfl
  rw [hsystem, ofSystem]
  split
  next hnnn => exact (hclear (UInt16.toNat_inj.mp (hw.symm.trans hnnn))).elim
  next hnnn => exact (hreturn (UInt16.toNat_inj.mp (hw.symm.trans hnnn))).elim
  next => rfl

theorem ofAlu_of_unassigned (h : w.IsUnassigned) (ho : w.opcode = 0x8) : ofAlu w = data w := by
  have hno (op : Alu.Op) (hn : w.n.val = op.lastDigit.val) : False :=
    h.2 (.alu op) ⟨ho, Fin.ext hn⟩
  rw [ofAlu]
  split
  next hn => exact (hno .assign hn).elim
  next hn => exact (hno .or hn).elim
  next hn => exact (hno .and hn).elim
  next hn => exact (hno .xor hn).elim
  next hn => exact (hno .add hn).elim
  next hn => exact (hno .subtract hn).elim
  next hn => exact (hno .shiftRight hn).elim
  next hn => exact (hno .subtractFrom hn).elim
  next hn => exact (hno .shiftLeft hn).elim
  next => rfl

theorem ofKeySkip_of_unassigned (h : w.IsUnassigned) (ho : w.opcode = 0xE) :
    ofKeySkip w = data w := by
  rw [ofKeySkip]
  split
  next hb => exact (h.2 (.skip .keyDown) ⟨ho, UInt8.toNat_inj.mp hb⟩).elim
  next hb => exact (h.2 (.skip .keyUp) ⟨ho, UInt8.toNat_inj.mp hb⟩).elim
  next => rfl

theorem ofMisc_of_unassigned (h : w.IsUnassigned) (ho : w.opcode = 0xF) : ofMisc w = data w := by
  rw [ofMisc]
  split
  next hb => exact (h.2 .readDelay ⟨ho, UInt8.toNat_inj.mp hb⟩).elim
  next hb => exact (h.2 .waitKey ⟨ho, UInt8.toNat_inj.mp hb⟩).elim
  next hb => exact (h.2 .setDelay ⟨ho, UInt8.toNat_inj.mp hb⟩).elim
  next hb => exact (h.2 .setSound ⟨ho, UInt8.toNat_inj.mp hb⟩).elim
  next hb => exact (h.2 .addIndex ⟨ho, UInt8.toNat_inj.mp hb⟩).elim
  next hb => exact (h.2 .pointGlyph ⟨ho, UInt8.toNat_inj.mp hb⟩).elim
  next hb => exact (h.2 .storeDecimal ⟨ho, UInt8.toNat_inj.mp hb⟩).elim
  next hb => exact (h.2 .storeRegisters ⟨ho, UInt8.toNat_inj.mp hb⟩).elim
  next hb => exact (h.2 .loadRegisters ⟨ho, UInt8.toNat_inj.mp hb⟩).elim
  next => rfl

/-- A word that stands for nothing is listed as data. -/
theorem ofWord_of_unassigned (h : w.IsUnassigned) : ofWord w = data w := by
  have hlast : w.opcode.val < 16 := w.opcode.isLt
  rw [ofWord]
  split
  next ho => exact (h.1 (Fin.ext ho)).elim
  next ho => exact (h.2 .jump (Fin.ext ho)).elim
  next ho => exact (h.2 .call (Fin.ext ho)).elim
  next ho => exact (h.2 (.skip .equalByte) (Fin.ext ho)).elim
  next ho => exact (h.2 (.skip .unequalByte) (Fin.ext ho)).elim
  next ho => exact if_neg fun hn => h.2 (.skip .equalRegister) ⟨Fin.ext ho, hn⟩
  next ho => exact (h.2 .setByte (Fin.ext ho)).elim
  next ho => exact (h.2 .addByte (Fin.ext ho)).elim
  next ho => exact ofAlu_of_unassigned h (Fin.ext ho)
  next ho => exact if_neg fun hn => h.2 (.skip .unequalRegister) ⟨Fin.ext ho, hn⟩
  next ho => exact (h.2 .setIndex (Fin.ext ho)).elim
  next ho => exact (h.2 .jumpRelative (Fin.ext ho)).elim
  next ho => exact (h.2 .random (Fin.ext ho)).elim
  next ho => exact (h.2 .draw (Fin.ext ho)).elim
  next ho => exact ofKeySkip_of_unassigned h (Fin.ext ho)
  next =>
    -- every other digit has a branch of its own
    have ho : w.opcode.val = 0xF := by
      simp only [imp_false] at *
      omega
    exact ofMisc_of_unassigned h (Fin.ext ho)

/-! ## Addresses of three digits -/

theorem fits_line (op : Operation) (w : Word) : (op.line w).Fits := by
  cases op with
  | skip test => cases test <;> simp [Fits, Operation.line, SkipTest.line, Operand.Fits]
  | _ => simp [Fits, Operation.line, Operand.Fits, w.nnn_lt]

theorem fits_system (w : Word) : Fits ⟨.sys, [.address w.nnn]⟩ := by
  simp [Fits, Operand.Fits, w.nnn_lt]

theorem fits_data (w : Word) : (data w).Fits := by
  simp [Fits, data, Operand.Fits]

/-- No line of a word has an address of more than three digits. -/
theorem fits_ofWord (w : Word) : (ofWord w).Fits := by
  rcases w.kind_cases with h | ⟨op, h⟩ | h
  · rw [ofWord_of_machineCode h]
    exact fits_system w
  · rw [ofWord_of_matches h]
    exact fits_line op w
  · rw [ofWord_of_unassigned h]
    exact fits_data w

end Assembly.Line

/-! ## No operation is data -/

theorem Operation.line_mnemonic_ne (op : Operation) (w : Word) : (op.line w).mnemonic ≠ .dw := by
  cases op with
  | skip test => cases test <;> exact Mnemonic.noConfusion
  | alu op => cases op <;> exact Mnemonic.noConfusion
  | _ => exact Mnemonic.noConfusion

/-- A line begins with its mnemonic. -/
theorem Assembly.Line.exists_text_eq (l : Line) : ∃ rest, l.text = l.mnemonic.text ++ rest := by
  rcases l with ⟨m, _ | ⟨a, as⟩⟩
  · exact ⟨"", String.append_empty.symm⟩
  · exact ⟨_, String.append_assoc⟩

/-- The first two letters of a mnemonic tell instructions from data. -/
theorem Assembly.Mnemonic.text_append_ne {m : Mnemonic} (h : m ≠ .dw) (rest rest' : String) :
    m.text ++ rest ≠ "DW" ++ rest' := by
  intro heq
  have hlist : m.text.toList ++ rest.toList = 'D' :: 'W' :: rest'.toList := by
    rw [← String.toList_append, heq, String.toList_append]
    rfl
  cases m with
  | dw => exact h rfl
  | _ => simp [text] at hlist

/-- **A word that runs is not listed as data.** -/
theorem disassemble_ne_data {op : Operation} {w : Word} (h : op.Matches w) (rest : String) :
    disassemble w ≠ "DW" ++ rest := by
  obtain ⟨operands, htext⟩ := (op.line w).exists_text_eq
  rw [disassemble, Line.ofWord_of_matches h, htext]
  exact Mnemonic.text_append_ne (op.line_mnemonic_ne w) operands rest

end ChipEight
