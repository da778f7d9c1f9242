import ChipEight.Text.Hex
import ChipEight.Word

/-! # Assembly lines

Every word can be written as a line of assembly: a mnemonic and its operands.
`Line.ofWord` reads the digits of the word one after the other, without asking which
operations the machine has; a word that is no instruction becomes a data line, `DW`.
`Line.text` is the only place that knows how a line is spelled.
-/
namespace ChipEight

namespace Assembly

/-- The mnemonics. -/
inductive Mnemonic where
  | cls | ret | sys | jp | call | se | sne | ld | add | or | and | xor | sub | shr | subn
  | shl | rnd | drw | skp | sknp | dw
  deriving DecidableEq, Repr

/-- The spelling of a mnemonic. -/
def Mnemonic.text : Mnemonic → String
  | cls => "CLS"
  | ret => "RET"
  | sys => "SYS"
  | jp => "JP"
  | call => "CALL"
  | se => "SE"
  | sne => "SNE"
  | ld => "LD"
  | add => "ADD"
  | or => "OR"
  | and => "AND"
  | xor => "XOR"
  | sub => "SUB"
  | shr => "SHR"
  | subn => "SUBN"
  | shl => "SHL"
  | rnd => "RND"
  | drw => "DRW"
  | skp => "SKP"
  | sknp => "SKNP"
  | dw => "DW"

/-- What an instruction works on. -/
inductive Operand where
  /-- A register. -/
  | register (r : Fin 16)
  /-- An immediate byte. -/
  | byte (b : UInt8)
  /-- An address. -/
  | address (a : UInt16)
  /-- A whole word. -/
  | word (w : Word)
  /-- A number of rows. -/
  | rows (n : Fin 16)
  /-- The index register. -/
  | index
  /-- The memory that the index register points at. -/
  | indirect
  /-- The delay timer. -/
  | delayTimer
  /-- The sound timer. -/
  | soundTimer
  /-- The next key. -/
  | key
  /-- The glyph of a digit. -/
  | glyph
  /-- The decimal digits. -/
  | decimal
  deriving DecidableEq, Repr

/-- The spelling of an operand. -/
def Operand.text : Operand → String
  | register r => "V" ++ Text.hex 1 r.val
  | byte b => "0x" ++ Text.hex 2 b.toNat
  | address a => "0x" ++ Text.hex 3 a.toNat
  | word w => "0x" ++ Text.hex 4 w.toNat
  | rows n => toString n.val
  | index => "I"
  | indirect => "[I]"
  | delayTimer => "DT"
  | soundTimer => "ST"
  | key => "K"
  | glyph => "F"
  | decimal => "B"

/-- A line of assembly. -/
structure Line where
  /-- What is done. -/
  mnemonic : Mnemonic
  /-- What it is done to. -/
  operands : List Operand
  deriving DecidableEq, Repr

namespace Line

/-- The spelling of a line: operands follow the mnemonic after a blank and are separated
by commas. -/
def text (l : Line) : String :=
  match l.operands with
  | [] => l.mnemonic.text
  | ops => l.mnemonic.text ++ " " ++ ", ".intercalate (ops.map Operand.text)

/-- A word that is no instruction, as data. -/
def data (w : Word) : Line := ⟨.dw, [.word w]⟩

/-- Lines for words of the `0NNN` family. -/
def ofSystem (w : Word) : Line :=
  match w.nnn.toNat with
  | 0x0E0 => ⟨.cls, []⟩
  | 0x0EE => ⟨.ret, []⟩
  | _ => ⟨.sys, [.address w.nnn]⟩

/-- Lines for words of the `8XYN` family, all on two registers. -/
def ofAlu (w : Word) : Line :=
  match w.n.val with
  | 0x0 => ⟨.ld, [.register w.x, .register w.y]⟩
  | 0x1 => ⟨.or, [.register w.x, .register w.y]⟩
  | 0x2 => ⟨.and, [.register w.x, .register w.y]⟩
  | 0x3 => ⟨.xor, [.register w.x, .register w.y]⟩
  | 0x4 => ⟨.add, [.register w.x, .register w.y]⟩
  | 0x5 => ⟨.sub, [.register w.x, .register w.y]⟩
  | 0x6 => ⟨.shr, [.register w.x, .register w.y]⟩
  | 0x7 => ⟨.subn, [.register w.x, .register w.y]⟩
  | 0xE => ⟨.shl, [.register w.x, .register w.y]⟩
  | _ => data w

/-- Lines for words of the `EXNN` family. -/
def ofKeySkip (w : Word) : Line :=
  match w.nn.toNat with
  | 0x9E => ⟨.skp, [.register w.x]⟩
  | 0xA1 => ⟨.sknp, [.register w.x]⟩
  | _ => data w

/-- Lines for words of the `FXNN` family. -/
def ofMisc (w : Word) : Line :=
  match w.nn.toNat with
  | 0x07 => ⟨.ld, [.register w.x, .delayTimer]⟩
  | 0x0A => ⟨.ld, [.register w.x, .key]⟩
  | 0x15 => ⟨.ld, [.delayTimer, .register w.x]⟩
  | 0x18 => ⟨.ld, [.soundTimer, .register w.x]⟩
  | 0x1E => ⟨.add, [.index, .register w.x]⟩
  | 0x29 => ⟨.ld, [.glyph, .register w.x]⟩
  | 0x33 => ⟨.ld, [.decimal, .register w.x]⟩
  | 0x55 => ⟨.ld, [.indirect, .register w.x]⟩
  | 0x65 => ⟨.ld, [.register w.x, .indirect]⟩
  | _ => data w

/-- The line for a word. -/
def ofWord (w : Word) : Line :=
  match w.opcode.val with
  | 0x0 => ofSystem w
  | 0x1 => ⟨.jp, [.address w.nnn]⟩
  | 0x2 => ⟨.call, [.address w.nnn]⟩
  | 0x3 => ⟨.se, [.register w.x, .byte w.nn]⟩
  | 0x4 => ⟨.sne, [.register w.x, .byte w.nn]⟩
  | 0x5 => if w.n = 0 then ⟨.se, [.register w.x, .register w.y]⟩ else data w
  | 0x6 => ⟨.ld, [.register w.x, .byte w.nn]⟩
  | 0x7 => ⟨.add, [.register w.x, .byte w.nn]⟩
  | 0x8 => ofAlu w
  | 0x9 => if w.n = 0 then ⟨.sne, [.register w.x, .register w.y]⟩ else data w
  | 0xA => ⟨.ld, [.index, .address w.nnn]⟩
  | 0xB => ⟨.jp, [.register 0, .address w.nnn]⟩
  | 0xC => ⟨.rnd, [.register w.x, .byte w.nn]⟩
  | 0xD => ⟨.drw, [.register w.x, .register w.y, .rows w.n]⟩
  | 0xE => ofKeySkip w
  | _ => ofMisc w

end Line

end Assembly

/-- The assembly line for a word, spelled out. -/
def disassemble (w : Word) : String := (Assembly.Line.ofWord w).text

example : disassemble 0xD125 = "DRW V1, V2, 5" := by decide
example : disassemble 0x5121 = "DW 0x5121" := by decide

end ChipEight
