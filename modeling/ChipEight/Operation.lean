import ChipEight.Alu
import ChipEight.Fault
import ChipEight.Word

/-! # The operations and their words

Which operation a word stands for depends on its first digit and on at most two more.
`Word.selector` says which, `Word.key` blanks out all other digits, and an operation is
found by its key: `Operation.ofKey?_eq_some_iff` makes the search the inverse of
`Operation.key`.

A word that begins with 0 and has no operation is a **machine-code call**: it names an
address at which another word stands in its place.
-/
namespace ChipEight

/-- The conditions on which an instruction skips the next one. -/
inductive SkipTest where
  /-- Whether `VX` equals the immediate byte. -/
  | equalByte
  /-- Whether `VX` differs from the immediate byte. -/
  | unequalByte
  /-- Whether `VX` equals `VY`. -/
  | equalRegister
  /-- Whether `VX` differs from `VY`. -/
  | unequalRegister
  /-- Whether the key that `VX` names is down. -/
  | keyDown
  /-- Whether the key that `VX` names is up. -/
  | keyUp
  deriving DecidableEq, Repr

/-- The operations of the machine. -/
inductive Operation where
  /-- Clear the screen: `00E0`. -/
  | clearScreen
  /-- Return from a subroutine: `00EE`. -/
  | returnFromCall
  /-- Jump: `1NNN`. -/
  | jump
  /-- Call a subroutine: `2NNN`. -/
  | call
  /-- Skip the next instruction: `3XNN`, `4XNN`, `5XY0`, `9XY0`, `EX9E` and `EXA1`. -/
  | skip (test : SkipTest)
  /-- Put a byte into `VX`: `6XNN`. -/
  | setByte
  /-- Add a byte to `VX`: `7XNN`. -/
  | addByte
  /-- Combine `VX` with `VY`: `8XYN`. -/
  | alu (op : Alu.Op)
  /-- Put an address into the index register: `ANNN`. -/
  | setIndex
  /-- Jump relative to a register: `BNNN`. -/
  | jumpRelative
  /-- Put a random byte into `VX`: `CXNN`. -/
  | random
  /-- Draw a sprite: `DXYN`. -/
  | draw
  /-- Read the delay timer: `FX07`. -/
  | readDelay
  /-- Wait for a key: `FX0A`. -/
  | waitKey
  /-- Set the delay timer: `FX15`. -/
  | setDelay
  /-- Set the sound timer: `FX18`. -/
  | setSound
  /-- Add `VX` to the index register: `FX1E`. -/
  | addIndex
  /-- Point the index register at a digit's glyph: `FX29`. -/
  | pointGlyph
  /-- Store the decimal digits of `VX`: `FX33`. -/
  | storeDecimal
  /-- Store the registers up to `VX`: `FX55`. -/
  | storeRegisters
  /-- Load the registers up to `VX`: `FX65`. -/
  | loadRegisters
  deriving DecidableEq, Repr

/-! ## Keys -/

/-- Which digits of a word, besides the first, select its operation. -/
inductive Selector where
  /-- None: the first digit is enough. -/
  | firstDigit
  /-- The last digit. -/
  | lastDigit
  /-- The last two digits. -/
  | lastByte
  /-- All of them. -/
  | allDigits
  deriving DecidableEq, Repr

namespace Word

/-- The digits that matter for words with the same first digit. -/
def selector (w : Word) : Selector :=
  match w.opcode.val with
  | 0x0 => .allDigits
  | 0x5 | 0x8 | 0x9 => .lastDigit
  | 0xE | 0xF => .lastByte
  | _ => .firstDigit

/-- The word with every digit blanked out that does not matter. -/
def key (w : Word) : Nat :=
  match w.selector with
  | .firstDigit => 0x1000 * w.opcode.val
  | .lastDigit => 0x1000 * w.opcode.val + w.n.val
  | .lastByte => 0x1000 * w.opcode.val + w.nn.toNat
  | .allDigits => w.toNat

end Word

namespace Operation

/-- The key of a skip. -/
def skipKey : SkipTest → Nat
  | .equalByte => 0x3000
  | .unequalByte => 0x4000
  | .equalRegister => 0x5000
  | .unequalRegister => 0x9000
  | .keyDown => 0xE09E
  | .keyUp => 0xE0A1

/-- The key of an operation on two registers. -/
def aluKey : Alu.Op → Nat
  | .assign => 0x8000
  | .or => 0x8001
  | .and => 0x8002
  | .xor => 0x8003
  | .add => 0x8004
  | .subtract => 0x8005
  | .shiftRight => 0x8006
  | .subtractFrom => 0x8007
  | .shiftLeft => 0x800E

/-- The key of an operation: a word for it, with zeros for the digits that do not
matter. -/
def key : Operation → Nat
  | clearScreen => 0x00E0
  | returnFromCall => 0x00EE
  | jump => 0x1000
  | call => 0x2000
  | skip test => skipKey test
  | setByte => 0x6000
  | addByte => 0x7000
  | alu op => aluKey op
  | setIndex => 0xA000
  | jumpRelative => 0xB000
  | random => 0xC000
  | draw => 0xD000
  | readDelay => 0xF007
  | waitKey => 0xF00A
  | setDelay => 0xF015
  | setSound => 0xF018
  | addIndex => 0xF01E
  | pointGlyph => 0xF029
  | storeDecimal => 0xF033
  | storeRegisters => 0xF055
  | loadRegisters => 0xF065

/-- The operations, in ascending order of their keys. -/
def all : List Operation := [
  clearScreen, returnFromCall, jump, call,
  skip .equalByte, skip .unequalByte, skip .equalRegister, setByte, addByte,
  alu .assign, alu .or, alu .and, alu .xor, alu .add, alu .subtract, alu .shiftRight,
  alu .subtractFrom, alu .shiftLeft,
  skip .unequalRegister, setIndex, jumpRelative, random, draw,
  skip .keyDown, skip .keyUp,
  readDelay, waitKey, setDelay, setSound, addIndex, pointGlyph, storeDecimal,
  storeRegisters, loadRegisters]

/-- The operation with a given key. -/
def ofKey? (k : Nat) : Option Operation := all.find? fun op => op.key == k

theorem ofKey?_key (op : Operation) : ofKey? op.key = some op := by
  cases op with
  | skip test => cases test <;> rfl
  | alu a => cases a <;> rfl
  | _ => rfl

/-- An operation is found by its key and by no other number. -/
theorem ofKey?_eq_some_iff {k : Nat} {op : Operation} : ofKey? k = some op ↔ op.key = k := by
  constructor
  · intro h
    have := List.find?_some h
    simpa using this
  · rintro rfl
    exact ofKey?_key op

end Operation

/-! ## What a word stands for -/

/-- What a word stands for. -/
inductive Target where
  /-- An operation. -/
  | operation (op : Operation)
  /-- A machine-code call: the word at address `NNN` takes its place. -/
  | machineCode
  deriving DecidableEq, Repr

namespace Word

/-- What a word stands for, if anything. -/
def target? (w : Word) : Option Target :=
  match Operation.ofKey? w.key with
  | some op => some (.operation op)
  | none => if w.opcode = 0 then some .machineCode else none

/-- What a word stands for, or the fault that it stands for nothing. -/
def resolve (w : Word) : Except Fault Target :=
  match w.target? with
  | some t => .ok t
  | none => .error { cause := .invalidOpcode w.toNat .unassigned }

/-- A word that draws. -/
def isDraw (w : Word) : Bool := w.opcode == 0xD

/-- A word that waits for a key. -/
def isKeyWait (w : Word) : Bool := w.opcode == 0xF && w.nn == 0x0A

end Word

end ChipEight
