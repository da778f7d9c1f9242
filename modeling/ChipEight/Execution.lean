import ChipEight.Operation
import ChipEight.State

/-! # What the operations do

`Operation.run op w s` applies the operation `op`, with the digits of the word `w` as its
operands, to the state `s`, whose program counter has already passed the word.  An
operation checks everything it may fail on before it changes anything, and most cannot
fail at all: faults come from the call stack and from addresses taken out of the index
register.
-/
namespace ChipEight

namespace State

variable (s : State)

/-! ## Flow -/

/-- Jump to a subroutine and remember where to go on. -/
def callSubroutine (target : UInt16) : Except Fault State := do
  let stack ← s.stack.push s.pc.toNat
  return { s with stack := stack, pc := target }

/-- Go on after the newest call. -/
def returnFromCall : Except Fault State := do
  let (stack, address) ← s.stack.pop
  return { s with stack := stack, pc := address }

/-- The key that a register names by its low four bits. -/
def namedKey (r : Fin 16) : Bool :=
  let k : Fin 16 := ⟨(s.registers.get r).toNat % 16, Nat.mod_lt _ (by decide)⟩
  s.keypad.get k

/-- Whether a skip is taken. -/
def passes (w : Word) : SkipTest → Bool
  | .equalByte => s.registers.get w.x == w.nn
  | .unequalByte => s.registers.get w.x != w.nn
  | .equalRegister => s.registers.get w.x == s.registers.get w.y
  | .unequalRegister => s.registers.get w.x != s.registers.get w.y
  | .keyDown => s.namedKey w.x
  | .keyUp => !s.namedKey w.x

/-- Jump to the sum of an address and a register, within twelve bits. -/
def jumpRelative (w : Word) : State :=
  let r := if s.dialect.jumpUsesVX then w.x else 0
  s.jumpTo ((w.nnn + (s.registers.get r).toUInt16) % 4096)

/-! ## Registers -/

/-- Combine two registers.  The flag is written last, so that it is what stands in
`VF` even if the result went there too. -/
def combine (op : Alu.Op) (x y : Fin 16) : State :=
  let b := s.registers.get y
  let a := if op.isShift && s.dialect.shiftUsesVY then b else s.registers.get x
  let (result, flag) := op.apply a b
  let flag := if op.isLogic && !s.dialect.logicResetsVF then none else flag
  let s := s.setRegister x result
  -- last, for `x` may be the flag register itself
  match flag with
  | none => s
  | some f => s.setRegister flagRegister f

/-- Put a random byte, of which the bits in `bits` are kept, into a register. -/
def drawRandom (x : Fin 16) (bits : UInt8) : State :=
  { s.setRegister x (s.random.byte &&& bits) with random := s.random.next }

/-! ## The index register and memory -/

/-- Add a register to the index register, within twelve bits. -/
def addToIndex (x : Fin 16) : State :=
  { s with index := (s.index + (s.registers.get x).toUInt16) % 4096 }

/-- Point the index register at the glyph of the low digit of a register. -/
def pointAtGlyph (x : Fin 16) : State :=
  { s with index := UInt16.ofNat (fontStart + (s.registers.get x).toNat % 16 * glyphSize) }

/-- The index register after the registers up to `x` were stored or loaded. -/
def advancedIndex (x : Fin 16) : UInt16 :=
  if s.dialect.memoryAdvancesIndex then UInt16.ofNat ((s.index.toNat + x.val + 1) % 4096)
  else s.index

/-- Check that memory has the address in the index register and the one `span` further. -/
def checkSpan (span : Nat) : Except Fault Unit := do
  let _ ← checkAddress s.index.toNat
  let _ ← checkAddress (s.index.toNat + span)

/-- The decimal digits of a byte: hundreds, tens and units. -/
def decimalDigits (b : UInt8) : List UInt8 := [b / 100, b / 10 % 10, b % 10]

/-- Store the decimal digits of a register. -/
def storeDecimal (x : Fin 16) : Except Fault State := do
  s.checkSpan 2
  return { s with memory := s.memory.store s.index.toNat (decimalDigits (s.registers.get x)) }

/-- Store the registers up to `x`. -/
def storeRegisters (x : Fin 16) : Except Fault State := do
  s.checkSpan x.val
  return {
    s with
    memory := s.memory.store s.index.toNat (s.registers.toList.take (x.val + 1))
    index := s.advancedIndex x }

/-- Load the registers up to `x`. -/
def loadRegisters (x : Fin 16) : Except Fault State := do
  s.checkSpan x.val
  return {
    s with
    registers := Vector.ofFn fun r =>
      if r.val ≤ x.val then s.memory.byteAt (s.index.toNat + r.val) else s.registers.get r
    index := s.advancedIndex x }

/-! ## The screen and the keys -/

/-- Put pixels on the screen.  The flag tells whether a lit pixel was switched off. -/
def imprint (mask : Screen) : State :=
  { s.setRegister flagRegister (Alu.Op.flagByte (s.screen.overlaps mask)) with
    screen := s.screen.xor mask }

/-- Draw a sprite of up to `height` rows.  Its corner wraps onto the screen, but what
then sticks out is cut off; only the rows that are shown are read. -/
def drawSprite (x y height : Fin 16) : Except Fault State := do
  -- the corner is read before the flag is written: `x` or `y` may be the flag register
  let ox := (s.registers.get x).toNat % screenWidth
  let oy := (s.registers.get y).toNat % screenHeight
  let shown := min height.val (screenHeight - oy)
  -- a sprite without rows reads nothing, so the index register may point anywhere
  if 0 < shown then
    let _ ← checkAddress (s.index.toNat + shown - 1 : Nat)
  return s.imprint (Sprite.mask ox oy (s.memory.block s.index.toNat shown))

/-- Take the lowest key released since the frame before, which uses up the releases of
this frame; if there is none, step back so that the same instruction runs again. -/
def waitForKey (x : Fin 16) : State :=
  match Keypad.released? s.previousKeypad s.keypad with
  | none => { s with pc := s.pc - 2 }
  | some k => { s.setRegister x (UInt8.ofNat k.val) with previousKeypad := s.keypad }

end State

/-! ## All together -/

/-- The effect of an operation. -/
def Operation.run (op : Operation) (w : Word) (s : State) : Except Fault State :=
  match op with
  | .clearScreen => .ok { s with screen := .blank }
  | .returnFromCall => s.returnFromCall
  | .jump => .ok (s.jumpTo w.nnn)
  | .call => s.callSubroutine w.nnn
  | .skip test => .ok (s.skipNext (s.passes w test))
  | .setByte => .ok (s.setRegister w.x w.nn)
  | .addByte => .ok (s.setRegister w.x (s.registers.get w.x + w.nn))
  | .alu op => .ok (s.combine op w.x w.y)
  | .setIndex => .ok { s with index := w.nnn }
  | .jumpRelative => .ok (s.jumpRelative w)
  | .random => .ok (s.drawRandom w.x w.nn)
  | .draw => s.drawSprite w.x w.y w.n
  | .readDelay => .ok (s.setRegister w.x s.delayTimer)
  | .waitKey => .ok (s.waitForKey w.x)
  | .setDelay => .ok { s with delayTimer := s.registers.get w.x }
  | .setSound => .ok { s with soundTimer := s.registers.get w.x }
  | .addIndex => .ok (s.addToIndex w.x)
  | .pointGlyph => .ok (s.pointAtGlyph w.x)
  | .storeDecimal => s.storeDecimal w.x
  | .storeRegisters => s.storeRegisters w.x
  | .loadRegisters => s.loadRegisters w.x

/-! ## Checks first, then changes

What can fail is one check, and what it guards is one change of the state. -/

namespace State

section Changes
variable (s : State)

/-- The number of rows of a sprite that are shown: none of those below the screen. -/
def shownRows (y height : Fin 16) : Nat :=
  min height.val (screenHeight - (s.registers.get y).toNat % screenHeight)

/-- The state after a sprite was drawn. -/
def withSprite (x y height : Fin 16) : State :=
  s.imprint (Sprite.mask ((s.registers.get x).toNat % screenWidth)
    ((s.registers.get y).toNat % screenHeight)
    (s.memory.block s.index.toNat (s.shownRows y height)))

theorem callSubroutine_eq (target : UInt16) :
    s.callSubroutine target =
      (s.stack.push s.pc.toNat).map fun stack => { s with stack := stack, pc := target } := by
  rw [callSubroutine]
  cases s.stack.push s.pc.toNat <;> rfl

theorem returnFromCall_eq :
    s.returnFromCall =
      s.stack.pop.map fun popped => { s with stack := popped.1, pc := popped.2 } := by
  rw [returnFromCall]
  cases s.stack.pop <;> rfl

theorem storeDecimal_eq (x : Fin 16) :
    s.storeDecimal x = (s.checkSpan 2).map fun _ =>
      { s with memory := s.memory.store s.index.toNat (decimalDigits (s.registers.get x)) } := by
  rw [storeDecimal]
  cases s.checkSpan 2 <;> rfl

theorem storeRegisters_eq (x : Fin 16) :
    s.storeRegisters x = (s.checkSpan x.val).map fun _ => {
      s with
      memory := s.memory.store s.index.toNat (s.registers.toList.take (x.val + 1))
      index := s.advancedIndex x } := by
  rw [storeRegisters]
  cases s.checkSpan x.val <;> rfl

theorem loadRegisters_eq (x : Fin 16) :
    s.loadRegisters x = (s.checkSpan x.val).map fun _ => {
      s with
      registers := Vector.ofFn fun r =>
        if r.val ≤ x.val then s.memory.byteAt (s.index.toNat + r.val) else s.registers.get r
      index := s.advancedIndex x } := by
  rw [loadRegisters]
  cases s.checkSpan x.val <;> rfl

variable {s}

theorem drawSprite_of_zero {x y height : Fin 16} (h : s.shownRows y height = 0) :
    s.drawSprite x y height = .ok (s.withSprite x y height) := by
  have hnone : ¬0 < min height.val (screenHeight - (s.registers.get y).toNat % screenHeight) :=
    Nat.not_lt.mpr (Nat.le_of_eq h)
  unfold drawSprite
  simp only [if_neg hnone]
  rfl

theorem drawSprite_of_pos {x y height : Fin 16} (h : 0 < s.shownRows y height) :
    s.drawSprite x y height =
      (checkAddress (s.index.toNat + s.shownRows y height - 1 : Nat)).map fun _ =>
        s.withSprite x y height := by
  have hsome : 0 < min height.val (screenHeight - (s.registers.get y).toNat % screenHeight) := h
  unfold drawSprite
  simp only [if_pos hsome]
  rw [show min height.val _ = s.shownRows y height from rfl]
  cases checkAddress (s.index.toNat + s.shownRows y height - 1 : Nat) <;> rfl

theorem drawSprite_eq_ok {s' : State} {x y height : Fin 16}
    (h : s.drawSprite x y height = .ok s') : s' = s.withSprite x y height := by
  rcases Nat.eq_zero_or_pos (s.shownRows y height) with hz | hp
  · rw [drawSprite_of_zero hz] at h
    exact (Except.ok.inj h).symm
  · rw [drawSprite_of_pos hp] at h
    obtain ⟨_, -, rfl⟩ := Fault.map_eq_ok_iff.mp h
    rfl

theorem shownRows_pos_iff {y height : Fin 16} : 0 < s.shownRows y height ↔ 0 < height.val := by
  have hrow : (s.registers.get y).toNat % screenHeight < screenHeight := Nat.mod_lt _ (by decide)
  rw [shownRows]
  omega

/-- A sprite is refused by the last byte of its rows that are shown. -/
theorem drawSprite_eq_error_iff {f : Fault} {x y height : Fin 16} :
    s.drawSprite x y height = .error f ↔
      (0 < height.val ∧ 0xFFF < s.index.toNat + s.shownRows y height - 1) ∧
        f = { cause := .outOfBoundsAddress (s.index.toNat + s.shownRows y height - 1 : Nat) } := by
  rcases Nat.eq_zero_or_pos (s.shownRows y height) with hz | hp
  · have hheight : ¬0 < height.val := fun h => by
      have hpos := (shownRows_pos_iff (s := s) (y := y)).mpr h
      omega
    rw [drawSprite_of_zero hz]
    simp only [reduceCtorEq, hheight, false_and]
  · have hheight : 0 < height.val := shownRows_pos_iff.mp hp
    rw [drawSprite_of_pos hp, Fault.map_eq_error_iff]
    rcases Nat.lt_or_ge (s.index.toNat + s.shownRows y height - 1) 4096 with hlt | hge
    · have hin : ¬0xFFF < s.index.toNat + s.shownRows y height - 1 := by omega
      rw [checkAddress_of_lt hlt]
      simp only [reduceCtorEq, hin, false_and, and_false]
    · have hout : 0xFFF < s.index.toNat + s.shownRows y height - 1 := by omega
      rw [checkAddress_of_le hge]
      simp only [Except.error.injEq, hheight, hout, true_and, eq_comm]

end Changes

section Spans
variable {s : State} {span : Nat}

theorem checkSpan_of_lt (h : s.index.toNat + span < 4096) : s.checkSpan span = .ok () := by
  have hlast : checkAddress ((s.index.toNat : Int) + span) = .ok ⟨_, h⟩ := checkAddress_of_lt h
  rw [checkSpan, checkAddress_of_lt (show s.index.toNat < 4096 by omega), hlast]
  rfl

theorem checkSpan_of_le (h : 4096 ≤ s.index.toNat + span) :
    s.checkSpan span = .error (Fault.mk (.outOfBoundsAddress
      (if s.index.toNat < 4096 then s.index.toNat + span else s.index.toNat : Nat)) none) := by
  by_cases hi : s.index.toNat < 4096
  · have hlast : checkAddress ((s.index.toNat : Int) + span) = _ := checkAddress_of_le h
    rw [checkSpan, checkAddress_of_lt hi, hlast, if_pos hi]
    rfl
  · rw [checkSpan, checkAddress_of_le (Nat.le_of_not_lt hi), if_neg hi]
    rfl

/-- A span is refused by the first of its two ends that memory does not have. -/
theorem checkSpan_eq_error_iff {f : Fault} :
    s.checkSpan span = .error f ↔
      0xFFF < s.index.toNat + span ∧
        f = Fault.mk (.outOfBoundsAddress
          (if s.index.toNat < 4096 then s.index.toNat + span else s.index.toNat : Nat)) none := by
  rcases Nat.lt_or_ge (s.index.toNat + span) 4096 with hlt | hge
  · have hin : ¬0xFFF < s.index.toNat + span := by omega
    rw [checkSpan_of_lt hlt]
    simp only [reduceCtorEq, hin, false_and]
  · have hout : 0xFFF < s.index.toNat + span := by omega
    rw [checkSpan_of_le hge]
    simp only [Except.error.injEq, hout, true_and, eq_comm]

end Spans

end State

end ChipEight
