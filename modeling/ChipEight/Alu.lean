/-! # Arithmetic and logic on bytes

The nine operations of the `8XYN` family as functions of two bytes.  Each gives a result
and, except for plain assignment, a flag; sums and differences wrap, and the flag tells
what wrapping lost.
-/
namespace ChipEight

namespace Alu

/-- The operations, on a first operand `a` (`VX`) and a second operand `b` (`VY`). -/
inductive Op where
  /-- The second operand itself. -/
  | assign
  /-- The bits of either. -/
  | or
  /-- The bits of both. -/
  | and
  /-- The bits of exactly one. -/
  | xor
  /-- The sum `a + b`; the flag is the carry. -/
  | add
  /-- The difference `a - b`; the flag is set unless it borrows. -/
  | subtract
  /-- Half of `a`; the flag is the bit lost. -/
  | shiftRight
  /-- The difference `b - a`; the flag is set unless it borrows. -/
  | subtractFrom
  /-- Twice `a`; the flag is the bit lost. -/
  | shiftLeft
  deriving DecidableEq, Repr

namespace Op

/-- Whether the operation combines bits; a dialect decides whether its flag is kept. -/
def isLogic : Op → Bool
  | or | and | xor => true
  | _ => false

/-- Whether the operation shifts; a dialect decides what it shifts. -/
def isShift : Op → Bool
  | shiftRight | shiftLeft => true
  | _ => false

/-- The flag byte of a truth value. -/
def flagByte (b : Bool) : UInt8 := if b then 1 else 0

/-- Result and flag of an operation.  The flag is `none` for assignment alone. -/
def apply (a b : UInt8) : Op → UInt8 × Option UInt8
  | assign => (b, none)
  | or => (a ||| b, some 0)
  | and => (a &&& b, some 0)
  | xor => (a ^^^ b, some 0)
  | add => (a + b, some (flagByte (256 ≤ a.toNat + b.toNat)))
  | subtract => (a - b, some (flagByte (b ≤ a)))
  | shiftRight => (a / 2, some (a % 2))
  | subtractFrom => (b - a, some (flagByte (a ≤ b)))
  | shiftLeft => (a + a, some (a / 128))

end Op

end Alu

end ChipEight
