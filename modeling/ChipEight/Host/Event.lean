import ChipEight.Keypad

/-! # Events

What a window tells the host: keys that go down or up, and the wish to quit.  The keypad
lies over the left side of a keyboard, in four rows of four.
-/
namespace ChipEight

namespace Host

/-- A key of the keyboard. -/
inductive Key where
  /-- The key that quits. -/
  | escape
  /-- The key that resets the machine. -/
  | f5
  /-- A key that types a character. -/
  | char (c : Char)
  /-- Any other key. -/
  | other
  deriving DecidableEq, Repr

/-- The key that pauses the machine and lets it go on. -/
def Key.pause : Key := .char 'p'

/-- The place of a key on the keypad, if it has one. -/
def Key.digit? : Key → Option (Fin 16)
  | .char '1' => some 0x1
  | .char '2' => some 0x2
  | .char '3' => some 0x3
  | .char '4' => some 0xC
  | .char 'q' => some 0x4
  | .char 'w' => some 0x5
  | .char 'e' => some 0x6
  | .char 'r' => some 0xD
  | .char 'a' => some 0x7
  | .char 's' => some 0x8
  | .char 'd' => some 0x9
  | .char 'f' => some 0xE
  | .char 'z' => some 0xA
  | .char 'x' => some 0x0
  | .char 'c' => some 0xB
  | .char 'v' => some 0xF
  | _ => none

/-- What a window tells. -/
inductive Event where
  /-- A key went down. -/
  | down (key : Key)
  /-- A key went up. -/
  | up (key : Key)
  /-- The window is to close. -/
  | quit
  /-- Something that does not matter here. -/
  | other
  deriving DecidableEq, Repr

end Host

end ChipEight
