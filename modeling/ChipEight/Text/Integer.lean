/-! # Reading integers

`readInteger` reads a whole decimal number from a text a person typed: blanks around
it are dropped, a sign may stand in front, single underscores may separate digits, and
the digits of every script count.  A text with more than 4300 digits is refused, so
that reading stays cheap.
-/
namespace ChipEight.Text

/-- The code points of the digit zero in every script that has decimal digits; the
other nine digits of a script follow its zero. -/
def zeroDigits : List Nat := [
  0x30, 0x660, 0x6F0, 0x7C0, 0x966, 0x9E6, 0xA66, 0xAE6, 0xB66, 0xBE6, 0xC66, 0xCE6, 0xD66, 0xDE6,
  0xE50, 0xED0, 0xF20, 0x1040, 0x1090, 0x17E0, 0x1810, 0x1946, 0x19D0, 0x1A80, 0x1A90, 0x1B50,
  0x1BB0, 0x1C40, 0x1C50, 0xA620, 0xA8D0, 0xA900, 0xA9D0, 0xA9F0, 0xAA50, 0xABF0, 0xFF10, 0x104A0,
  0x10D30, 0x11066, 0x110F0, 0x11136, 0x111D0, 0x112F0, 0x11450, 0x114D0, 0x11650, 0x116C0,
  0x11730, 0x118E0, 0x11950, 0x11C50, 0x11D50, 0x11DA0, 0x16A60, 0x16AC0, 0x16B50, 0x1D7CE,
  0x1D7D8, 0x1D7E2, 0x1D7EC, 0x1D7F6, 0x1E140, 0x1E2F0, 0x1E950, 0x1FBF0]

/-- The value of a decimal digit of any script. -/
def digitValue? (c : Char) : Option Nat :=
  (zeroDigits.find? fun first => first ≤ c.toNat && c.toNat < first + 10).map (c.toNat - ·)

/-- The blanks that may surround a number: those of ASCII that move the print position,
and the spaces and line separators of Unicode. -/
def isBlank (c : Char) : Bool :=
  c == ' ' || (9 ≤ c.toNat && c.toNat ≤ 13) || c.toNat == 0x85 || c.toNat == 0xA0 ||
    c.toNat == 0x1680 || (0x2000 ≤ c.toNat && c.toNat ≤ 0x200A) || c.toNat == 0x2028 ||
    c.toNat == 0x2029 || c.toNat == 0x202F || c.toNat == 0x205F || c.toNat == 0x3000

/-- Drop the blanks at both ends. -/
def strip (cs : List Char) : List Char :=
  ((cs.dropWhile isBlank).reverse.dropWhile isBlank).reverse

/-- The most digits a number may have. -/
def maxDigits : Nat := 4300

/-- The values of a run of digits in which single underscores may stand between two
digits; `none` for a run that is empty, holds another character, or has an underscore
at an end or beside another. -/
def digits? : List Char → Option (List Nat)
  | [] => none
  | [c] => (digitValue? c).map ([·])
  | c :: '_' :: rest => do
    let d ← digitValue? c
    let ds ← digits? rest
    return d :: ds
  | c :: rest => do
    let d ← digitValue? c
    let ds ← digits? rest
    return d :: ds

/-- The number that decimal digits write, most significant first. -/
def ofDigits (ds : List Nat) : Nat := ds.foldl (fun n d => 10 * n + d) 0

/-- A natural number without sign or blanks. -/
def readNatural (cs : List Char) : Option Nat := do
  let ds ← digits? cs
  if ds.length ≤ maxDigits then some (ofDigits ds) else none

/-- The integer a text writes, or `none` if it writes none. -/
def readInteger (s : String) : Option Int :=
  match strip s.toList with
  | '+' :: cs => (readNatural cs).map Int.ofNat
  | '-' :: cs => (readNatural cs).map fun n => -(n : Int)
  | cs => (readNatural cs).map Int.ofNat

example : readInteger " -1_000 " = some (-1000) := by decide
example : readInteger "1__0" = none ∧ readInteger "+ 5" = none ∧ readInteger "" = none := by decide
example : readInteger "１２" = some 12 := by decide

end ChipEight.Text
