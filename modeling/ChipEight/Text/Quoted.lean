import ChipEight.Text.Hex
import ChipEight.Text.Printable

/-! # Quoted text

How messages show a text they were given: between quotes, with everything that would
not print written as an escape.
-/
namespace ChipEight.Text

/-- Single quotes, unless the text holds a single quote and no double one. -/
def quoteMark (cs : List Char) : Char :=
  if cs.contains '\'' && !cs.contains '"' then '"' else '\''

/-- The number `n` in lower-case hexadecimal, padded with zeros to `width`. -/
def lowerHex (width n : Nat) : List Char :=
  let digits := Nat.toDigits 16 n
  List.replicate (width - digits.length) '0' ++ digits

/-- One character between the quote marks `mark`: the mark and the backslash get a
backslash, the three common controls their letter, and every other character that is
not printable its code point in the shortest of three forms. -/
def escape (mark c : Char) : List Char :=
  if c == mark || c == '\\' then ['\\', c]
  else if c == '\t' then ['\\', 't']
  else if c == '\n' then ['\\', 'n']
  else if c == '\r' then ['\\', 'r']
  else if isPrintable c then [c]
  else if c.toNat < 0x100 then '\\' :: 'x' :: lowerHex 2 c.toNat
  else if c.toNat < 0x10000 then '\\' :: 'u' :: lowerHex 4 c.toNat
  else '\\' :: 'U' :: lowerHex 8 c.toNat

/-- A text between quotes, such that it reads on one line. -/
def quote (s : String) : String :=
  let cs := s.toList
  let mark := quoteMark cs
  String.ofList (mark :: cs.flatMap (escape mark) ++ [mark])

example : quote "it's" = "\"it's\"" := by decide
example : quote "a\n\x01" = "'a\\n\\x01'" := by decide

end ChipEight.Text
