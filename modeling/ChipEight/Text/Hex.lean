/-! # Numbers in base sixteen

Everything this library prints about words, addresses and registers is upper-case
hexadecimal, padded with zeros to a width.  `hex width v` is that text for any
integer: a minus sign counts in the width, and the digits of the magnitude follow
it, so `hex 4 (-1)` is `-001`.
-/
namespace ChipEight.Text

/-- The digits of `n` in base sixteen, upper case, most significant first; zero is
one digit. -/
def hexDigits (n : Nat) : List Char := (Nat.toDigits 16 n).map Char.toUpper

/-- Upper-case hexadecimal in at least `width` characters.  Zeros stand between
the sign and the digits; a number that needs more characters than `width` takes
them. -/
def hex (width : Nat) (v : Int) : String :=
  let sign := if v < 0 then ['-'] else []
  let digits := hexDigits v.natAbs
  String.ofList (sign ++ List.replicate (width - sign.length - digits.length) '0' ++ digits)

example : hex 4 0xABC = "0ABC" := by decide
example : hex 4 (-1) = "-001" := by decide
example : hex 1 16 = "10" := by decide
example : hex 2 (-255) = "-FF" := by decide

end ChipEight.Text
