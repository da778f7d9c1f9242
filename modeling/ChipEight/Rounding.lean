/-! # Rounding

Rounding takes the nearest of the numbers allowed, and of two equally near the even one.
`roundDiv` does it for a quotient, where the integers are allowed, and `roundToBits` for an
integer, where those are allowed that a few significant bits can hold.  `roundDivInBits` is a
quotient that is held in so many bits before it becomes an integer.
-/
namespace ChipEight

/-- The quotient of an integer and a positive number, rounded to the nearest integer, and
of two equally near to the even one. -/
def roundDiv (a : Int) (b : Nat) : Int :=
  let q := a.fdiv b
  -- the remainder of rounding down is never negative, so it tells how near `q` is
  let r := a.fmod b
  if 2 * r < b then q
  else if (b : Int) < 2 * r then q + 1
  else if q % 2 = 0 then q else q + 1

/-- An integer rounded to so many significant bits. -/
def roundToBits (bits : Nat) (n : Int) : Int :=
  let step := Nat.pow 2 (n.natAbs.log2 + 1 - bits)
  roundDiv n step * step

/-- A quotient that is rounded to so many significant bits, and then to an integer. -/
def roundDivInBits (bits : Nat) (a : Int) (b : Nat) : Int :=
  let size := (a.natAbs / b).log2 + 1
  -- the bits after the point, or else the places before it that are left empty
  let fraction : Nat := Nat.pow 2 (bits - size)
  let step : Nat := Nat.pow 2 (size - bits)
  roundDiv (roundDiv (a * fraction) (b * step)) fraction * step

example : roundDiv 5 2 = 2 ∧ roundDiv 7 2 = 4 ∧ roundDiv (-5) 2 = -2 := by decide
example : roundToBits 2 13 = 12 ∧ roundToBits 2 (-14) = -16 ∧ roundToBits 2 0 = 0 := by decide
example : roundDivInBits 3 28 8 = 4 ∧ roundDivInBits 3 43 8 = 5 ∧ roundDivInBits 3 107 4 = 28 := by
  decide

end ChipEight
