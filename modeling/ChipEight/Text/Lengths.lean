/-! # Lengths

How messages show the lengths of nested rows: between parentheses, from the outermost in, and
with a comma after a single one.
-/
namespace ChipEight.Text

/-- The lengths between parentheses; a single one is followed by a comma. -/
def lengths : List Nat → String
  | [n] => "(" ++ toString n ++ ",)"
  | ns => "(" ++ ", ".intercalate (ns.map toString) ++ ")"

example : lengths [] = "()" ∧ lengths [15] = "(15,)" ∧ lengths [8, 2] = "(8, 2)" := by decide

end ChipEight.Text
