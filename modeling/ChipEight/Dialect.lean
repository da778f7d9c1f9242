/-! # Dialects

Interpreters have disagreed for decades on what some instructions do.  A `Dialect`
fixes the four points on which this one can be told to follow either side.
-/
namespace ChipEight

/-- The points on which interpreters disagree. -/
structure Dialect where
  /-- Whether `8XY6` and `8XYE` shift `VY` into `VX`, not `VX` in place. -/
  shiftUsesVY : Bool := true
  /-- Whether `8XY1`, `8XY2` and `8XY3` leave zero in `VF`. -/
  logicResetsVF : Bool := true
  /-- Whether `FX55` and `FX65` leave the index register past the last byte they touched. -/
  memoryAdvancesIndex : Bool := true
  /-- Whether `BXNN` jumps relative to `VX`, not to `V0`. -/
  jumpUsesVX : Bool := false
  deriving DecidableEq, Repr

namespace Dialect

/-- The first interpreter, of the COSMAC VIP. -/
def classic : Dialect := {}

/-- What most interpreters since the CHIP-48 do. -/
def modern : Dialect where
  shiftUsesVY := false
  logicResetsVF := false
  memoryAdvancesIndex := false
  jumpUsesVX := true

end Dialect

end ChipEight
