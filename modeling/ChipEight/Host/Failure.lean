import ChipEight.Fault
import ChipEight.Picture

/-! # What ends a run early

A run of the machine ends before its time if a frame goes astray, if there are more frames to run
than can be counted, or if the screen cannot be shown.  There is no exit status then.
-/
namespace ChipEight

namespace Host

/-- Why a run ends early. -/
inductive Failure where
  /-- There is no account of a frame, for this fault. -/
  | astray (f : Fault)
  /-- So many frames cannot be counted. -/
  | frames (frames : Int)
  /-- The screen cannot be shown. -/
  | picture (e : PictureError)
  deriving DecidableEq, Repr

/-- The sentence for why a run ends early. -/
def Failure.message : Failure → String
  | astray f => f.message
  | frames n => toString n ++ " frames are too many to count"
  | picture e => e.message

end Host

end ChipEight
