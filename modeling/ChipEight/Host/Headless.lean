import ChipEight.Host.Failure
import ChipEight.Machine

/-! # The machine without a window

A number of frames, as fast as they go and without keys, and then perhaps the screen as
text.  A machine that halts ends the run early; nothing would change if it went on, since a
halted machine does not move.  A frame that goes astray ends it as well, and then nothing is shown.
-/
namespace ChipEight

namespace Host

/-- The account of a run without a window. -/
structure Headless where
  /-- The machine afterwards. -/
  machine : Machine
  /-- What was printed, in order. -/
  printed : List String
  /-- The exit status: 1 if the machine ended halted and 0 otherwise, or what ended the run
  early. -/
  status : Except Failure Nat

/-- Run frames until there are no more to run, the machine is halted, or one goes astray.  The
fault is that of the last case. -/
def runFrames (console : Console) : (frames : Nat) → Machine → Machine × Option Fault × List String
  | 0, m => (m, none, [])
  | frames + 1, m =>
    let (m, answer, lines) := m.advance console none
    match Frame.stray? answer with
    | some f => (m, some f, lines)
    | none =>
      if m.halted then (m, none, lines)
      else
        let (m, stray?, more) := runFrames console frames m
        (m, stray?, lines ++ more)

/-- Run a number of frames; below zero is none.  Frames are counted in 64 bits, the
sign included. -/
def runHeadless (console : Console) (m : Machine) (frames : Int) (showScreen : Bool) : Headless :=
  if 9223372036854775808 ≤ frames then ⟨m, [], .error (.frames frames)⟩
  else
    let (m, stray?, lines) := runFrames console frames.toNat m
    match stray? with
    | some f => ⟨m, lines, .error (.astray f)⟩
    | none =>
      let screen := if showScreen then [m.state.screen.toText litCell unlitCell] else []
      match m.error with
      | some f =>
        let halted := Logger.host.print console .error ("Machine halted: " ++ f.message)
        ⟨m, lines ++ screen ++ halted, .ok 1⟩
      | none => ⟨m, lines ++ screen, .ok 0⟩

end Host

end ChipEight
