import ChipEight.CommandLine

/-! # The program

The outer layer: arguments, the file of the program image, and standard input and output.
There is no window to open here; the events of the turns come from standard input, a turn a
line, as words such as `down:q`, `up:q` and `quit`, and its end quits.
-/
namespace ChipEight

namespace Program

/-- The key a word names. -/
def readKey (word : String) : Host.Key :=
  match word.toList with
  | [c] => .char c
  | _ => if word == "ESCAPE" then .escape else if word == "F5" then .f5 else .other

/-- The event a word names. -/
def readEvent (word : String) : Host.Event :=
  match word.splitOn ":" with
  | ["down", key] => .down (readKey key)
  | ["up", key] => .up (readKey key)
  | ["quit"] => .quit
  | _ => .other

/-- The events of a turn. -/
def readTurn (line : String) : List Host.Event :=
  ((line.splitOn " ").filter fun word => word != "").map readEvent

/-- The turns up to the end of the input. -/
partial def readTurns (input : IO.FS.Stream) : IO (List (List Host.Event)) := do
  let line ← input.getLine
  if line.isEmpty then return []
  let line := if line.endsWith "\n" then String.ofList line.toList.dropLast else line
  let turns ← readTurns input
  return readTurn line :: turns

/-- The program image with a given path. -/
def readImage (path : String) : IO (Except FileError (List UInt8)) := do
  try
    let bytes ← IO.FS.readBinFile path
    return .ok bytes.toList
  catch e =>
    match e with
    | .inappropriateType .. => return .error (.isDirectory path)
    | .invalidArgument .. => return .error (.tooLong path)
    | _ => return .error (.missing path)

/-- Print the account of a run, and give its exit status. -/
def finish (report : CommandLine.Report) : IO Nat := do
  for text in report.printed do
    IO.println text
  (← IO.getStdout).flush
  return report.status

/-- Print why the program ends, and give the exit status for it. -/
def stop (reason : CommandLine.Stop) : IO Nat := do
  if reason.isHelp then IO.println reason.message else IO.eprintln reason.message
  return reason.status

/-- Run the program on its arguments, and give its exit status. -/
def run (arguments : List String) : IO Nat := do
  let terminal ← (← IO.getStdout).isTty
  match Options.parse .later arguments with
  | .error reason => stop (.usage reason)
  | .ok o =>
    let image ← readImage o.rom
    -- without a window nothing is read from standard input
    let script ← if o.headless.isSome then pure [] else readTurns (← IO.getStdin)
    match CommandLine.run { terminal := terminal } .counted o image script none with
    | .error reason => stop reason
    | .ok report => finish report

end Program

end ChipEight

/-- The program. -/
def main (arguments : List String) : IO UInt32 := do
  return UInt32.ofNat (← ChipEight.Program.run arguments)
