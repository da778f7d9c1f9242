import ChipEight.Assembly
import ChipEight.Frame
import ChipEight.Rounding

/-! # Log lines

A `Logger` prints messages of a certain importance or more, each under a heading: how much
time has passed since the logger started, the level, and the logger's name.  A `Trace` is
a logger that follows a running machine and counts what it was told, printed or not.

Printing is a value here: whatever would be printed is returned as a list of texts, and a
`Console` says when and where it is to appear.  `State.followFrame` prints while a frame runs,
and `followFrame_eq` reads the same lines off the account of the frame.
-/
namespace ChipEight

/-! ## Levels -/

/-- The importance of a message. -/
inductive Level where
  | debug | info | warning | error | critical
  deriving DecidableEq, Repr

namespace Level

/-- The spelling of a level. -/
def label : Level → String
  | debug => "DEBUG"
  | info => "INFO"
  | warning => "WARNING"
  | error => "ERROR"
  | critical => "CRITICAL"

/-- The rank of a level, ascending with its importance. -/
def rank : Level → Nat
  | debug => 0
  | info => 1
  | warning => 2
  | error => 3
  | critical => 4

/-- The escape sequence that colors a level on a terminal. -/
def color : Level → String
  | debug => "\x1b[36m"
  | info => "\x1b[32m"
  | warning => "\x1b[33m"
  | error => "\x1b[31m"
  | critical => "\x1b[35m"

/-- Words are spelled without regard to case.  The dotless `ı` has `I` as its capital too,
and the long `ſ` has `S`. -/
def capital (c : Char) : Char :=
  if c == 'ı' then 'I' else if c == 'ſ' then 'S' else c.toUpper

/-- Whether a text spells a word given in capitals. -/
def spells (text word : String) : Bool := text.toList.map capital == word.toList

/-- The level that a text spells, if any. -/
def ofText? (text : String) : Option Level :=
  [debug, info, warning, error, critical].find? fun l => spells text l.label

/-- The escape sequence that goes back to the colors of the terminal. -/
def plain : String := "\x1b[0m"

/-- The escape sequence for any text in the place of a level: the color of the level that
it spells, and `plain` for the word that asks for it. -/
def colorOfText (text : String) : String :=
  match ofText? text with
  | some l => l.color
  | none => if spells text "RESET" then plain else ""

/-- The level a text stands for; a text that spells none stands for `info`. -/
def ofText (text : String) : Level := (ofText? text).getD .info

end Level

/-! ## Times

A time is a number of eighths of a second.  It has a limited number of significant bits, and
it is less than a bound.
-/

/-- The number of significant bits of a time. -/
def timeBits : Nat := 53

/-- What every time is less than. -/
def timeBound : Nat := 8 * Nat.pow 2 1024

/-- A reading of a clock, if it is a time when rounded to the bits that one has. -/
def clockReading? (eighths : Int) : Option Int :=
  if (roundToBits timeBits eighths).natAbs < timeBound then some eighths else none

/-! ## Loggers -/

/-- When and where lines appear. -/
structure Console where
  /-- The time, in eighths of a second. -/
  now : Int := 0
  /-- Whether lines go to a terminal, which shows colors. -/
  terminal : Bool := false
  deriving DecidableEq, Repr

/-- A logger. -/
structure Logger where
  /-- The name in the heading. -/
  name : String := "chip8core"
  /-- The least important level that is printed. -/
  threshold : Level := .info
  /-- Whether levels are colored on a terminal. -/
  colors : Bool := true
  /-- Whether the heading begins with the time passed. -/
  stamps : Bool := true
  /-- When the logger started, in eighths of a second. -/
  started : Int := 0
  deriving DecidableEq, Repr

namespace Logger

/-- The text with blanks put before it, up to a width. -/
def padLeft (width : Nat) (s : String) : String :=
  String.ofList (List.replicate (width - s.length) ' ') ++ s

/-- A number of hundredths, with two decimals. -/
def hundredths (n : Nat) : String :=
  toString (n / 100) ++ "." ++ toString (n / 10 % 10) ++ toString (n % 10)

/-- Eighths of a second as seconds with two decimals.  The nearest hundredth is taken, and of
two equally near the even one.  What is no time any more is endless. -/
def seconds (eighths : Int) : String :=
  -- the sign is put back at the end, so that rounding does not depend on it
  (if eighths < 0 then "-" else "") ++
    (if timeBound ≤ eighths.natAbs then "inf"
    else hundredths (roundDiv (25 * eighths.natAbs) 2).toNat)


/-- The time passed between two readings of the clock.  The readings and the difference are
rounded to the bits that a time has, so that at a far time short intervals vanish. -/
def elapsed (started now : Int) : Int :=
  roundToBits timeBits (roundToBits timeBits now - roundToBits timeBits started)

/-- The part of the heading that tells the time. -/
def stamp (l : Logger) (now : Int) : String :=
  if l.stamps then "[" ++ padLeft 8 (seconds (elapsed l.started now)) ++ "s]" else ""

/-- The part of the heading that names the level, as it was given.  On a terminal it stands
between the sequence for its color and the one that goes back to plain text. -/
def levelMark (l : Logger) (terminal : Bool) (level : String) : String :=
  let mark := "[" ++ padLeft 8 level ++ "]"
  if l.colors && terminal then
    Level.colorOfText level ++ mark ++ Level.plain
  else mark

/-- What is printed for a message, at a level named by any text: one text, or none if
the level is below the threshold. -/
def log (l : Logger) (console : Console) (level message : String) : List String :=
  if l.threshold.rank ≤ (Level.ofText level).rank then
    [l.stamp console.now ++ l.levelMark console.terminal level ++ "[" ++ l.name ++ "] " ++ message]
  else []

/-- What is printed for a message at a known level. -/
def print (l : Logger) (console : Console) (level : Level) (message : String) : List String :=
  l.log console level.label message

/-- Change the least important level that is printed. -/
def setLevel (l : Logger) (level : String) : Logger := { l with threshold := Level.ofText level }

/-- The logger that reports faults of a machine nobody follows. -/
def machine : Logger := { threshold := .warning }

/-- The logger of the host that a machine runs on. -/
def host : Logger := { name := "host" }

example : seconds 1 = "0.12" ∧ seconds 3 = "0.38" ∧ seconds (-12) = "-1.50" := by decide +kernel
example : elapsed 1 9 = 8 ∧ elapsed (2 ^ 56) (2 ^ 56 + 8) = 0 := by decide

end Logger

/-- The lines of printed texts. -/
def linesOf (texts : List String) : List String := texts.flatMap (·.splitOn "\n")

/-! ## Traces -/

/-- A logger that follows a machine. -/
structure Trace where
  /-- Where messages go. -/
  logger : Logger := { name := "CHIP8", threshold := .debug }
  /-- How many instructions it was told of. -/
  instructions : Nat := 0
  /-- How many frames it was told of. -/
  frames : Nat := 0
  deriving DecidableEq, Repr

namespace Trace

variable (t : Trace) (console : Console)

/-- The line for an instruction: address, word, and the word as assembly. -/
def instructionText (pc : Int) (w : Word) : String :=
  "0x" ++ Text.hex 3 pc ++ "  " ++ Text.hex 4 w.toNat ++ "  " ++ disassemble w

/-- Follow one instruction. -/
def instruction (pc : Int) (w : Word) : Trace × List String :=
  ({ t with instructions := t.instructions + 1 },
    t.logger.print console .debug (instructionText pc w))

/-- What ended a frame, in words. -/
def endingText (drew waiting : Bool) : String :=
  if drew then "draw" else if waiting then "key wait" else "budget"

/-- Follow the end of a frame. -/
def frame (executed : Int) (drew waiting : Bool) : Trace × List String :=
  let t' := { t with frames := t.frames + 1 }
  (t', t.logger.print console .debug
    ("Frame " ++ toString t'.frames ++ ": " ++ toString executed ++ " instructions, ended on "
      ++ endingText drew waiting))

/-- Report a fault. -/
def fault (f : Fault) : List String := t.logger.print console .error f.report

/-- The two lines that show the registers of a state. -/
def registerTexts (s : State) : List String := [
  " ".intercalate ((List.finRange 16).map fun r =>
    "V" ++ Text.hex 1 r.val ++ "=" ++ Text.hex 2 (s.registers.get r).toNat),
  "I=0x" ++ Text.hex 3 s.index.toNat ++ " PC=0x" ++ Text.hex 3 s.pc.toNat
    ++ " DT=" ++ toString s.delayTimer.toNat ++ " ST=" ++ toString s.soundTimer.toNat
    ++ " SP=" ++ toString s.stack.pointer]

/-- Show the registers of a state. -/
def registers (s : State) : List String :=
  (registerTexts s).flatMap (t.logger.print console .info)

/-- Follow a list of instructions, one after the other. -/
def instructionsOf (t : Trace) (console : Console) : List Executed → Trace × List String
  | [] => (t, [])
  | e :: es =>
    let (t, line) := t.instruction console e.pc.toNat e.word
    let (t, lines) := t.instructionsOf console es
    (t, line ++ lines)

theorem instructionsOf_fst (executed : List Executed) :
    (t.instructionsOf console executed).1 =
      { t with instructions := t.instructions + executed.length } := by
  induction executed generalizing t with
  | nil => rfl
  | cons e es ih =>
    have hrest := ih (t.instruction console e.pc.toNat e.word).1
    refine hrest.trans ?_
    show ({ t with instructions := t.instructions + 1 + es.length } : Trace) = _
    rw [List.length_cons, Nat.add_assoc, Nat.add_comm 1]

end Trace

/-- What has been printed when a frame is over, read off its account: a line for every
instruction if a trace follows the machine, and a report of the fault that ended the frame, if
the program brought one about. -/
def Frame.log (f : Frame) (console : Console) : Option Trace → Option Trace × List String
  | none => (none, (f.ending.programFault?.map fun fault =>
      Logger.machine.print console .error fault.report).getD [])
  | some t =>
    let (t, lines) := t.instructionsOf console f.executed
    (some t, lines ++ (f.ending.programFault?.map (t.fault console)).getD [])

/-! ## Frames that are followed -/

namespace Trace

variable (console : Console)

/-- Tell a trace, if one follows the machine, of an instruction that has run. -/
def tell (e : Executed) : Option Trace → Option Trace × List String
  | none => (none, [])
  | some t =>
    let (t, line) := t.instruction console e.pc.toNat e.word
    (some t, line)

/-- Report a fault to the trace, or else to the logger of machines nobody follows; one that the
program did not bring about is left to the host. -/
def report (f : Fault) (trace : Option Trace) : List String :=
  if f.cause.isOfProgram then
    match trace with
    | none => Logger.machine.print console .error f.report
    | some t => t.fault console f
  else []

end Trace

namespace State

/-- Run instructions as `runSteps` does, and print line by line as they run. -/
def followSteps (console : Console) :
    (budget : Nat) → Option Trace → State → Frame × Option Trace × List String
  | 0, trace, s => (⟨s, [], .budget⟩, trace, [])
  | budget + 1, trace, s =>
    match s.step with
    | .error f => (⟨s, [], .fault f⟩, trace, Trace.report console f trace)
    | .ok (s', w) =>
      -- an instruction that ends the frame is told of as well
      let (trace, line) := Trace.tell console ⟨s.pc, w⟩ trace
      match s.endingAfter s' w with
      | some ending => (⟨s', [⟨s.pc, w⟩], ending⟩, trace, line)
      | none =>
        let (frame, trace, lines) := followSteps console budget trace s'
        (frame.after ⟨s.pc, w⟩, trace, line ++ lines)

/-- Run a frame, with the account of it, the trace afterwards and what was printed. -/
def followFrame (s : State) (console : Console) (trace : Option Trace) (keys : Option Keypad)
    (budget : Int) : Frame × Option Trace × List String :=
  (s.beginFrame keys).followSteps console budget.toNat trace

end State

namespace Frame

variable (console : Console) (trace : Option Trace)

theorem log_fault (s : State) (f : Fault) :
    Frame.log ⟨s, [], .fault f⟩ console trace = (trace, Trace.report console f trace) := by
  have hfault : Ending.programFault? (.fault f) = if f.cause.isOfProgram then some f else none :=
    Option.filter_some
  cases trace with
  | none =>
    simp only [log, hfault, Trace.report]
    split <;> rfl
  | some t =>
    simp only [log, Trace.instructionsOf, hfault, Trace.report]
    split <;> rfl

theorem log_single (s : State) (e : Executed) {ending : Ending} (h : ending.programFault? = none) :
    Frame.log ⟨s, [e], ending⟩ console trace = Trace.tell console e trace := by
  cases trace with
  | none => simp only [log, h, Trace.tell, Option.map_none, Option.getD_none]
  | some t =>
    simp only [log, h, Trace.instructionsOf, Trace.tell, Option.map_none, Option.getD_none,
      List.append_nil]

theorem log_after (e : Executed) (f : Frame) :
    (f.after e).log console trace =
      (let (trace, line) := Trace.tell console e trace
      let (trace, lines) := f.log console trace
      (trace, line ++ lines)) := by
  cases trace with
  | none => rfl
  | some t => simp only [log, after, Trace.instructionsOf, Trace.tell, List.append_assoc]

end Frame

namespace State

variable (console : Console)

theorem programFault?_of_endingAfter {s s' : State} {w : Word} {ending : Ending}
    (h : s.endingAfter s' w = some ending) : ending.programFault? = none := by
  unfold endingAfter at h
  split at h
  · rw [← Option.some.inj h]
    rfl
  · split at h
    · rw [← Option.some.inj h]
      rfl
    · cases h

/-- **What is printed on the way is what the account tells**, and following a frame has no part in
what it does. -/
theorem followSteps_eq (budget : Nat) (trace : Option Trace) (s : State) :
    s.followSteps console budget trace =
      (s.runSteps budget, (s.runSteps budget).log console trace) := by
  induction budget generalizing trace s with
  | zero => cases trace <;> rfl
  | succ budget ih =>
    rw [followSteps]
    cases hstep : s.step with
    | error f => simp only [runSteps_succ_of_error budget hstep, Frame.log_fault]
    | ok p =>
      obtain ⟨s', w⟩ := p
      cases hending : s.endingAfter s' w with
      | some ending =>
        have hfault := programFault?_of_endingAfter hending
        simp only [hending, runSteps_succ_of_ending budget hstep hending,
          Frame.log_single console trace s' _ hfault]
      | none => simp only [hending, runSteps_succ_of_none budget hstep hending, ih, Frame.log_after]

theorem followFrame_eq (s : State) (trace : Option Trace) (keys : Option Keypad) (budget : Int) :
    s.followFrame console trace keys budget =
      (s.runFrame keys budget, (s.runFrame keys budget).log console trace) :=
  followSteps_eq console budget.toNat trace (s.beginFrame keys)

end State

end ChipEight
