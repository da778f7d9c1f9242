import ChipEight.Picture
import ChipEight.Text.Integer

/-! # The options of the command line

Arguments are read in two passes.  First each one by itself becomes a `Piece`: a flag, a
flag with text attached to it, or plain text.  A long flag may be shortened as long as no
other begins the same way, and short flags may be bundled, the last of them with its value.
Then the pieces are taken in order into a `Draft`, and the first thing that is wrong is what
is reported.

Two hyphens by themselves are the separator, after which nothing is a flag.

Text that is attached to a flag is read by one of two conventions.  The later one takes it as it
stands.  By the earlier one two hyphens are the separator there too, and are dropped: the flag has
then been `Given` nothing, which is another thing than not being there at all.
-/
namespace ChipEight

/-! ## Flags -/

/-- The flags. -/
inductive Flag where
  /-- Show how the program is used. -/
  | help
  /-- Follow the machine with a trace. -/
  | debug
  /-- The number of points a side of a pixel. -/
  | scale
  /-- Do without the tone. -/
  | noAudio
  /-- The number of instructions in a frame. -/
  | ipf
  /-- Follow the modern dialect. -/
  | modern
  /-- The color scheme. -/
  | colors
  /-- The number of frames to run without a window. -/
  | headless
  /-- The seed of the random numbers. -/
  | seed
  deriving DecidableEq, Repr

namespace Flag

/-- The flags in the order in which they are listed. -/
def all : List Flag := [help, debug, scale, noAudio, ipf, modern, colors, headless, seed]

/-- The ways to write a flag. -/
def spellings : Flag → List String
  | help => ["-h", "--help"]
  | debug => ["-d", "--debug"]
  | scale => ["-s", "--scale"]
  | noAudio => ["-a", "--no-audio"]
  | ipf => ["--ipf"]
  | modern => ["--modern"]
  | colors => ["--colors"]
  | headless => ["--headless"]
  | seed => ["--seed"]

/-- Whether a value belongs to the flag. -/
def takesValue : Flag → Bool
  | scale | ipf | colors | headless | seed => true
  | _ => false

/-- The flag as messages name it. -/
def name (f : Flag) : String := "/".intercalate f.spellings

/-- The spelling of a flag as a word. -/
def word (f : Flag) : String := (f.spellings.getLast?).getD ""

/-- Every spelling with its flag. -/
def table : List (String × Flag) := all.flatMap fun f => f.spellings.map fun s => (s, f)

/-- The flag with exactly this spelling. -/
def ofSpelling? (s : String) : Option Flag := (table.find? fun e => e.1 == s).map (·.2)

end Flag

/-! ## What can be wrong -/

/-- Why arguments cannot be used. -/
inductive UsageError where
  /-- A shortened flag could be any of several. -/
  | ambiguous (text : String) (candidates : List String)
  /-- A flag lacks its value. -/
  | missingValue (flag : Flag)
  /-- Text is attached to a flag that has no value. -/
  | unwantedValue (flag : Flag) (text : String)
  /-- A value is not an integer. -/
  | invalidInteger (flag : Flag) (text : String)
  /-- A value is not the name of a color scheme. -/
  | invalidChoice (flag : Flag) (text : String)
  /-- No program is named. -/
  | missingProgram
  /-- Arguments are left over. -/
  | unrecognized (texts : List String)
  /-- A value that has to be positive is not. -/
  | notPositive (flag : Flag)
  deriving DecidableEq, Repr

/-- The sentence for why arguments cannot be used. -/
def UsageError.message : UsageError → String
  | ambiguous text candidates =>
    "ambiguous option: " ++ text ++ " could match " ++ ", ".intercalate candidates
  | missingValue f => "argument " ++ f.name ++ ": expected one argument"
  | unwantedValue f text =>
    "argument " ++ f.name ++ ": ignored explicit argument " ++ Text.quote text
  | invalidInteger f text => "argument " ++ f.name ++ ": invalid int value: " ++ Text.quote text
  | invalidChoice f text =>
    "argument " ++ f.name ++ ": invalid choice: " ++ Text.quote text ++ " (choose from "
      ++ ColorScheme.names ++ ")"
  | missingProgram => "the following arguments are required: rom"
  | unrecognized texts => "unrecognized arguments: " ++ " ".intercalate texts
  | notPositive f => f.word ++ " must be greater than 0"

/-- The line that reports wrong arguments. -/
def UsageError.report (e : UsageError) : String := "main.py: error: " ++ e.message

/-- How the program is used, in one line. -/
def usageLine : String :=
  "usage: main.py [-h] [-d] [-s SCALE] [-a] [--ipf IPF] [--modern] [--colors NAME] "
    ++ "[--headless FRAMES] [--seed SEED] rom"

/-- Why a program does not go on after its arguments have been read. -/
inductive UsageStop where
  /-- Help was asked for. -/
  | help
  /-- The arguments cannot be used. -/
  | wrong (e : UsageError)
  /-- A flag has been given nothing, and its value is needed. -/
  | nothingGiven (flag : Flag)
  deriving DecidableEq, Repr

/-! ## Single arguments -/

/-- How text attached to a flag is read. -/
inductive Convention where
  /-- Two hyphens are the separator, and an equals sign after a letter may go before another
  letter. -/
  | earlier
  /-- Two hyphens are a value as any other, and what follows an equals sign is a value. -/
  | later
  deriving DecidableEq, Repr

/-- Text attached to a flag. -/
inductive Attached where
  /-- The value of a flag spelled as a word. -/
  | value (text : List Char)
  /-- The text after a flag of one letter: its value, or the letters of more such flags. -/
  | letters (text : List Char)
  deriving DecidableEq, Repr

/-- Text attached to a flag with the given spelling by an equals sign. -/
def Attached.to (convention : Convention) (spelling text : List Char) : Attached :=
  match convention, spelling with
  | .earlier, '-' :: '-' :: _ => value text
  | .earlier, _ => letters text
  | .later, _ => value text

/-- What an argument is, by itself. -/
inductive Piece where
  /-- Text that is no flag. -/
  | plain (text : String)
  /-- The two hyphens after which nothing is a flag. -/
  | separator
  /-- A flag, and the text attached to it. -/
  | flag (f : Flag) (attached : Option Attached)
  /-- Something like a flag that is none. -/
  | unknown (text : String)
  deriving DecidableEq, Repr

namespace Piece

/-- The characters before the first equals sign, and those after it if there is one. -/
def splitEquals (cs : List Char) : List Char × Option (List Char) :=
  match cs.span (· != '=') with
  | (front, _ :: back) => (front, some back)
  | (front, []) => (front, none)

/-- Whether text is a negative number in decimal notation, which is never taken for a
flag.  One line break may follow it. -/
def isNegativeNumber (cs : List Char) : Bool :=
  match cs with
  | '-' :: rest =>
    let isDigit := fun c => (Text.digitValue? c).isSome
    let rest := if rest.getLast? = some '\n' then rest.dropLast else rest
    match rest.span isDigit with
    | (whole, []) => !whole.isEmpty
    | (_, '.' :: fraction) => !fraction.isEmpty && fraction.all isDigit
    | _ => false
  | _ => false

/-- The flags that text with a leading hyphen may stand for, each with its spelling: the
long ones that begin with it, as far as an equals sign, or the short one it begins with. -/
def candidates (cs : List Char) : List (String × Piece) :=
  match cs with
  | '-' :: '-' :: _ =>
    let (front, back) := splitEquals cs
    (Flag.table.filter fun e => front.isPrefixOf e.1.toList).map fun e =>
      (e.1, .flag e.2 (back.map .value))
  | '-' :: c :: rest =>
    (Flag.table.filter fun e => e.1.toList == ['-', c]).map fun e =>
      (e.1, .flag e.2 (some (.letters rest)))
  | _ => []

/-- What an argument is, if it does not follow the separator. -/
def ofText (convention : Convention) (text : String) : Except UsageError Piece :=
  match text.toList with
  | '-' :: c :: rest =>
    let cs := '-' :: c :: rest
    -- a full spelling wins over every shortened one
    match Flag.ofSpelling? text with
    | some f => .ok (.flag f none)
    | none =>
      let (front, back) := splitEquals cs
      match back, Flag.ofSpelling? (String.ofList front) with
      | some text, some f => .ok (.flag f (some (.to convention front text)))
      | _, _ =>
        match candidates cs with
        | [(_, piece)] => .ok piece
        | [] => .ok (if isNegativeNumber cs || cs.contains ' ' then .plain text else .unknown text)
        | several => .error (.ambiguous text (several.map (·.1)))
  | _ => .ok (.plain text)

/-- What all arguments are.  After the separator everything is plain. -/
def ofTexts (convention : Convention) : List String → Except UsageError (List Piece)
  | [] => .ok []
  | text :: texts =>
    if text = "--" then .ok (.separator :: texts.map .plain)
    else do
      let piece ← ofText convention text
      let pieces ← ofTexts convention texts
      return piece :: pieces

end Piece

/-! ## Bundles -/

/-- What a flag and the text attached to it stand for: flags without a value, and a last flag
that may have one. -/
structure Bundle where
  /-- The flags before the last. -/
  before : List Flag := []
  /-- The last flag. -/
  last : Flag
  /-- The value attached to the last flag. -/
  value : Option String := none
  /-- What is left over of the text, as if it were an argument of its own. -/
  leftover : Option String := none
  deriving DecidableEq, Repr

namespace Bundle

/-- The bundle with a flag before it. -/
def cons (f : Flag) (b : Bundle) : Bundle := { b with before := f :: b.before }

/-- A flag with text that can only be its value. -/
def ofValue (f : Flag) (text : List Char) : Except UsageError Bundle :=
  if f.takesValue then .ok { last := f, value := some (String.ofList text) }
  else .error (.unwantedValue f (String.ofList text))

/-- The value that letters begin with, by the later convention: all that follows an equals
sign. -/
def valueIn? : Convention → List Char → Option (List Char)
  | .later, '=' :: text => some text
  | _, _ => none

/-- A flag of one letter with text.  If the flag has a value, the text is it.  Any other flag
passes the text on: its first character has to be the letter of the next flag.  By the later
convention letters of no flag are left over. -/
def ofLetters (convention : Convention) (f : Flag) : List Char → Except UsageError Bundle
  | [] => ofValue f []
  | c :: rest =>
    if f.takesValue then ofValue f (c :: rest)
    else
      match Flag.ofSpelling? (String.ofList ['-', c]) with
      | none =>
        if convention = .later ∧ c ≠ '-' then
          .ok { last := f, leftover := some (String.ofList ('-' :: c :: rest)) }
        else .error (.unwantedValue f (String.ofList (c :: rest)))
      | some g =>
        if rest.isEmpty then .ok { before := [f], last := g }
        else
          match valueIn? convention rest with
          | some text => (ofValue g text).map (cons f)
          | none => (ofLetters convention g rest).map (cons f)

/-- The bundle of a flag and what is attached to it. -/
def ofFlag (convention : Convention) (f : Flag) : Option Attached → Except UsageError Bundle
  | none => .ok { last := f }
  | some (.value text) => ofValue f text
  | some (.letters text) => ofLetters convention f text

end Bundle

/-! ## Options -/

/-- What a flag with a value has been given. -/
inductive Given (α : Type) where
  /-- A value. -/
  | value (v : α)
  /-- The separator, which is dropped and leaves nothing. -/
  | nothing
  deriving DecidableEq, Repr

/-- What a command line asks for. -/
structure Options where
  /-- The path of the program image. -/
  rom : String
  /-- Whether to follow the machine with a trace. -/
  debug : Bool
  /-- The number of points a side of a pixel. -/
  scale : Int
  /-- Whether to do without the tone. -/
  noAudio : Bool
  /-- The number of instructions in a frame. -/
  ipf : Option Int
  /-- Whether to follow the modern dialect. -/
  modern : Bool
  /-- The color scheme. -/
  colors : Given ColorScheme
  /-- The number of frames to run without a window. -/
  headless : Option (Given Int)
  /-- The seed of the random numbers. -/
  seed : Given Int
  deriving DecidableEq, Repr

/-- Options while the arguments are taken one after the other. -/
structure Draft where
  /-- The path of the program image, once it is named. -/
  rom : Option String := none
  /-- Whether to follow the machine with a trace. -/
  debug : Bool := false
  /-- The number of points a side of a pixel. -/
  scale : Given Int := .value 10
  /-- Whether to do without the tone. -/
  noAudio : Bool := false
  /-- The number of instructions in a frame. -/
  ipf : Option (Given Int) := none
  /-- Whether to follow the modern dialect. -/
  modern : Bool := false
  /-- The color scheme. -/
  colors : Given ColorScheme := .value .classic
  /-- The number of frames to run without a window. -/
  headless : Option (Given Int) := none
  /-- The seed of the random numbers. -/
  seed : Given Int := .value 0
  /-- The arguments that are left over. -/
  leftover : List String := []
  deriving DecidableEq, Repr

namespace Draft

/-! ### Values -/

/-- The value of a flag, read from its text. -/
def readValue {α : Type} (convention : Convention) (read? : String → Option α)
    (e : UsageError) (text : String) : Except UsageStop (Given α) :=
  if convention = .earlier ∧ text = "--" then .ok .nothing
  else
    match read? text with
    | some v => .ok (.value v)
    | none => .error (.wrong e)

/-- The integer that is the value of a flag. -/
def integer (convention : Convention) (f : Flag) (text : String) : Except UsageStop (Given Int) :=
  readValue convention Text.readInteger (.invalidInteger f text) text

/-- The color scheme that is the value of a flag. -/
def scheme (convention : Convention) (f : Flag) (text : String) :
    Except UsageStop (Given ColorScheme) :=
  readValue convention ColorScheme.ofName? (.invalidChoice f text) text

/-- Do what a flag asks for.  A flag without a value does not look at the text. -/
def set (convention : Convention) (d : Draft) (f : Flag) (text : String) :
    Except UsageStop Draft :=
  match f with
  | .help => .error .help
  | .debug => .ok { d with debug := true }
  | .scale => (integer convention f text).map fun v => { d with scale := v }
  | .noAudio => .ok { d with noAudio := true }
  | .ipf => (integer convention f text).map fun v => { d with ipf := some v }
  | .modern => .ok { d with modern := true }
  | .colors => (scheme convention f text).map fun v => { d with colors := v }
  | .headless => (integer convention f text).map fun v => { d with headless := some v }
  | .seed => (integer convention f text).map fun v => { d with seed := v }

/-- Leave an argument over. -/
def leave (d : Draft) (text : String) : Draft := { d with leftover := d.leftover ++ [text] }

/-- Do what the flags of a bundle ask for, in order; the text is the value of the last. -/
def apply (convention : Convention) (d : Draft) (b : Bundle) (text : String) :
    Except UsageStop Draft := do
  let d := (b.leftover.map d.leave).getD d
  (← b.before.foldlM (fun d f => d.set convention f "") d).set convention b.last text

/-! ### Arguments in order -/

/-- Take plain text, and the separator if it stood next to it.  The first plain text names the
program, to which the separator belongs; any other is left over. -/
def plain (d : Draft) (text : String) (asWritten : List String) : Draft :=
  match d.rom with
  | none => { d with rom := some text }
  | some _ => { d with leftover := d.leftover ++ asWritten }

/-- Take the pieces in order.  A flag that still wants its value takes the plain text after
it. -/
def take (convention : Convention) (d : Draft) : List Piece → Except UsageStop Draft
  | [] => .ok d
  | .plain text :: .separator :: rest => take convention (d.plain text [text, "--"]) rest
  | .plain text :: rest => take convention (d.plain text [text]) rest
  | .separator :: .plain text :: rest => take convention (d.plain text ["--", text]) rest
  | .separator :: rest => take convention (d.leave "--") rest
  | .unknown text :: rest => take convention (d.leave text) rest
  | .flag f attached :: rest =>
    match Bundle.ofFlag convention f attached with
    | .error e => .error (.wrong e)
    | .ok b =>
      if b.last.takesValue && b.value.isNone then
        match rest with
        | .plain text :: rest => do take convention (← d.apply convention b text) rest
        | _ => .error (.wrong (.missingValue b.last))
      else do take convention (← d.apply convention b (b.value.getD "")) rest

/-! ### The end of the arguments -/

/-- The value of a flag that has to have one, and a positive one. -/
def positive (f : Flag) : Given Int → Except UsageStop Int
  | .nothing => .error (.nothingGiven f)
  | .value v => if v ≤ 0 then .error (.wrong (.notPositive f)) else .ok v

/-- The options, if a program is named, nothing is left over, and the numbers make sense. -/
def finish (d : Draft) : Except UsageStop Options :=
  -- the order decides which of several errors is reported
  match d.rom with
  | none => .error (.wrong .missingProgram)
  | some rom =>
    if !d.leftover.isEmpty then .error (.wrong (.unrecognized d.leftover))
    else do
      let scale ← positive .scale d.scale
      let ipf ← d.ipf.mapM (positive .ipf)
      return {
        rom := rom
        debug := d.debug
        scale := scale
        noAudio := d.noAudio
        ipf := ipf
        modern := d.modern
        colors := d.colors
        headless := d.headless
        seed := d.seed }

end Draft

/-- The options that arguments ask for. -/
def Options.parse (convention : Convention) (arguments : List String) :
    Except UsageStop Options := do
  let pieces ← (Piece.ofTexts convention arguments).mapError .wrong
  (← Draft.take convention {} pieces).finish

end ChipEight
