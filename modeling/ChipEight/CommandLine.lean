import ChipEight.Folder
import ChipEight.Host.Headless
import ChipEight.Host.Window
import ChipEight.Options

/-! # The command line

From arguments to an exit status: the options are read, the program image is loaded, and
the machine runs with a window or without.  Everything printed and everything asked of the
window is part of the result, and so is the reason if there is no exit status.
-/
namespace ChipEight

namespace CommandLine

/-- The account of a run of the program. -/
structure Report where
  /-- The exit status. -/
  status : Nat
  /-- What was printed, in order. -/
  printed : List String
  /-- What was asked of the window and the mixer, in order. -/
  effects : List Host.Effect := []

/-- Why the program ends without an exit status of its own. -/
inductive Stop where
  /-- The arguments ask for help or cannot be used, or a value they leave out is needed. -/
  | usage (stop : UsageStop)
  /-- The path of the program image is no path. -/
  | file (e : FileError)
  /-- The machine cannot be started. -/
  | start (e : StartError)
  /-- The run of the machine ends early. -/
  | host (e : Host.Failure)

/-- What there is to say when the program ends this way. -/
def Stop.message : Stop → String
  | .usage .help => usageLine
  | .usage (.wrong e) => e.report
  | .usage (.nothingGiven f) => "no value is given for " ++ f.name
  | .file e => e.message
  | .start e => e.message
  | .host e => e.message

/-- Whether the program did what was asked of it all the same. -/
def Stop.isHelp : Stop → Bool
  | .usage .help => true
  | _ => false

/-- The exit status that goes with it. -/
def Stop.status : Stop → Nat
  | .usage .help => 0
  | .usage (.wrong _) => 2
  | _ => 1

/-- What a flag has been given, now that it is needed. -/
def needed {α : Type} (f : Flag) : Given α → Except Stop α
  | .value v => .ok v
  | .nothing => .error (.usage (.nothingGiven f))

/-- What the machine is started with. -/
def settings (o : Options) (seed : Int) (program : List UInt8) : Settings where
  program := program
  frequency :=
    match o.ipf with
    | some n => n * defaultRate
    | none => defaultFrequency
  dialect := if o.modern then .modern else .classic
  seed := seed

/-- The report of a program image that cannot be loaded. -/
def notLoaded (console : Console) (o : Options) (reason : String) : Report where
  status := 1
  printed := Logger.host.print console .error ("Cannot load " ++ o.rom ++ ": " ++ reason)

/-- Run a machine with a window or without, as the options ask. -/
def drive (console : Console) (room : Room Enlargement) (o : Options) (m : Machine)
    (script : List (List Host.Event)) (mixerError : Option String) :
    Except Stop (Machine × Report) :=
  match o.headless with
  | some given => do
    let frames ← needed .headless given
    let r := Host.runHeadless console m frames true
    let status ← r.status.mapError .host
    return (r.machine, { status := status, printed := r.printed })
  | none => do
    let scheme ← needed .colors o.colors
    let w := {
      scale := o.scale
      audio := !o.noAudio
      scheme := scheme.name
      mixerError := mixerError
      room := room : Host.WindowSettings }
    let a := Host.Window.play w console m script
    let status ← a.status.mapError .host
    return (a.window.machine, { status := status, printed := a.printed, effects := a.effects })

/-- Load a program image and run it, with the events and the mixer that a window
brings. -/
def run (console : Console) (room : Room Enlargement) (o : Options)
    (image : Except FileError (List UInt8)) (script : List (List Host.Event))
    (mixerError : Option String) : Except Stop Report :=
  match image with
  -- such a path is not even tried
  | .error .nullCharacter => .error (.file .nullCharacter)
  | .error e => .ok (notLoaded console o e.message)
  | .ok program => do
    let seed ← needed .seed o.seed
    match Machine.start (settings o seed program) (if o.debug then some {} else none) with
    | .error (.fault f) => .ok (notLoaded console o f.message)
    | .error e => .error (.start e)
    | .ok m => do
      let loaded := Logger.host.print console .info
        ("Loaded: " ++ o.rom ++ " (" ++ toString program.length ++ " bytes, "
          ++ toString m.settings.budget ++ " IPF)")
      let (m, report) ← drive console room o m script mixerError
      let registers := (m.trace.map fun t => t.registers console m.state).getD []
      return { report with printed := loaded ++ report.printed ++ registers }

/-- The whole program, from its arguments on. -/
def invoke (console : Console) (convention : Convention) (room : Room Enlargement)
    (folder : Folder) (arguments : List String) (script : List (List Host.Event))
    (mixerError : Option String) : Except Stop Report := do
  let o ← (Options.parse convention arguments).mapError .usage
  run console room o (folder.read o.rom) script mixerError

end CommandLine

end ChipEight
