import ChipEight.Host.Event
import ChipEight.Host.Failure
import ChipEight.Machine

/-! # The machine in a window

A window is driven in turns.  A turn waits for its time, applies the events that have come
in, runs one frame unless the machine is paused or halted, starts or stops the tone, and
shows the screen.  What the window and the mixer are asked to do is a value, a list of
`Effect`s, so that `Window.play` is a function from a script of events to everything that
happens: a script that is used up goes on with the wish to quit, so every run ends.
-/
namespace ChipEight

namespace Host

/-- What the window and the mixer are asked to do. -/
inductive Effect where
  /-- Open a window of this size. -/
  | openWindow (width height : Int)
  /-- Put a title on it. -/
  | caption (text : String)
  /-- Ask the mixer for this sample rate, sample size and number of channels. -/
  | mixer (rate size channels : Int)
  /-- Wait until the next of so many turns in a second. -/
  | tick (fps : Int)
  /-- Play the tone, and play it again so many times; below zero, without end. -/
  | play (loops : Int)
  /-- Stop the tone. -/
  | stop
  /-- Show a picture. -/
  | present (picture : Picture)
  /-- Close everything. -/
  | close
  deriving DecidableEq, Repr

/-- How the window is set up. -/
structure WindowSettings where
  /-- The number of points a side of a pixel. -/
  scale : Int := 10
  /-- Whether the tone is wanted. -/
  audio : Bool := true
  /-- The name of the color scheme. -/
  scheme : String := "classic"
  /-- Why the mixer will not start, if it will not. -/
  mixerError : Option String := none
  /-- The room for pictures. -/
  room : Room Enlargement

namespace WindowSettings

/-- Whether the tone can be played. -/
def hasTone (c : WindowSettings) : Bool := c.audio && c.mixerError.isNone

end WindowSettings

/-- A window with a machine in it. -/
structure Window where
  /-- The machine. -/
  machine : Machine
  /-- The keys that are down. -/
  keys : Keypad := .allUp
  /-- Whether the tone is playing. -/
  beeping : Bool := false
  /-- Whether the machine is paused. -/
  paused : Bool := false
  /-- Whether there is to be another turn. -/
  running : Bool := true

namespace Window

variable (w : Window) (c : WindowSettings) (console : Console)

/-! ## Events -/

/-- Let a key of the keypad go down or up. -/
def setKey (k : Key) (isDown : Bool) : Window :=
  match k.digit? with
  | some d => { w with keys := w.keys.setIfInBounds d isDown }
  | none => w

/-- Apply one event, with what is printed. -/
def handle : Event → Window × List String
  | .quit => ({ w with running := false }, [])
  | .down .escape => ({ w with running := false }, [])
  | .down .f5 =>
    ({ w with machine := w.machine.reset, keys := .allUp }, Logger.host.print console .info "Reset")
  | .down k => if k = .pause then ({ w with paused := !w.paused }, []) else (w.setKey k true, [])
  | .up k => (w.setKey k false, [])
  | .other => (w, [])

/-- Apply events in order. -/
def handleAll (w : Window) : List Event → Window × List String
  | [] => (w, [])
  | e :: es =>
    let (w, line) := w.handle console e
    let (w, lines) := w.handleAll es
    (w, line ++ lines)

/-! ## Turns -/

/-- Run a frame, unless the machine is paused or halted, with the fault if it goes astray and with
what is printed. -/
def runFrame : Window × Option Fault × List String :=
  if w.paused || w.machine.halted then (w, none, [])
  else
    let (m, answer, lines) := w.machine.advance console (some w.keys)
    ({ w with machine := m }, Frame.stray? answer, lines)

/-- Start or stop the tone, if it can be played and does not do what the machine
wants. -/
def sound : Window × List Effect :=
  if c.hasTone && w.machine.soundActive && !w.beeping then
    ({ w with beeping := true }, [.play (-1)])
  else if c.hasTone && !w.machine.soundActive && w.beeping then
    ({ w with beeping := false }, [.stop])
  else (w, [])

/-- The picture of the screen. -/
def picture (scheme : ColorScheme) : Except PictureError Picture :=
  if c.scale < 1 then .error (.scale c.scale)
  else w.machine.state.screen.enlarge c.room c.scale scheme.on scheme.off

/-- The account of a turn or of a whole run. -/
structure Account where
  /-- The window afterwards. -/
  window : Window
  /-- What was asked for, in order. -/
  effects : List Effect
  /-- What was printed, in order. -/
  printed : List String
  /-- What ended the run early. -/
  failure : Option Failure

/-- The account with effects and printed texts of an earlier time put first. -/
def Account.after (effects : List Effect) (printed : List String) (a : Account) : Account :=
  { a with effects := effects ++ a.effects, printed := printed ++ a.printed }

/-- One turn. -/
def turn (scheme : ColorScheme) (events : List Event) : Account :=
  -- all events count, also those after the wish to quit, and the frame still runs
  let (w, told) := w.handleAll console events
  let (w, stray?, ran) := w.runFrame console
  let tick := Effect.tick w.machine.settings.fps
  match stray? with
  | some f => ⟨w, [tick], told ++ ran, some (.astray f)⟩
  | none =>
    let (w, tone) := w.sound c
    match w.picture c scheme with
    | .error e => ⟨w, tick :: tone, told ++ ran, some (.picture e)⟩
    | .ok p => ⟨w, tick :: tone ++ [.present p], told ++ ran, none⟩

/-- All turns of a script, until one ends the run. -/
def turns (w : Window) (scheme : ColorScheme) : List (List Event) → Account
  | [] => w.turn c console scheme [.quit]
  | events :: script =>
    let a := w.turn c console scheme events
    if a.failure.isSome || !a.window.running then a
    else (turns a.window scheme script).after a.effects a.printed

/-! ## Runs -/

/-- What is asked of the mixer, with what is printed if it will not start. -/
def openMixer : List Effect × List String :=
  if c.audio then
    ([.mixer 44100 (-16) 1], (c.mixerError.map fun e =>
      Logger.host.print console .warning ("Audio disabled: " ++ e)).getD [])
  else ([], [])

/-- A whole run of a machine in a window.  A color scheme that does not exist is
noticed before the mixer is asked for anything; whatever happens after that, everything is
closed in the end. -/
def play (m : Machine) (script : List (List Event)) : Account :=
  let opened := [
    Effect.openWindow (screenWidth * c.scale) (screenHeight * c.scale),
    Effect.caption "CHIP-8"]
  match ColorScheme.ofName c.scheme with
  -- nothing is closed here: the run proper has not begun
  | .error e => ⟨{ machine := m }, opened, [], some (.picture e)⟩
  | .ok scheme =>
    let (mixer, warned) := openMixer c console
    let controls := Logger.host.print console .info "Controls: ESC=Quit, P=Pause, F5=Reset"
    let a := turns c console { machine := m } scheme script
    ⟨a.window, opened ++ mixer ++ a.effects ++ [.close], warned ++ controls ++ a.printed,
      a.failure⟩

/-- The exit status of a run: 1 if the machine ended halted and 0 otherwise, or what ended
the run early. -/
def Account.status (a : Account) : Except Failure Nat :=
  match a.failure with
  | some e => .error e
  | none => .ok (if a.window.machine.halted then 1 else 0)

end Window

end Host

end ChipEight
