import ChipEight.Logger

/-! # The machine

A `Machine` is a state with what a host needs around it: the settings it was started
with, the fault that halted it, if any, and the number of frames it has run.  It is
driven a frame at a time; a halted machine stays as it is until it is reset, and a reset
takes it back to the state in which its settings start it.

A frame that meets a stack pointer out of reach halts nothing: it does not count, and whoever has
asked for it is told.
-/
namespace ChipEight

/-! ## Starting -/

/-- What a machine is started with. -/
structure Settings where
  /-- The program image. -/
  program : List UInt8
  /-- The number of instructions in a second. -/
  frequency : Int := defaultFrequency
  /-- The number of frames in a second. -/
  fps : Int := defaultRate
  /-- The dialect followed. -/
  dialect : Dialect := {}
  /-- The seed of the random numbers. -/
  seed : Int := 0

/-- Why a machine cannot be started. -/
inductive StartError where
  /-- There is not one instruction in every frame, or no frame. -/
  | rate (frequency fps : Int)
  /-- The seed takes more than 64 bits. -/
  | seed
  /-- The program image does not fit into memory. -/
  | fault (f : Fault)
  deriving DecidableEq, Repr

/-- The sentence for why a machine cannot be started. -/
def StartError.message : StartError → String
  | rate frequency fps =>
    "instruction_frequency (" ++ toString frequency ++ ") must be at least fps (" ++ toString fps
      ++ ") and fps positive"
  | seed => "the seed does not fit into 64 bits"
  | fault f => f.message

/-- The generator key for a seed of at most 64 bits, the sign included. -/
def RandomKey.ofSeed? (seed : Int) : Except StartError RandomKey :=
  if -9223372036854775808 ≤ seed ∧ seed < 9223372036854775808 then .ok (.ofSeed seed)
  else .error .seed

namespace Settings

/-- The number of instructions in a frame. -/
def budget (c : Settings) : Int := c.frequency.fdiv c.fps

/-- The state a machine starts in. -/
def start (c : Settings) : Except StartError State := do
  if c.fps ≤ 0 ∨ c.frequency < c.fps then .error (.rate c.frequency c.fps)
  -- the seed is looked at before the image is
  let key ← RandomKey.ofSeed? c.seed
  ((State.initial key c.dialect).load c.program).mapError .fault

end Settings

/-- A machine. -/
structure Machine where
  /-- What it was started with. -/
  settings : Settings
  /-- The state it started in. -/
  origin : State
  /-- It was this that the settings made of it. -/
  started : settings.start = .ok origin
  /-- Its state now. -/
  state : State
  /-- The fault that halted it. -/
  error : Option Fault := none
  /-- The number of frames run since the start or the last reset. -/
  frames : Nat := 0
  /-- The trace that follows it. -/
  trace : Option Trace := none

namespace Machine

/-- Start a machine. -/
def start (c : Settings) (trace : Option Trace) : Except StartError Machine :=
  match h : c.start with
  | .error e => .error e
  | .ok s => .ok { settings := c, origin := s, started := h, state := s, trace := trace }

/-- Start over, in the state in which the settings start a machine.  What the trace has counted
stays. -/
def reset (m : Machine) : Machine := { m with state := m.origin, error := none, frames := 0 }

/-- Whether a fault has halted the machine. -/
def halted (m : Machine) : Bool := m.error.isSome

/-- Whether the tone is to be heard. -/
def soundActive (m : Machine) : Bool := m.state.soundActive

/-! ## Running -/

/-- Run one frame, with the account of it and what was printed.  A halted machine does
not move: the account is empty and names the fault again.  Nor does the machine move in a frame of
which there is no account; only the trace has seen its instructions. -/
def advance (m : Machine) (console : Console) (keys : Option Keypad) :
    Machine × Except Fault Frame × List String :=
  match m.error with
  | some f => (m, .ok ⟨m.state, [], .fault f⟩, [])
  | none =>
    let (frame, trace, lines) := m.state.followFrame console m.trace keys m.settings.budget
    match frame.valid with
    | .error f => ({ m with trace := trace }, .error f, lines)
    | .ok frame =>
      -- a frame that ends with a fault is not counted by the trace
      let (trace, ending) :=
        match trace, frame.ending.fault? with
        | some t, none =>
          let (t, line) := t.frame console frame.count frame.drew frame.waiting
          (some t, line)
        | t, _ => (t, [])
      ({ m with
          state := frame.state
          error := frame.ending.fault?
          frames := m.frames + 1
          trace := trace },
        .ok frame, lines ++ ending)

/-- Run one frame with keys as a host hands them over.  A halted machine does not look at
them; any other refuses keys that are no keypad, and then does not move. -/
def runFrame (m : Machine) (console : Console) (keys : Option KeyVector) :
    Except KeyVector.Refusal (Machine × Except Fault Frame × List String) :=
  if m.halted then .ok (m.advance console none)
  else
    match keys with
    | none => .ok (m.advance console none)
    | some v => v.toKeypad.map fun p => m.advance console (some p)

end Machine

end ChipEight
