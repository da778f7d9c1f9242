import ChipEight.Step

/-! # Frames

A frame is a sixtieth of a second or so: the keys are read, the timers tick once, and up
to a budget of instructions runs.  A drawn sprite ends the frame, as does an instruction
that waits for a key, and so does a fault, before the instruction that met it.

`Frame` is the whole account of one: the state it left, the instructions that ran, each
with its address, and how it ended.  `Frame.valid` is the account as a host may use it.
-/
namespace ChipEight

/-- The default number of frames in a second. -/
def defaultRate : Nat := 60

/-- The default number of instructions in a second. -/
def defaultFrequency : Nat := 660

/-- The default number of instructions in a frame. -/
def defaultBudget : Nat := defaultFrequency / defaultRate

namespace State

/-- Count both timers down by one, as far as zero. -/
def tick (s : State) : State := {
  s with
  delayTimer := if 0 < s.delayTimer then s.delayTimer - 1 else 0
  soundTimer := if 0 < s.soundTimer then s.soundTimer - 1 else 0 }

/-- A timer counts down as far as zero. -/
theorem countDown_eq (timer : UInt8) :
    (if 0 < timer then timer - 1 else 0) = UInt8.ofNat (timer.toNat - 1) := by
  refine UInt8.toNat_inj.mp ?_
  have hlt := timer.toNat_lt
  rw [UInt8.toNat_ofNat']
  split
  · rename_i hpos
    have hone : 1 ≤ timer := hpos
    rw [UInt8.toNat_sub_of_le _ _ hone]
    have hmod : (timer.toNat - 1) % 2 ^ 8 = timer.toNat - 1 := Nat.mod_eq_of_lt (by omega)
    rw [hmod]
    rfl
  · rename_i hzero
    have : timer.toNat = 0 := by
      have hle : timer ≤ 0 := UInt8.not_lt.mp hzero
      exact Nat.le_zero.mp (UInt8.le_iff_toNat_le.mp hle)
    rw [this]
    rfl

theorem tick_eq (s : State) :
    s.tick = {
      s with
      delayTimer := UInt8.ofNat (s.delayTimer.toNat - 1)
      soundTimer := UInt8.ofNat (s.soundTimer.toNat - 1) } := by
  rw [tick, countDown_eq, countDown_eq]

/-- Take the keys of a new frame and keep those of the last. -/
def acceptKeys (s : State) (keys : Keypad) : State :=
  { s with previousKeypad := s.keypad, keypad := keys }

/-- The state in which the instructions of a frame begin to run.  Without new keys, those
of the last frame are still down. -/
def beginFrame (s : State) (keys : Option Keypad) : State :=
  (s.acceptKeys (keys.getD s.keypad)).tick

end State

/-- An instruction that ran: the address it was fetched from and the word that ran in the
end. -/
structure Executed where
  /-- The address it was fetched from. -/
  pc : UInt16
  /-- The word that ran. -/
  word : Word
  deriving DecidableEq, Repr

/-- How a frame ended. -/
inductive Ending where
  /-- The budget was used up. -/
  | budget
  /-- A sprite was drawn. -/
  | draw
  /-- An instruction is waiting for a key. -/
  | keyWait
  /-- The next instruction cannot be run. -/
  | fault (f : Fault)
  deriving DecidableEq, Repr

namespace Ending

/-- The fault that ended a frame, if one did. -/
def fault? : Ending → Option Fault
  | .fault f => some f
  | _ => none

theorem fault?_eq_some_iff {e : Ending} {f : Fault} : e.fault? = some f ↔ e = .fault f := by
  cases e <;> simp [fault?]

/-- The fault that ended a frame, if the program brought one about. -/
def programFault? (e : Ending) : Option Fault := e.fault?.filter fun f => f.cause.isOfProgram

end Ending

/-- The account of a frame. -/
structure Frame where
  /-- The state after the last instruction that ran. -/
  state : State
  /-- The instructions that ran, in order. -/
  executed : List Executed
  /-- How the frame ended. -/
  ending : Ending

namespace Frame

/-- The number of instructions that ran. -/
def count (f : Frame) : Nat := f.executed.length

/-- Whether a sprite ended the frame. -/
def drew (f : Frame) : Bool := f.ending == .draw

/-- Whether the frame ended with an instruction waiting for a key. -/
def waiting (f : Frame) : Bool := f.ending == .keyWait

/-- Whether a fault ended the frame. -/
def halted (f : Frame) : Bool := f.ending.fault?.isSome

/-- The account itself, unless the frame met a stack pointer that is out of reach.  Such a frame
counts for nothing, and the host that set the pointer up is told. -/
def valid (f : Frame) : Except Fault Frame :=
  match f.ending.fault? with
  | some fault => if fault.cause.isOfProgram then .ok f else .error fault
  | none => .ok f

theorem valid_cases (f : Frame) : f.valid = .ok f ∨ ∃ e, f.valid = .error e := by
  unfold valid
  split
  · split
    · exact Or.inl rfl
    · exact Or.inr ⟨_, rfl⟩
  · exact Or.inl rfl

/-- The fault for which there is no account of a frame, if there is none. -/
def stray? : Except Fault Frame → Option Fault
  | .ok _ => none
  | .error f => some f

/-- The account with one instruction put before the others. -/
def after (e : Executed) (f : Frame) : Frame := { f with executed := e :: f.executed }

end Frame

namespace State

/-- How the frame ends with an instruction that ran, if it does: it drew, or it waits for a
key and so has left the program counter where it was. -/
def endingAfter (s s' : State) (w : Word) : Option Ending :=
  if w.isDraw then some .draw
  else if w.isKeyWait && s'.pc == s.pc then some .keyWait
  else none

/-- Run instructions until the budget is used up or something ends the frame. -/
def runSteps : (budget : Nat) → State → Frame
  | 0, s => ⟨s, [], .budget⟩
  | budget + 1, s =>
    match s.step with
    | .error f => ⟨s, [], .fault f⟩
    | .ok (s', w) =>
      match s.endingAfter s' w with
      | some ending => ⟨s', [⟨s.pc, w⟩], ending⟩
      | none => (runSteps budget s').after ⟨s.pc, w⟩

/-- Run a frame.  A budget below zero is none. -/
def runFrame (s : State) (keys : Option Keypad) (budget : Int) : Frame :=
  runSteps budget.toNat (s.beginFrame keys)

/-! ## Runs, one instruction at a time -/

theorem runSteps_succ_of_error {s : State} {f : Fault} (budget : Nat) (h : s.step = .error f) :
    s.runSteps (budget + 1) = ⟨s, [], .fault f⟩ := by
  rw [runSteps, h]

theorem runSteps_succ_of_ending {s s' : State} {w : Word} {ending : Ending} (budget : Nat)
    (h : s.step = .ok (s', w)) (he : s.endingAfter s' w = some ending) :
    s.runSteps (budget + 1) = ⟨s', [⟨s.pc, w⟩], ending⟩ := by
  rw [runSteps, h]
  simp only [he]

theorem runSteps_succ_of_none {s s' : State} {w : Word} (budget : Nat)
    (h : s.step = .ok (s', w)) (he : s.endingAfter s' w = none) :
    s.runSteps (budget + 1) = (s'.runSteps budget).after ⟨s.pc, w⟩ := by
  rw [runSteps, h]
  simp only [he]

end State

end ChipEight
