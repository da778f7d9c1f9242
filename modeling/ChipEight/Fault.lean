import ChipEight.Text.Hex

/-! # Faults

A fault ends the running program: the instruction that met it is not applied.  A
`Fault` is a **cause** together with the address of the faulting instruction, once
that is known.  `Fault.message` is the one place where the wording is decided.
-/
namespace ChipEight

/-- Why a word is not an instruction. -/
inductive OpcodeReason where
  /-- No operation has this word. -/
  | unassigned
  /-- A chain of machine-code calls did not end within the hops allowed. -/
  | endlessChain
  /-- A reason in words; an empty one says no more than `unassigned`. -/
  | stated (text : String)
  deriving DecidableEq, Repr

/-- How many machine-code calls one instruction may pass through. -/
def maxHops : Nat := 16

namespace Fault

/-- What went wrong. -/
inductive Cause where
  /-- The word cannot be run. -/
  | invalidOpcode (opcode : Int) (reason : OpcodeReason)
  /-- There is no register of this number. -/
  | invalidRegister (index : Int)
  /-- The address lies outside memory. -/
  | outOfBoundsAddress (address : Int)
  /-- A return with no pending call. -/
  | emptyStack
  /-- A call with every stack entry in use. -/
  | fullStack (capacity : Int)
  /-- The stack pointer is so far off that no entry can be looked for at this position. -/
  | strayPointer (position : Int)
  /-- A fault of no particular kind. -/
  | other (text : String)
  deriving DecidableEq, Repr

/-- The name of the kind of fault, as reports show it. -/
def Cause.name : Cause → String
  | .invalidOpcode .. => "InvalidOpcode"
  | .invalidRegister _ => "InvalidRegister"
  | .outOfBoundsAddress _ => "OutOfBoundsAddress"
  | .emptyStack => "EmptyStackUnderflow"
  | .fullStack _ => "StackOverflow"
  | .strayPointer _ => "StrayPointer"
  | .other _ => "Chip8Error"

/-- The sentence that describes a cause. -/
def Cause.message : Cause → String
  | .invalidOpcode w .endlessChain =>
    "Machine code call chain through " ++ Text.hex 4 w ++ " exceeds " ++ toString maxHops
      ++ " hops."
  | .invalidOpcode w (.stated text) =>
    if text.isEmpty then "Invalid opcode " ++ Text.hex 4 w ++ "." else text
  | .invalidOpcode w .unassigned => "Invalid opcode " ++ Text.hex 4 w ++ "."
  | .invalidRegister i => "Invalid register V" ++ Text.hex 1 i ++ "."
  | .outOfBoundsAddress a => "Address " ++ Text.hex 4 a ++ " is out of bounds."
  | .emptyStack => "Stack is empty, cannot return from subroutine."
  | .fullStack n => "Stack is full (" ++ toString n ++ " entries), cannot call subroutine."
  | .strayPointer p => "Stack position " ++ toString p ++ " is out of reach."
  | .other text => text

/-- Whether running a program can bring a cause about.  A stray pointer was set up by the
host and is none of the program's doing. -/
def Cause.isOfProgram : Cause → Bool
  | .strayPointer _ => false
  | _ => true

end Fault

/-- A fault: its cause and, once known, the address of the instruction. -/
structure Fault where
  /-- What went wrong. -/
  cause : Fault.Cause
  /-- The address of the instruction that met the fault. -/
  pc : Option Int := none
  deriving DecidableEq, Repr

namespace Fault

/-- The sentence for a fault, followed by the address of the instruction if known. -/
def message (f : Fault) : String :=
  match f.pc with
  | none => f.cause.message
  | some pc => f.cause.message ++ " (pc=0x" ++ Text.hex 3 pc ++ ")"

/-- The kind of fault and its message, as a report line shows them. -/
def report (f : Fault) : String := f.cause.name ++ ": " ++ f.message

/-- Attach the address of the faulting instruction, unless one is attached already.  A fault that
is none of the program's doing goes by as it is. -/
def locate (f : Fault) (pc : Int) : Fault :=
  if f.cause.isOfProgram then { f with pc := some (f.pc.getD pc) } else f

@[simp] theorem locate_mk_none (c : Cause) (pc : Int) :
    (Fault.mk c none).locate pc = ⟨c, if c.isOfProgram then some pc else none⟩ := by
  unfold locate
  split <;> rfl

/-! ## Results that may be faults -/

section Results
variable {α β ε : Type}

theorem bind_eq_ok_iff {r : Except Fault α} {g : α → Except Fault β} {b : β} :
    r >>= g = .ok b ↔ ∃ a, r = .ok a ∧ g a = .ok b := by
  cases r <;> simp [bind, Except.bind]

theorem bind_eq_error_iff {r : Except Fault α} {g : α → Except Fault β} {f : Fault} :
    r >>= g = .error f ↔ r = .error f ∨ ∃ a, r = .ok a ∧ g a = .error f := by
  cases r <;> simp [bind, Except.bind]

theorem map_eq_ok_iff {r : Except Fault α} {g : α → β} {b : β} :
    r.map g = .ok b ↔ ∃ a, r = .ok a ∧ g a = b := by
  cases r <;> simp [Except.map]

theorem map_eq_error_iff {r : Except Fault α} {g : α → β} {f : Fault} :
    r.map g = .error f ↔ r = .error f := by
  cases r <;> simp [Except.map]

theorem mapError_eq_ok_iff {r : Except Fault α} {g : Fault → ε} {a : α} :
    r.mapError g = .ok a ↔ r = .ok a := by
  cases r with
  | ok b =>
    constructor
    · intro h
      rw [Except.ok.inj h]
    · intro h
      rw [Except.ok.inj h]
      rfl
  | error e =>
    constructor
    · intro h
      cases h
    · intro h
      cases h

theorem mapError_eq_error_iff {r : Except Fault α} {g : Fault → ε} {f : ε} :
    r.mapError g = .error f ↔ ∃ e, r = .error e ∧ f = g e := by
  cases r with
  | ok b =>
    constructor
    · intro h
      cases h
    · rintro ⟨_, h, _⟩
      cases h
  | error e =>
    constructor
    · intro h
      exact ⟨e, rfl, (Except.error.inj h).symm⟩
    · rintro ⟨_, h, rfl⟩
      rw [← Except.error.inj h]
      rfl

end Results

end Fault

end ChipEight
