import ChipEight.Execution

/-! # One instruction

A step fetches the word at the program counter, finds the operation it stands for and
applies it.  A machine-code call stands for the word at the address it names, which may
be another such call; `State.follow` passes through at most `maxHops` of them, so every
chain ends, in an operation or in a fault.

`State.execute` runs a word that need not come from memory: a machine-code call has a handler of
its own, `State.runMachineCode`.  `State.step` does not go through that handler, for it has to tell
which word ran in the end; `State.settle` is its own way to the operation, and comes to the same
(`execute_eq_settle`).  It also tells where a fault happened.
-/
namespace ChipEight

namespace State

/-- The operation at the end of a chain of machine-code calls, and its word, within
the hops left.  No hop changes the state. -/
def follow (s : State) : (hops : Nat) → Word → Except Fault (Operation × Word)
  | 0, w => .error { cause := .invalidOpcode w.toNat .endlessChain }
  | hops + 1, w => do
    let target ← s.memory.wordAt w.nnn.toNat
    match ← target.resolve with
    | .operation op => return (op, target)
    | .machineCode => s.follow hops target

/-- Run the end of the chain that a machine-code call begins, in place. -/
def runMachineCode (s : State) (w : Word) : Except Fault State := do
  let (op, target) ← s.follow maxHops w
  op.run target s

/-- Run a word in place. -/
def execute (s : State) (w : Word) : Except Fault State := do
  match ← w.resolve with
  | .operation op => op.run w s
  | .machineCode => s.runMachineCode w

/-- The operation that a word comes down to, and the word that stands for it: the word
itself, or the end of the chain it begins. -/
def settle (s : State) (w : Word) : Except Fault (Operation × Word) := do
  match ← w.resolve with
  | .operation op => return (op, w)
  | .machineCode => s.follow maxHops w

/-- The word at the program counter, which moves past it. -/
def fetch (s : State) : Except Fault (State × Word) := do
  let w ← s.memory.wordAt s.pc.toNat
  return ({ s with pc := s.pc + 2 }, w)

/-- A step that does not yet say where a fault happened. -/
def stepHere (s : State) : Except Fault (State × Word) := do
  let (s, w) ← s.fetch
  -- from here on the program counter is past the word, which calls and skips rely on
  let (op, target) ← s.settle w
  let s ← op.run target s
  return (s, target)

/-- Run one instruction.  The word returned is the one that ran, at the end of a chain
if there was one; a fault of the program carries the address of the instruction. -/
def step (s : State) : Except Fault (State × Word) :=
  s.stepHere.mapError fun f => f.locate s.pc.toNat

/-! ## Chains, one hop at a time -/

theorem follow_zero (s : State) (w : Word) :
    s.follow 0 w = .error { cause := .invalidOpcode w.toNat .endlessChain } := rfl

theorem follow_succ (s : State) (hops : Nat) (w : Word) :
    s.follow (hops + 1) w = (do
      let target ← s.memory.wordAt w.nnn.toNat
      match ← target.resolve with
      | .operation op => return (op, target)
      | .machineCode => s.follow hops target) := rfl

/-! ## Two ways to run a word -/

/-- **The handler of machine-code calls and the search of a step come to the same**: executing a
word is running what it comes down to. -/
theorem execute_eq_settle (s : State) (w : Word) :
    s.execute w = s.settle w >>= fun settled => settled.1.run settled.2 s := by
  unfold execute settle runMachineCode
  cases w.resolve with
  | error f => rfl
  | ok dispatch =>
    cases dispatch with
    | operation op => rfl
    | machineCode =>
      generalize s.follow maxHops w = settled
      cases settled with
      | error f => rfl
      | ok p => rfl

end State

end ChipEight
