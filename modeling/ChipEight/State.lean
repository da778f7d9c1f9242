import ChipEight.Bitmap
import ChipEight.CallStack
import ChipEight.Dialect
import ChipEight.Keypad
import ChipEight.Memory
import ChipEight.Threefry

/-! # The state of the machine

Everything an instruction can read or write.  Any combination of values is a state;
which ones a program can reach is a matter for theorems about runs, not for the type,
because a state may also be set up by hand.
-/
namespace ChipEight

/-- The number of the register that receives flags. -/
def flagRegister : Fin 16 := 15

/-- The state of the machine. -/
structure State where
  /-- The bytes of memory. -/
  memory : Memory
  /-- The general registers `V0` to `VF`. -/
  registers : Vector UInt8 16
  /-- The index register `I`. -/
  index : UInt16
  /-- The address of the next instruction. -/
  pc : UInt16
  /-- The pending calls. -/
  stack : CallStack 16
  /-- The picture shown. -/
  screen : Screen
  /-- The timer that programs read. -/
  delayTimer : UInt8
  /-- The timer that sounds the tone while it runs. -/
  soundTimer : UInt8
  /-- The keys of this frame. -/
  keypad : Keypad
  /-- The keys of the frame before, from which releases are told. -/
  previousKeypad : Keypad
  /-- The state of the random number generator. -/
  random : RandomKey
  /-- The dialect followed. -/
  dialect : Dialect
  deriving DecidableEq

namespace State

/-- A machine that has just been switched on: the glyphs are in memory and nothing else
is set. -/
def initial (random : RandomKey) (dialect : Dialect) : State where
  memory := .initial
  registers := Vector.replicate 16 0
  index := 0
  pc := UInt16.ofNat programStart
  stack := .empty 16
  screen := .blank
  delayTimer := 0
  soundTimer := 0
  keypad := .allUp
  previousKeypad := .allUp
  random := random
  dialect := dialect

/-- Copy a program image to `programStart` and make it the next to run.  An image that
does not fit is refused by the address of its last byte; the empty image changes
nothing. -/
def load (s : State) (image : List UInt8) : Except Fault State :=
  let last := programStart + image.length
  if memorySize < last then .error { cause := .outOfBoundsAddress (last - 1 : Nat) }
  else if image.isEmpty then .ok s
  else .ok {
    s with
    memory := s.memory.store programStart image
    pc := UInt16.ofNat programStart }

/-- Whether the tone is to be heard. -/
def soundActive (s : State) : Bool := 0 < s.soundTimer

/-! ## Loading -/

section Loading
variable {s s' : State} {image : List UInt8}

theorem load_nil (s : State) : s.load [] = .ok s := rfl

/-- An image that does not fit is refused by the address of its last byte. -/
theorem load_of_lt (h : 3584 < image.length) :
    s.load image =
      .error { cause := .outOfBoundsAddress (programStart + image.length - 1 : Nat) } := by
  have hlong : memorySize < programStart + image.length := by
    show 4096 < 512 + image.length
    omega
  exact if_pos hlong

/-- An image that fits is stored and is the next to run. -/
theorem load_of_le (h : image.length ≤ 3584) (hne : image ≠ []) :
    s.load image = .ok { s with
      memory := s.memory.store programStart image
      pc := UInt16.ofNat programStart } := by
  have hfits : ¬memorySize < programStart + image.length := by
    show ¬4096 < 512 + image.length
    omega
  rw [load]
  simp only [if_neg hfits, List.isEmpty_iff, if_neg hne]

/-- What loading does with an image that fits. -/
theorem exists_load_of_le (s : State) (h : image.length ≤ 3584) :
    ∃ s', s.load image = .ok s' ∧
      (s' = s ∨ s' = { s with
        memory := s.memory.store programStart image
        pc := UInt16.ofNat programStart }) := by
  by_cases hne : image = []
  · exact ⟨s, hne ▸ s.load_nil, Or.inl rfl⟩
  · exact ⟨_, load_of_le h hne, Or.inr rfl⟩

theorem load_ok (h : s.load image = .ok s') :
    s' = s ∨ s' = { s with
      memory := s.memory.store programStart image
      pc := UInt16.ofNat programStart } := by
  rcases Nat.lt_or_ge 3584 image.length with hlt | hle
  · rw [load_of_lt hlt] at h
    cases h
  · obtain ⟨t, ht, hdone⟩ := s.exists_load_of_le hle
    obtain rfl := Except.ok.inj (ht.symm.trans h)
    exact hdone

theorem load_eq_error_iff {f : Fault} :
    s.load image = .error f ↔
      3584 < image.length ∧
        f = { cause := .outOfBoundsAddress (programStart + image.length - 1 : Nat) } := by
  constructor
  · intro h
    rcases Nat.lt_or_ge 3584 image.length with hlt | hle
    · rw [load_of_lt hlt] at h
      exact ⟨hlt, (Except.error.inj h).symm⟩
    · obtain ⟨t, ht, -⟩ := s.exists_load_of_le hle
      cases ht.symm.trans h
  · rintro ⟨hlt, rfl⟩
    exact load_of_lt hlt

end Loading

/-! ## Small changes -/

/-- Put a byte into a register. -/
def setRegister (s : State) (r : Fin 16) (v : UInt8) : State :=
  { s with registers := s.registers.setIfInBounds r v }

/-- Go on at an address. -/
def jumpTo (s : State) (a : UInt16) : State := { s with pc := a }

/-- Go on past the next instruction if `taken`. -/
def skipNext (s : State) (taken : Bool) : State := if taken then { s with pc := s.pc + 2 } else s

@[simp] theorem setRegister_memory (s : State) (r v) : (s.setRegister r v).memory = s.memory := rfl

@[simp] theorem setRegister_registers (s : State) (r v) :
    (s.setRegister r v).registers = s.registers.setIfInBounds r v := rfl

@[simp] theorem setRegister_pc (s : State) (r v) : (s.setRegister r v).pc = s.pc := rfl

@[simp] theorem setRegister_index (s : State) (r v) : (s.setRegister r v).index = s.index := rfl

@[simp] theorem setRegister_stack (s : State) (r v) : (s.setRegister r v).stack = s.stack := rfl

@[simp] theorem jumpTo_pc (s : State) (a) : (s.jumpTo a).pc = a := rfl

end State

end ChipEight
