import ChipEight.Proofs.FrameRun

/-! # The states a program can reach

A `Reachable` state is met when a program image is loaded into a machine that was just
switched on, frames begin with any keys, and steps succeed, in any order.  Every frame is
such a sequence (`Reachable.runFrame`), and so is every beginning of one.

`State.Bounded` is the invariant: the index register is an address, the stack is tidy, and
the program counter is at most `1002`.  That is two more than the first number past memory,
since a word is fetched from `FFE` at most and a skip passes one more; no fetch and no skip
in a bounded state wraps the counter (`Bounded.pc_add`).
-/
namespace ChipEight

namespace State

/-- What holds of every state that a program can reach. -/
structure Bounded (s : State) : Prop where
  index_le : s.index.toNat ≤ 0xFFF
  pc_le : s.pc.toNat ≤ 0x1002
  tidy : s.stack.Tidy

/-- The state after some frames, each with its keys and its budget. -/
def runFrames (s : State) (frames : List (Option Keypad × Int)) : State :=
  frames.foldl (fun s frame => (s.runFrame frame.1 frame.2).state) s

variable {s s' : State} {w : Word}

/-! ## The invariant, one step at a time -/

theorem past_pc_toNat (h : s.pc.toNat ≤ 0xFFE) : s.past.pc.toNat = s.pc.toNat + 2 := by
  show (s.pc + 2).toNat = s.pc.toNat + 2
  rw [UInt16.toNat_add]
  exact Nat.mod_eq_of_lt (by simp only [UInt16.toNat_ofNat]; omega)

/-- Passing a word, and skipping the next, does not wrap the program counter. -/
theorem Bounded.pc_add (hs : s.Bounded) :
    (s.pc + 2).toNat = s.pc.toNat + 2 ∧ (s.pc + 2 + 2).toNat = s.pc.toNat + 4 := by
  have hpc := hs.pc_le
  have htwo : (2 : UInt16).toNat = 2 := rfl
  constructor
  · rw [UInt16.toNat_add, htwo]
    omega
  · rw [UInt16.toNat_add, UInt16.toNat_add, htwo]
    omega

theorem bounded_initial (random : RandomKey) (dialect : Dialect) :
    (initial random dialect).Bounded where
  index_le := Nat.zero_le _
  pc_le := show (UInt16.ofNat programStart).toNat ≤ 0x1002 by decide
  tidy := CallStack.tidy_empty

theorem Bounded.load {image : List UInt8} (hs : s.Bounded) (h : s.load image = .ok s') :
    s'.Bounded := by
  rcases load_ok h with rfl | rfl
  · exact hs
  · exact ⟨hs.index_le, show (UInt16.ofNat programStart).toNat ≤ 0x1002 by decide, hs.tidy⟩

theorem Bounded.beginFrame (hs : s.Bounded) (keys : Option Keypad) :
    (s.beginFrame keys).Bounded := ⟨hs.index_le, hs.pc_le, hs.tidy⟩

/-- **A step keeps a state bounded.** -/
theorem Bounded.step (hs : s.Bounded) (h : s.step = .ok (s', w)) : s'.Bounded := by
  obtain ⟨hpc, op, -, -, he⟩ := step_ok h
  have hpast := past_pc_toNat hpc
  refine ⟨?_, ?_, step_tidy hs.tidy h⟩
  · rcases he.index with heq | hlt
    · rw [heq]
      exact hs.index_le
    · omega
  · rcases he.pc with heq | heq | ⟨-, heq⟩ | hlt | ⟨stack, hpop⟩
    · rw [heq]
      omega
    · rw [heq, UInt16.toNat_add, hpast]
      simp only [UInt16.toNat_ofNat]
      omega
    · rw [heq, past_pc_sub]
      exact hs.pc_le
    · omega
    · have hlt := hs.tidy.popped_lt hpop
      omega

end State

/-! ## The invariant, along every run -/

/-- The states met when an image is loaded, frames begin and steps succeed. -/
inductive Reachable : State → Prop where
  | load {random : RandomKey} {dialect : Dialect} {image : List UInt8} {s : State}
    (h : (State.initial random dialect).load image = .ok s) : Reachable s
  | beginFrame {s : State} (h : Reachable s) (keys : Option Keypad) :
    Reachable (s.beginFrame keys)
  | step {s s' : State} {w : Word} (h : Reachable s) (hstep : s.step = .ok (s', w)) :
    Reachable s'

namespace Reachable

variable {s t : State}

theorem run {steps : List Taken} (hs : Reachable s) (h : Run s steps t) : Reachable t :=
  h.invariant (fun hr hstep => hr.step hstep) hs

/-- A frame leads from one reachable state to another. -/
theorem runFrame (hs : Reachable s) (keys : Option Keypad) (budget : Int) :
    Reachable (s.runFrame keys budget).state := by
  obtain ⟨steps, hrun, -⟩ := s.runFrame_closes keys budget
  exact (hs.beginFrame keys).run hrun

theorem runFrames (hs : Reachable s) (frames : List (Option Keypad × Int)) :
    Reachable (s.runFrames frames) := by
  induction frames generalizing s with
  | nil => exact hs
  | cons frame frames ih => exact ih (hs.runFrame frame.1 frame.2)

/-- **Every reachable state is bounded.** -/
theorem bounded (hs : Reachable s) : s.Bounded := by
  induction hs with
  | load h => exact (State.bounded_initial _ _).load h
  | beginFrame _ keys ih => exact ih.beginFrame keys
  | step _ hstep ih => exact ih.step hstep

theorem valid_of_closes {budget : Nat} {steps : List Taken} {f : Frame} (hf : Reachable f.state)
    (h : Closes budget steps f.state f.ending) : f.valid = .ok f := by
  rcases h.valid_or with hvalid | ⟨hstray, -⟩
  · exact hvalid
  · exact absurd hf.bounded.tidy.inReach hstray

/-- The host is given an account of every frame that begins in a reachable state. -/
theorem valid_runFrame (hs : Reachable s) (keys : Option Keypad) (budget : Int) :
    (s.runFrame keys budget).valid = .ok (s.runFrame keys budget) :=
  State.valid_runFrame_of_inReach hs.bounded.tidy.inReach keys budget

end Reachable

namespace State

/-- **The bounds of a program's states.**

Load any image that fits, and run any frames with any keys and budgets.  In the state they
leave, and in every state that steps lead to once one more frame has begun, the index
register is an address, the program counter is at most `1002`, the stack pointer counts at
most sixteen calls, every stack entry is an address, and those from the pointer on are zero.
So passing a word, skipping the next and stepping back over the first do not wrap the program
counter. -/
theorem bounded_of_load_of_runFrames {random : RandomKey} {dialect : Dialect}
    {image : List UInt8} {start : State}
    (h : (State.initial random dialect).load image = .ok start)
    (frames : List (Option Keypad × Int)) (keys : Option Keypad) {steps : List Taken} {t : State}
    (hrun : t = start.runFrames frames ∨
      Run ((start.runFrames frames).beginFrame keys) steps t) :
    t.index.toNat ≤ 0xFFF ∧ t.pc.toNat ≤ 0x1002 ∧
      0 ≤ t.stack.pointer ∧ t.stack.pointer ≤ 16 ∧
      (∀ i : Fin 16, (t.stack.entries.get i).toNat < 4096) ∧
      (∀ i : Fin 16, t.stack.pointer ≤ i.val → t.stack.entries.get i = 0) ∧
      (t.pc + 2).toNat = t.pc.toNat + 2 ∧ (t.pc + 2 + 2).toNat = t.pc.toNat + 4 ∧
      t.pc + 2 - 2 = t.pc := by
  have hframes : Reachable (start.runFrames frames) := (Reachable.load h).runFrames frames
  have ht : t.Bounded := by
    rcases hrun with rfl | hrun
    · exact hframes.bounded
    · exact ((hframes.beginFrame keys).run hrun).bounded
  exact ⟨ht.index_le, ht.pc_le, ht.tidy.nonneg, ht.tidy.le_capacity,
    fun i => ht.tidy.lt_entry i.val i.isLt, fun i hi => ht.tidy.free i.val i.isLt hi,
    ht.pc_add.1, ht.pc_add.2, UInt16.add_sub_cancel _ _⟩

/-- A program that points somewhere and calls a subroutine in its first frame, and in its second
skips the first word there: the subroutine is about to return. -/
theorem bounded_of_load_of_runFrames_sample :
    let image : List UInt8 :=
      [0xA3, 0x21, 0x22, 0x06, 0x12, 0x04, 0x30, 0x00, 0x00, 0xE0, 0x00, 0xEE]
    let start : State := { initial (.ofSeed 0) .classic with
      memory := Memory.initial.store programStart image }
    let s := (start.runFrames [(none, 2)]).beginFrame none
    let t := s.past.skipNext true
    (initial (.ofSeed 0) .classic).load image = .ok start ∧ Run s [⟨s, 0x3000, t⟩] t ∧
      t.pc = 0x20A ∧ t.index = 0x321 ∧ t.stack.pointer = 1 ∧ t.stack.entries.get 0 = 0x204 ∧
      t.index.toNat ≤ 0xFFF ∧ t.pc.toNat ≤ 0x1002 ∧ t.stack.pointer ≤ 16 ∧
      (∀ i : Fin 16, (t.stack.entries.get i).toNat < 4096) ∧ t.pc + 2 - 2 = t.pc := by
  intro image start s t
  have hload : (initial (.ofSeed 0) .classic).load image = .ok start := rfl
  have hword : s.word = 0x3000 := by decide +kernel
  have hskips : s.past.passes 0x3000 .equalByte = true := by decide +kernel
  have hop : (Operation.skip .equalByte).Matches 0x3000 := by decide
  have htaken : (Operation.skip .equalByte).run 0x3000 s.past = .ok t :=
    congrArg (fun taken => Except.ok (s.past.skipNext taken)) hskips
  have hstep : s.step = .ok (t, 0x3000) :=
    step_of_matches (by decide +kernel) (Nat.zero_le _) (Memory.passes_zero _) hword hop htaken
  have hrun : Run s [⟨s, 0x3000, t⟩] t := .cons hstep (.nil t)
  have hmet : t.pc = 0x20A ∧ t.index = 0x321 ∧ t.stack.pointer = 1 ∧
      t.stack.entries.get 0 = 0x204 := by decide +kernel
  obtain ⟨hindex, hpc, -, hpointer, hentries, -, -, -, hback⟩ :=
    bounded_of_load_of_runFrames hload [(none, 2)] none (Or.inr hrun)
  obtain ⟨hat, hto, hdepth, hcaller⟩ := hmet
  exact ⟨hload, hrun, hat, hto, hdepth, hcaller, hindex, hpc, hpointer, hentries, hback⟩

end State

end ChipEight
