import ChipEight.Execution

/-! # What an operation can do

`Operation.Effect w s op s'` lists, operation by operation, what a run that succeeds has
made of the state, and `effect_of_run` is the only place where `Operation.run` is taken
apart for it.  Everything that holds of all operations alike is read off that list: the
stack changes in calls and returns only (`Effect.stack`), the program counter moves in one of
five ways (`Effect.pc`), and the index register changes to an address or not at all
(`Effect.index`).

A run that is refused does not know where it stands, and of the causes of faults it can
meet only some (`run_error`).
-/
namespace ChipEight

/-! ## Success -/

/-- What an operation has made of a state if it was not refused. -/
inductive Operation.Effect (w : Word) (s : State) : Operation → State → Prop where
  | clearScreen : Effect w s .clearScreen { s with screen := .blank }
  | returnFromCall {stack : CallStack 16} {a : UInt16} (h : s.stack.pop = .ok (stack, a)) :
    Effect w s .returnFromCall { s with stack := stack, pc := a }
  | jump : Effect w s .jump { s with pc := w.nnn }
  | call {stack : CallStack 16} (h : s.stack.push s.pc.toNat = .ok stack) :
    Effect w s .call { s with stack := stack, pc := w.nnn }
  | pass {test : SkipTest} (h : s.passes w test = false) : Effect w s (.skip test) s
  | skip {test : SkipTest} (h : s.passes w test = true) :
    Effect w s (.skip test) { s with pc := s.pc + 2 }
  | setByte : Effect w s .setByte (s.setRegister w.x w.nn)
  | addByte : Effect w s .addByte (s.setRegister w.x (s.registers.get w.x + w.nn))
  | alu {op : Alu.Op} :
    Effect w s (.alu op) { s with registers := (s.combine op w.x w.y).registers }
  | setIndex : Effect w s .setIndex { s with index := w.nnn }
  | jumpRelative : Effect w s .jumpRelative { s with pc := (s.jumpRelative w).pc }
  | random : Effect w s .random (s.drawRandom w.x w.nn)
  | draw : Effect w s .draw (s.withSprite w.x w.y w.n)
  | readDelay : Effect w s .readDelay (s.setRegister w.x s.delayTimer)
  | wait (h : Keypad.released? s.previousKeypad s.keypad = none) :
    Effect w s .waitKey { s with pc := s.pc - 2 }
  | takeKey {k : Fin 16} (h : Keypad.released? s.previousKeypad s.keypad = some k) :
    Effect w s .waitKey
      { s.setRegister w.x (UInt8.ofNat k.val) with previousKeypad := s.keypad }
  | setDelay : Effect w s .setDelay { s with delayTimer := s.registers.get w.x }
  | setSound : Effect w s .setSound { s with soundTimer := s.registers.get w.x }
  | addIndex : Effect w s .addIndex (s.addToIndex w.x)
  | pointGlyph : Effect w s .pointGlyph (s.pointAtGlyph w.x)
  | storeDecimal : Effect w s .storeDecimal
      { s with memory := s.memory.store s.index.toNat (State.decimalDigits (s.registers.get w.x)) }
  | storeRegisters : Effect w s .storeRegisters {
      s with
      memory := s.memory.store s.index.toNat (s.registers.toList.take (w.x.val + 1))
      index := s.advancedIndex w.x }
  | loadRegisters : Effect w s .loadRegisters {
      s with
      registers := Vector.ofFn fun r =>
        if r.val ≤ w.x.val then s.memory.byteAt (s.index.toNat + r.val) else s.registers.get r
      index := s.advancedIndex w.x }

namespace Operation

variable {op : Operation} {w : Word} {s s' : State}

theorem combine_eq (s : State) (op : Alu.Op) (x y : Fin 16) :
    s.combine op x y = { s with registers := (s.combine op x y).registers } := by
  unfold State.combine
  simp only
  split <;> rfl

/-- **What a run that succeeds has done.** -/
theorem effect_of_run (h : op.run w s = .ok s') : op.Effect w s s' := by
  cases op with
  | returnFromCall =>
    obtain ⟨popped, hpop, rfl⟩ := Fault.map_eq_ok_iff.mp (s.returnFromCall_eq.symm.trans h)
    exact .returnFromCall hpop
  | call =>
    obtain ⟨stack, hpush, rfl⟩ :=
      Fault.map_eq_ok_iff.mp ((s.callSubroutine_eq w.nnn).symm.trans h)
    exact .call hpush
  | skip test =>
    obtain rfl := Except.ok.inj h
    cases ht : s.passes w test with
    | false => exact .pass ht
    | true => exact .skip ht
  | alu a =>
    obtain rfl := Except.ok.inj h
    rw [combine_eq]
    exact .alu
  | waitKey =>
    obtain rfl := Except.ok.inj h
    unfold State.waitForKey
    cases hk : Keypad.released? s.previousKeypad s.keypad with
    | none => exact .wait hk
    | some k => exact .takeKey hk
  | draw =>
    obtain rfl := State.drawSprite_eq_ok h
    exact .draw
  | storeDecimal =>
    obtain ⟨_, -, rfl⟩ := Fault.map_eq_ok_iff.mp ((s.storeDecimal_eq w.x).symm.trans h)
    exact .storeDecimal
  | storeRegisters =>
    obtain ⟨_, -, rfl⟩ := Fault.map_eq_ok_iff.mp ((s.storeRegisters_eq w.x).symm.trans h)
    exact .storeRegisters
  | loadRegisters =>
    obtain ⟨_, -, rfl⟩ := Fault.map_eq_ok_iff.mp ((s.loadRegisters_eq w.x).symm.trans h)
    exact .loadRegisters
  | _ =>
    obtain rfl := Except.ok.inj h
    constructor

/-! ## Control -/

/-- What is kept within twelve bits is an address. -/
theorem toNat_mod_lt (a : UInt16) : (a % 4096).toNat < 4096 := by
  rw [UInt16.toNat_mod]
  exact Nat.mod_lt _ (by decide)

/-- The stack changes by a call or by a return, which goes on at the address it takes. -/
theorem Effect.stack (h : op.Effect w s s') :
    (op ≠ .call ∧ s'.stack = s.stack) ∨
      (op = .call ∧ s.stack.push s.pc.toNat = .ok s'.stack) ∨
        (op = .returnFromCall ∧ s.stack.pop = .ok (s'.stack, s'.pc)) := by
  cases h with
  | call hpush => exact Or.inr (Or.inl ⟨rfl, hpush⟩)
  | returnFromCall hpop => exact Or.inr (Or.inr ⟨rfl, hpop⟩)
  | _ => exact Or.inl ⟨nofun, rfl⟩

/-- The program counter stays, passes one more word, steps back over the word that ran, goes
to an address of twelve bits, or goes back to where a call was made. -/
theorem Effect.pc (h : op.Effect w s s') :
    s'.pc = s.pc ∨ s'.pc = s.pc + 2 ∨ (op = .waitKey ∧ s'.pc = s.pc - 2) ∨
      s'.pc.toNat < 4096 ∨ ∃ stack, s.stack.pop = .ok (stack, s'.pc) := by
  cases h with
  | returnFromCall hpop => exact Or.inr (Or.inr (Or.inr (Or.inr ⟨_, hpop⟩)))
  | jump | call => exact Or.inr (Or.inr (Or.inr (Or.inl w.nnn_lt)))
  | skip => exact Or.inr (Or.inl rfl)
  | jumpRelative => exact Or.inr (Or.inr (Or.inr (Or.inl (toNat_mod_lt _))))
  | wait => exact Or.inr (Or.inr (Or.inl ⟨rfl, rfl⟩))
  | _ => exact Or.inl rfl

/-- The index register changes to an address or not at all. -/
theorem Effect.index (h : op.Effect w s s') : s'.index = s.index ∨ s'.index.toNat < 4096 := by
  cases h with
  | setIndex => exact Or.inr w.nnn_lt
  | addIndex => exact Or.inr (toNat_mod_lt _)
  | pointGlyph =>
    refine Or.inr ?_
    simp only [State.pointAtGlyph, fontStart, glyphSize, UInt16.toNat_ofNat', Nat.zero_add]
    exact Nat.lt_of_le_of_lt (Nat.mod_le _ _) (by omega)
  | storeRegisters | loadRegisters =>
    simp only [State.advancedIndex]
    split
    · refine Or.inr ?_
      rw [UInt16.toNat_ofNat']
      omega
    · exact Or.inl rfl
  | _ => exact Or.inl rfl

/-- The keys stay, and those of the frame before are overwritten by taking a key alone. -/
theorem Effect.keypads (h : op.Effect w s s') :
    s'.keypad = s.keypad ∧ (op ≠ .waitKey → s'.previousKeypad = s.previousKeypad) := by
  cases h with
  | wait | takeKey => exact ⟨rfl, fun hne => absurd rfl hne⟩
  | _ => exact ⟨rfl, fun _ => rfl⟩

end Operation

namespace State

variable {s : State}

/-! ## Refusal -/

/-- The causes that a step from this state can meet. -/
def CanMeet (s : State) : Fault.Cause → Prop
  | .invalidOpcode .. | .outOfBoundsAddress _ | .emptyStack | .fullStack _ => True
  | .strayPointer _ => ¬s.stack.InReach
  | .invalidRegister _ | .other _ => False

theorem CanMeet.isOfProgram_or {c : Fault.Cause} (h : s.CanMeet c) :
    c.isOfProgram = true ∨ ∃ p, c = .strayPointer p ∧ ¬s.stack.InReach := by
  cases c with
  | strayPointer p => exact Or.inr ⟨p, rfl, h⟩
  | _ => exact Or.inl rfl

end State

namespace Operation

variable {op : Operation} {w : Word} {s s' : State}

/-- **What a run that is refused can meet.**  It does not say where the fault happened. -/
theorem run_error {f : Fault} (h : op.run w s = .error f) :
    ∃ c, f = { cause := c } ∧ s.CanMeet c := by
  -- whatever address it is that memory does not have
  have span {x : Nat} (h : s.checkSpan x = .error f) : ∃ c, f = { cause := c } ∧ s.CanMeet c := by
    obtain ⟨-, rfl⟩ := State.checkSpan_eq_error_iff.mp h
    exact ⟨_, rfl, trivial⟩
  cases op with
  | returnFromCall =>
    rcases CallStack.pop_error (Fault.map_eq_error_iff.mp (s.returnFromCall_eq.symm.trans h))
      with rfl | ⟨p, rfl, hp⟩
    · exact ⟨_, rfl, trivial⟩
    · exact ⟨_, rfl, hp⟩
  | call =>
    rcases CallStack.push_error
        (Fault.map_eq_error_iff.mp ((s.callSubroutine_eq w.nnn).symm.trans h))
      with rfl | ⟨p, rfl, hp⟩
    · exact ⟨_, rfl, trivial⟩
    · exact ⟨_, rfl, hp⟩
  | draw =>
    obtain ⟨-, rfl⟩ := State.drawSprite_eq_error_iff.mp h
    exact ⟨_, rfl, trivial⟩
  | storeDecimal => exact span (Fault.map_eq_error_iff.mp ((s.storeDecimal_eq w.x).symm.trans h))
  | storeRegisters =>
    exact span (Fault.map_eq_error_iff.mp ((s.storeRegisters_eq w.x).symm.trans h))
  | loadRegisters =>
    exact span (Fault.map_eq_error_iff.mp ((s.loadRegisters_eq w.x).symm.trans h))
  | _ => cases h

end Operation

end ChipEight
