import ChipEight.Proofs.KeyWaits

/-! # What an instruction writes

An instruction leaves alone whatever it is not there to change.  `WritesByte`, `WritesRegister`,
`WritesIndex` and `MovesPc` are the tables of what is written, by operation; for the rest of the
state the table has one line, so that `Operation.Footprint`, which says that everything else is as
it was, names the operations themselves.

The lemmas `Effect.memory_of_not_written` to `Effect.previousKeypad` go through the effects of the
operations once for each part of the state.  As no hop of a machine-code call changes anything,
the footprint of a word is that of the instruction it lands on (`State.execute_footprint`).
-/
namespace ChipEight

theorem Memory.get_store_of_outside (m : Memory) {start : Nat} {bytes : List UInt8} {a : Fin 4096}
    (h : ¬(start ≤ a.val ∧ a.val - start < bytes.length)) :
    (m.store start bytes).get a = m.get a :=
  (m.getElem_store start bytes a.val a.isLt).trans (dif_neg h)

/-- Whether an operation on two registers leaves a flag in `VF`, in a dialect. -/
def Alu.Op.RaisesFlag (d : Dialect) : Alu.Op → Prop
  | assign => False
  | or | and | xor => d.logicResetsVF = true
  | add | subtract | shiftRight | subtractFrom | shiftLeft => True

theorem Alu.Op.raisesFlag_of_flag {op : Alu.Op} {d : Dialect} {a b f : UInt8}
    (h : (if op.isLogic && !d.logicResetsVF then none else (op.apply a b).2) = some f) :
    op.RaisesFlag d := by
  cases op with
  | assign => cases h
  | or | and | xor =>
    cases hd : d.logicResetsVF with
    | true => exact hd
    | false =>
      rw [hd] at h
      cases h
  | _ => trivial

namespace State

theorem get_setRegister_of_ne (s : State) {x r : Fin 16} (v : UInt8) (h : r ≠ x) :
    (s.setRegister x v).registers.get r = s.registers.get r := by
  have hne : x.val ≠ r.val := fun heq => h (Fin.ext heq.symm)
  exact Vector.getElem_setIfInBounds_ne r.isLt hne

theorem get_setRegister_self (s : State) (x : Fin 16) (v : UInt8) :
    (s.setRegister x v).registers.get x = v :=
  Vector.getElem_setIfInBounds_self x.isLt

/-- Of the registers, drawing a sprite changes the flag alone. -/
theorem withSprite_registers (s : State) (x y height : Fin 16) :
    ∃ flag, (s.withSprite x y height).registers = (s.setRegister flagRegister flag).registers := by
  unfold withSprite
  generalize Sprite.mask _ _ _ = mask
  exact ⟨Alu.Op.flagByte (s.screen.overlaps mask), rfl⟩

theorem get_combine_of_ne (s : State) {op : Alu.Op} {x y r : Fin 16} (hx : r ≠ x)
    (hflag : ¬(r = flagRegister ∧ op.RaisesFlag s.dialect)) :
    (s.combine op x y).registers.get r = s.registers.get r := by
  unfold combine
  simp only
  split
  · exact s.get_setRegister_of_ne _ hx
  · rename_i f hf
    have hne : r ≠ flagRegister := fun heq => hflag ⟨heq, Alu.Op.raisesFlag_of_flag hf⟩
    exact (get_setRegister_of_ne _ f hne).trans (s.get_setRegister_of_ne _ hx)

end State

namespace Operation

/-! ## The tables -/

/-- The bytes of memory that are written. -/
def WritesByte (w : Word) (s : State) (a : Fin 4096) : Operation → Prop
  | storeDecimal => s.index.toNat ≤ a.val ∧ a.val ≤ s.index.toNat + 2
  | storeRegisters => s.index.toNat ≤ a.val ∧ a.val ≤ s.index.toNat + w.x.val
  | _ => False

/-- The registers that are written. -/
def WritesRegister (w : Word) (s : State) (r : Fin 16) : Operation → Prop
  | setByte | addByte | random | readDelay => r = w.x
  | waitKey => r = w.x ∧ ¬s.previousKeypad.Held s.keypad
  | alu op => r = w.x ∨ r = flagRegister ∧ op.RaisesFlag s.dialect
  | draw => r = flagRegister
  | loadRegisters => r ≤ w.x
  | _ => False

/-- The operations that write the index register. -/
def WritesIndex (d : Dialect) : Operation → Prop
  | setIndex | addIndex | pointGlyph => True
  | storeRegisters | loadRegisters => d.memoryAdvancesIndex = true
  | _ => False

/-- The operations that go on elsewhere than past their word. -/
def MovesPc (w : Word) (s : State) : Operation → Prop
  | jump | call | returnFromCall | jumpRelative => True
  | skip test => s.passes w test = true
  | waitKey => s.previousKeypad.Held s.keypad
  | _ => False

/-- Nothing has changed from `s` to `s'` but what the operation writes. -/
structure Footprint (op : Operation) (w : Word) (s s' : State) : Prop where
  memory : ∀ a, ¬op.WritesByte w s a → s'.memory.get a = s.memory.get a
  registers : ∀ r, ¬op.WritesRegister w s r → s'.registers.get r = s.registers.get r
  index : ¬op.WritesIndex s.dialect → s'.index = s.index
  pc : ¬op.MovesPc w s → s'.pc = s.pc
  pc_skip : ∀ test, op = skip test → s.passes w test = true → s'.pc = s.pc + 2
  pc_wait : op = waitKey → s.previousKeypad.Held s.keypad → s'.pc = s.pc - 2
  stack : op ≠ call → op ≠ returnFromCall → s'.stack = s.stack
  screen : op ≠ clearScreen → op ≠ draw → s'.screen = s.screen
  delayTimer : op ≠ setDelay → s'.delayTimer = s.delayTimer
  soundTimer : op ≠ setSound → s'.soundTimer = s.soundTimer
  random : op ≠ random → s'.random = s.random
  keypad : s'.keypad = s.keypad
  previousKeypad : (op = waitKey → s.previousKeypad.Held s.keypad) →
    s'.previousKeypad = s.previousKeypad
  dialect : s'.dialect = s.dialect

/-! ## One part of the state at a time -/

section Parts
variable {op : Operation} {w : Word} {s s' : State}

theorem Effect.memory_of_not_written (h : op.Effect w s s') {a : Fin 4096}
    (ha : ¬op.WritesByte w s a) : s'.memory.get a = s.memory.get a := by
  cases h with
  | storeDecimal =>
    apply Memory.get_store_of_outside
    rintro ⟨hle, hlt⟩
    have hlen : (State.decimalDigits (s.registers.get w.x)).length = 3 := rfl
    exact ha ⟨hle, by omega⟩
  | storeRegisters =>
    apply Memory.get_store_of_outside
    rintro ⟨hle, hlt⟩
    have hlen := List.length_take_le (w.x.val + 1) s.registers.toList
    exact ha ⟨hle, by omega⟩
  | _ => rfl

theorem Effect.register_of_not_written (h : op.Effect w s s') {r : Fin 16}
    (hr : ¬op.WritesRegister w s r) : s'.registers.get r = s.registers.get r := by
  cases h with
  | setByte | addByte | random | readDelay => exact State.get_setRegister_of_ne s _ hr
  | takeKey hk =>
    have hreleased := (Keypad.released?_eq_some_iff_released.mp hk).not_held
    exact State.get_setRegister_of_ne s _ fun hx => hr ⟨hx, hreleased⟩
  | alu =>
    obtain ⟨hx, hflag⟩ := not_or.mp hr
    exact State.get_combine_of_ne s hx hflag
  | draw =>
    obtain ⟨flag, hflag⟩ := s.withSprite_registers w.x w.y w.n
    rw [hflag]
    exact s.get_setRegister_of_ne flag hr
  | loadRegisters =>
    have hlt : ¬r.val ≤ w.x.val := hr
    refine (Vector.getElem_ofFn r.isLt).trans (if_neg hlt)
  | _ => rfl

theorem Effect.index_of_not_written (h : op.Effect w s s') (hno : ¬op.WritesIndex s.dialect) :
    s'.index = s.index := by
  cases h with
  | setIndex | addIndex | pointGlyph => exact absurd trivial hno
  | storeRegisters | loadRegisters => exact if_neg hno
  | _ => rfl

theorem Effect.pc_of_not_moved (h : op.Effect w s s') (hno : ¬op.MovesPc w s) : s'.pc = s.pc := by
  cases h with
  | jump | call | returnFromCall | jumpRelative => exact absurd trivial hno
  | skip ht => exact absurd ht hno
  | wait hk => exact absurd (Keypad.released?_eq_none_iff_held.mp hk) hno
  | _ => rfl

theorem Effect.pc_of_skip {test : SkipTest} (h : (Operation.skip test).Effect w s s')
    (ht : s.passes w test = true) : s'.pc = s.pc + 2 := by
  cases h with
  | pass hf => cases ht.symm.trans hf
  | skip => rfl

theorem Effect.of_held (h : waitKey.Effect w s s') (hheld : s.previousKeypad.Held s.keypad) :
    s' = { s with pc := s.pc - 2 } := by
  cases h with
  | wait => rfl
  | takeKey hk => exact absurd hheld (Keypad.released?_eq_some_iff_released.mp hk).not_held

theorem Effect.screen (h : op.Effect w s s') (hclear : op ≠ .clearScreen) (hdraw : op ≠ .draw) :
    s'.screen = s.screen := by
  cases h with
  | clearScreen => exact absurd rfl hclear
  | draw => exact absurd rfl hdraw
  | _ => rfl

theorem Effect.delayTimer (h : op.Effect w s s') (hno : op ≠ .setDelay) :
    s'.delayTimer = s.delayTimer := by
  cases h with
  | setDelay => exact absurd rfl hno
  | _ => rfl

theorem Effect.soundTimer (h : op.Effect w s s') (hno : op ≠ .setSound) :
    s'.soundTimer = s.soundTimer := by
  cases h with
  | setSound => exact absurd rfl hno
  | _ => rfl

theorem Effect.random_of_ne (h : op.Effect w s s') (hno : op ≠ .random) :
    s'.random = s.random := by
  cases h with
  | random => exact absurd rfl hno
  | _ => rfl

theorem Effect.dialect (h : op.Effect w s s') : s'.dialect = s.dialect := by
  cases h <;> rfl

theorem Effect.previousKeypad (h : op.Effect w s s')
    (hheld : op = waitKey → s.previousKeypad.Held s.keypad) :
    s'.previousKeypad = s.previousKeypad := by
  by_cases hop : op = waitKey
  · subst hop
    rw [h.of_held (hheld rfl)]
  · exact h.keypads.2 hop

/-- **What an operation writes.** -/
theorem Effect.footprint (h : op.Effect w s s') : op.Footprint w s s' where
  memory _ := h.memory_of_not_written
  registers _ := h.register_of_not_written
  index := h.index_of_not_written
  pc := h.pc_of_not_moved
  pc_skip := by
    rintro test rfl ht
    exact h.pc_of_skip ht
  pc_wait := by
    rintro rfl hheld
    rw [h.of_held hheld]
  stack hcall hreturn := by
    rcases h.stack with ⟨-, hsame⟩ | ⟨rfl, -⟩ | ⟨rfl, -⟩
    · exact hsame
    · exact absurd rfl hcall
    · exact absurd rfl hreturn
  screen := h.screen
  delayTimer := h.delayTimer
  soundTimer := h.soundTimer
  random := h.random_of_ne
  keypad := h.keypads.1
  previousKeypad := h.previousKeypad
  dialect := h.dialect

end Parts

end Operation

namespace State

/-- **The footprint of a word.**

Executing a word runs the instruction that it comes down to, itself or the end of its chain of
machine-code calls, in the very state it was executed in.  That instruction writes what the tables
say and leaves everything else as it was; the program counter, if it moves without a jump, skips
two bytes further or steps back two. -/
theorem execute_footprint {s s' : State} {v : Word} (h : s.execute v = .ok s') :
    ∃ (op : Operation) (w : Word), s.memory.LandsOn v w ∧ op.Matches w ∧
      op.run w s = .ok s' ∧ op.Footprint w s s' := by
  obtain ⟨op, w, hsettle, hrun⟩ := execute_eq_ok_iff.mp h
  obtain ⟨-, -, -, -, hop⟩ := settle_eq_ok_iff.mp hsettle
  exact ⟨op, w, landsOn_of_settle hsettle, hop, hrun, (Operation.effect_of_run hrun).footprint⟩

/-- A chain of one hop lands on a word that stores two registers at the index register. -/
theorem execute_footprint_sample :
    let s : State := { State.initial (.ofSeed 0) .classic with
      memory := Memory.initial.store programStart [0xF1, 0x55]
      index := 0x300 }
    let s' : State := { s with memory := s.memory.store 0x300 [0, 0], index := 0x302 }
    s.execute 0x0200 = .ok s' ∧
      (∀ a : Fin 4096, a.val ≠ 0x300 → a.val ≠ 0x301 → s'.memory.get a = s.memory.get a) ∧
      (∀ r, s'.registers.get r = s.registers.get r) ∧ s'.pc = s.pc := by
  intro s s'
  have hland : s.memory.Passes 0x0200 1 ∧ s.memory.chain 0x0200 1 = 0xF155 := by decide +kernel
  have hop : Operation.storeRegisters.Matches (s.memory.chain 0x0200 1) := by
    rw [hland.2]
    decide
  have hsettle := settle_of_matches (s := s) (v := 0x0200) (by decide) hland.1 hop
  rw [hland.2] at hsettle
  have hrun : Operation.storeRegisters.run 0xF155 s = .ok s' := by
    show s.storeRegisters 1 = _
    rw [storeRegisters_eq, checkSpan_of_lt (by decide)]
    rfl
  have hexec := execute_eq_ok_iff.mpr ⟨_, _, hsettle, hrun⟩
  obtain ⟨op, w, hlands, hmatches, -, hfoot⟩ := execute_footprint hexec
  have hsame := settle_eq_ok_iff_landsOn.mpr ⟨hlands, hmatches⟩
  obtain ⟨rfl, rfl⟩ := Prod.mk.inj (Except.ok.inj (hsettle.symm.trans hsame))
  refine ⟨hexec, fun a h₀ h₁ => hfoot.memory a ?_, fun r => hfoot.registers r id, hfoot.pc id⟩
  rintro ⟨hle, hlt⟩
  have hindex : s.index.toNat = 0x300 := rfl
  have hx : (0xF155 : Word).x.val = 1 := rfl
  omega

end State

end ChipEight
