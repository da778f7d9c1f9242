import ChipEight.Proofs.FetchExecute

/-! # What an instruction reads

Of some components of a state hardly any instruction takes notice: the switches of the dialect,
the keys, the timers, the random numbers, the stack and the screen.  `Component.readers` is the
table of the operations that do.

`State.AgreeExcept c s t` says that two states differ at most in one component.  An operation that
does not read the component cannot tell them apart: it is refused in both for the same cause, or it
leads to states that again differ at most in that component (`Operation.run_alike`).  Whether a
word can be fetched and what it comes down to depends on memory and the program counter, so the
same is true of a step (`State.step_alike`), and by induction two runs stay together until the first
instruction that reads the component (`AgreeExcept.lockstep`).

A drawing reads the screen, but all that comes of it elsewhere is the flag: `AgreeButPicture`.
-/
namespace ChipEight

/-! ## Components and their readers -/

/-- The components of a state that few instructions read. -/
inductive Component where
  | shiftUsesVY
  | logicResetsVF
  | memoryAdvancesIndex
  | jumpUsesVX
  | keypad
  | previousKeypad
  | delayTimer
  | soundTimer
  | random
  | stack
  | screen
  deriving DecidableEq, Repr

namespace Component

/-- The operations that read a component. -/
def readers : Component → List Operation
  | shiftUsesVY => [.alu .shiftRight, .alu .shiftLeft]
  | logicResetsVF => [.alu .or, .alu .and, .alu .xor]
  | memoryAdvancesIndex => [.storeRegisters, .loadRegisters]
  | jumpUsesVX => [.jumpRelative]
  | keypad => [.skip .keyDown, .skip .keyUp, .waitKey]
  | previousKeypad => [.waitKey]
  | delayTimer => [.readDelay]
  | soundTimer => []
  | random => [.random]
  | stack => [.call, .returnFromCall]
  | screen => [.draw]

/-- The word is an instruction that reads the component. -/
def ReadIn (c : Component) (w : Word) : Prop := ∃ op ∈ c.readers, op.Matches w

instance (c : Component) (w : Word) : Decidable (c.ReadIn w) :=
  inferInstanceAs (Decidable (∃ op ∈ c.readers, op.Matches w))

/-- A component that an operation does not read is none of those that it does read. -/
theorem ne_of_readers {c d : Component} {op : Operation} (hno : op ∉ c.readers)
    (h : op ∈ d.readers) : c ≠ d := by
  rintro rfl
  exact hno h

end Component

/-! ## Agreement -/

namespace State

/-- Two states that differ at most in one component. -/
structure AgreeExcept (c : Component) (s t : State) : Prop where
  memory : s.memory = t.memory
  registers : s.registers = t.registers
  index : s.index = t.index
  pc : s.pc = t.pc
  stack : c ≠ .stack → s.stack = t.stack
  screen : c ≠ .screen → s.screen = t.screen
  delayTimer : c ≠ .delayTimer → s.delayTimer = t.delayTimer
  soundTimer : c ≠ .soundTimer → s.soundTimer = t.soundTimer
  keypad : c ≠ .keypad → s.keypad = t.keypad
  previousKeypad : c ≠ .previousKeypad → s.previousKeypad = t.previousKeypad
  random : c ≠ .random → s.random = t.random
  shiftUsesVY : c ≠ .shiftUsesVY → s.dialect.shiftUsesVY = t.dialect.shiftUsesVY
  logicResetsVF : c ≠ .logicResetsVF → s.dialect.logicResetsVF = t.dialect.logicResetsVF
  memoryAdvancesIndex : c ≠ .memoryAdvancesIndex →
    s.dialect.memoryAdvancesIndex = t.dialect.memoryAdvancesIndex
  jumpUsesVX : c ≠ .jumpUsesVX → s.dialect.jumpUsesVX = t.dialect.jumpUsesVX

/-- Two states that differ at most in the screen and in the flag. -/
def AgreeButPicture (s t : State) : Prop :=
  ∃ flag, (s.setRegister flagRegister flag).AgreeExcept .screen t

end State

/-- Two results alike: both are refused by the same fault, or both succeed with what is related. -/
inductive Alike {α : Type} (R : α → α → Prop) : Except Fault α → Except Fault α → Prop where
  | ok {a b : α} (h : R a b) : Alike R (.ok a) (.ok b)
  | error (f : Fault) : Alike R (.error f) (.error f)

namespace Alike

variable {α β : Type} {R : β → β → Prop}

/-- The same check before two changes. -/
theorem map {r : Except Fault α} {g g' : α → β} (h : ∀ a, R (g a) (g' a)) :
    Alike R (r.map g) (r.map g') := by
  cases r with
  | ok a => exact .ok (h a)
  | error f => exact .error f

theorem map_map {P : α → α → Prop} {r r' : Except Fault α} {g : α → β} (h : Alike P r r')
    (hg : ∀ a b, P a b → R (g a) (g b)) : Alike R (r.map g) (r'.map g) := by
  cases h with
  | ok hab => exact .ok (hg _ _ hab)
  | error f => exact .error f

theorem error_or_ok {r r' : Except Fault β} (h : Alike R r r') :
    (∃ f, r = .error f ∧ r' = .error f) ∨ ∃ a b, r = .ok a ∧ r' = .ok b ∧ R a b := by
  cases h with
  | ok hab => exact Or.inr ⟨_, _, rfl, rfl, hab⟩
  | error f => exact Or.inl ⟨f, rfl, rfl⟩

theorem mapError {r r' : Except Fault β} (g : Fault → Fault) (h : Alike R r r') :
    Alike R (r.mapError g) (r'.mapError g) := by
  cases h with
  | ok hab =>
    rw [Fault.mapError_eq_ok_iff.mpr rfl, Fault.mapError_eq_ok_iff.mpr rfl]
    exact .ok hab
  | error f =>
    rw [Fault.mapError_eq_error_iff.mpr ⟨f, rfl, rfl⟩]
    exact .error (g f)

end Alike

/-! ## One operation -/

namespace State.AgreeExcept

variable {c : Component} {s t : State}

theorem setRegister (h : s.AgreeExcept c t) (r : Fin 16) (v : UInt8) :
    (s.setRegister r v).AgreeExcept c (t.setRegister r v) :=
  { h with registers := congrArg (·.setIfInBounds r v) h.registers }

theorem setScreen (h : s.AgreeExcept c t) {a b : Screen} (hab : c ≠ .screen → a = b) :
    { s with screen := a }.AgreeExcept c { t with screen := b } :=
  { h with screen := hab }

theorem passes_eq (h : s.AgreeExcept c t) {test : SkipTest} (hno : .skip test ∉ c.readers)
    (w : Word) : s.passes w test = t.passes w test := by
  have hread : Operation.skip test ∈ Component.keypad.readers → s.keypad = t.keypad :=
    fun hmem => h.keypad (Component.ne_of_readers hno hmem)
  cases test with
  | keyDown | keyUp => simp only [passes, namedKey, h.registers, hread (by decide)]
  | _ => simp only [passes, h.registers]

theorem combine_registers (h : s.AgreeExcept c t) {op : Alu.Op} (hno : .alu op ∉ c.readers)
    (x y : Fin 16) : (s.combine op x y).registers = (t.combine op x y).registers := by
  have hshift : (op.isShift && s.dialect.shiftUsesVY) = (op.isShift && t.dialect.shiftUsesVY) := by
    cases op with
    | shiftRight | shiftLeft => exact h.shiftUsesVY (Component.ne_of_readers hno (by decide))
    | _ => rfl
  have hlogic : (op.isLogic && !s.dialect.logicResetsVF) =
      (op.isLogic && !t.dialect.logicResetsVF) := by
    cases op with
    | or | and | xor =>
      exact congrArg (!·) (h.logicResetsVF (Component.ne_of_readers hno (by decide)))
    | _ => rfl
  unfold combine
  simp only [hshift, hlogic, h.registers]
  split
  · simp only [setRegister_registers, h.registers]
  · simp only [setRegister_registers, h.registers]

theorem advancedIndex_eq (h : s.AgreeExcept c t) (hc : c ≠ .memoryAdvancesIndex) (x : Fin 16) :
    s.advancedIndex x = t.advancedIndex x := by
  rw [advancedIndex, advancedIndex, h.memoryAdvancesIndex hc, h.index]

theorem checkSpan_eq (h : s.AgreeExcept c t) (span : Nat) :
    s.checkSpan span = t.checkSpan span := by
  rw [checkSpan, checkSpan, h.index]

theorem shownRows_eq (h : s.AgreeExcept c t) (y height : Fin 16) :
    s.shownRows y height = t.shownRows y height := by
  rw [shownRows, shownRows, h.registers]

/-- Whether a sprite can be drawn does not depend on the screen. -/
theorem drawSprite_alike {R : State → State → Prop} (h : s.AgreeExcept c t) (x y height : Fin 16)
    (hR : ∀ mask, R (s.imprint mask) (t.imprint mask)) :
    Alike R (s.drawSprite x y height) (t.drawSprite x y height) := by
  have hrows := h.shownRows_eq y height
  -- the same pixels are put on both screens
  have hR : R (s.withSprite x y height) (t.withSprite x y height) := by
    rw [withSprite, withSprite, ← hrows, ← h.registers, ← h.memory, ← h.index]
    exact hR _
  rcases Nat.eq_zero_or_pos (s.shownRows y height) with hz | hp
  · rw [drawSprite_of_zero hz, drawSprite_of_zero (hrows ▸ hz)]
    exact .ok hR
  · rw [drawSprite_of_pos hp, drawSprite_of_pos (hrows ▸ hp), ← hrows, ← h.index]
    exact .map fun _ => hR

end State.AgreeExcept

namespace Operation

variable {c : Component} {s t : State}

/-- **An operation that does not read a component cannot tell the two states apart.** -/
theorem run_alike {op : Operation} (h : s.AgreeExcept c t) (hno : op ∉ c.readers) (w : Word) :
    Alike (State.AgreeExcept c) (op.run w s) (op.run w t) := by
  -- what an operation reads is not the component in which the states differ
  have hne : ∀ d : Component, op ∈ d.readers → c ≠ d := fun d => Component.ne_of_readers hno
  have hget : ∀ r, s.registers.get r = t.registers.get r := fun r => by rw [h.registers]
  cases op with
  | clearScreen => exact .ok { h with screen := fun _ => rfl }
  | returnFromCall =>
    show Alike _ s.returnFromCall t.returnFromCall
    rw [s.returnFromCall_eq, t.returnFromCall_eq, h.stack (hne .stack (by decide))]
    exact .map fun popped => { h with stack := fun _ => rfl, pc := rfl }
  | jump => exact .ok { h with pc := rfl }
  | call =>
    show Alike _ (s.callSubroutine w.nnn) (t.callSubroutine w.nnn)
    rw [s.callSubroutine_eq, t.callSubroutine_eq, h.stack (hne .stack (by decide)), h.pc]
    exact .map fun stack => { h with stack := fun _ => rfl, pc := rfl }
  | skip test =>
    refine .ok ?_
    rw [h.passes_eq hno w]
    cases t.passes w test with
    | false => exact h
    | true => exact { h with pc := congrArg (· + 2) h.pc }
  | setByte => exact .ok (h.setRegister w.x w.nn)
  | addByte =>
    refine .ok ?_
    rw [hget]
    exact h.setRegister w.x _
  | alu a =>
    refine .ok ?_
    rw [combine_eq s, combine_eq t]
    exact { h with registers := h.combine_registers hno w.x w.y }
  | setIndex => exact .ok { h with index := rfl }
  | jumpRelative =>
    have hpc : (s.jumpRelative w).pc = (t.jumpRelative w).pc := by
      simp only [State.jumpRelative, State.jumpTo_pc, h.registers,
        h.jumpUsesVX (hne .jumpUsesVX (by decide))]
    exact .ok { h with pc := hpc }
  | random =>
    have hrandom := h.random (hne .random (by decide))
    refine .ok ?_
    rw [State.drawRandom, State.drawRandom, hrandom]
    exact { h.setRegister w.x _ with random := fun _ => rfl }
  | draw =>
    refine h.drawSprite_alike w.x w.y w.n fun mask => ?_
    rw [State.imprint, State.imprint, h.screen (hne .screen (by decide))]
    exact (h.setRegister flagRegister _).setScreen fun _ => rfl
  | readDelay =>
    refine .ok ?_
    rw [h.delayTimer (hne .delayTimer (by decide))]
    exact h.setRegister w.x t.delayTimer
  | waitKey =>
    have hkeys := h.keypad (hne .keypad (by decide))
    have hreleased : Keypad.released? s.previousKeypad s.keypad =
        Keypad.released? t.previousKeypad t.keypad := by
      rw [hkeys, h.previousKeypad (hne .previousKeypad (by decide))]
    refine .ok ?_
    unfold State.waitForKey
    rw [hreleased]
    cases Keypad.released? t.previousKeypad t.keypad with
    | none => exact { h with pc := congrArg (· - 2) h.pc }
    | some k => exact { h.setRegister w.x _ with previousKeypad := fun _ => hkeys }
  | setDelay => exact .ok { h with delayTimer := fun _ => hget w.x }
  | setSound => exact .ok { h with soundTimer := fun _ => hget w.x }
  | addIndex =>
    have hindex : (s.addToIndex w.x).index = (t.addToIndex w.x).index := by
      simp only [State.addToIndex, h.registers, h.index]
    exact .ok { h with index := hindex }
  | pointGlyph =>
    have hindex : (s.pointAtGlyph w.x).index = (t.pointAtGlyph w.x).index := by
      simp only [State.pointAtGlyph, h.registers]
    exact .ok { h with index := hindex }
  | storeDecimal =>
    show Alike _ (s.storeDecimal w.x) (t.storeDecimal w.x)
    rw [s.storeDecimal_eq, t.storeDecimal_eq, h.checkSpan_eq]
    refine .map fun _ => { h with memory := ?_ }
    simp only [h.memory, h.index, hget]
  | storeRegisters =>
    have hindex := h.advancedIndex_eq (hne .memoryAdvancesIndex (by decide)) w.x
    show Alike _ (s.storeRegisters w.x) (t.storeRegisters w.x)
    rw [s.storeRegisters_eq, t.storeRegisters_eq, h.checkSpan_eq]
    refine .map fun _ => { h with memory := ?_, index := hindex }
    simp only [h.memory, h.index, h.registers]
  | loadRegisters =>
    have hindex := h.advancedIndex_eq (hne .memoryAdvancesIndex (by decide)) w.x
    show Alike _ (s.loadRegisters w.x) (t.loadRegisters w.x)
    rw [s.loadRegisters_eq, t.loadRegisters_eq, h.checkSpan_eq]
    refine .map fun _ => { h with registers := ?_, index := hindex }
    simp only [h.memory, h.index, hget]

/-- A drawing tells two screens apart, but only by the flag. -/
theorem draw_alike (h : s.AgreeExcept .screen t) (w : Word) :
    Alike State.AgreeButPicture (draw.run w s) (draw.run w t) := by
  refine h.drawSprite_alike w.x w.y w.n fun mask => ?_
  rw [State.imprint, State.imprint]
  generalize Alu.Op.flagByte (s.screen.overlaps mask) = before
  generalize Alu.Op.flagByte (t.screen.overlaps mask) = flag
  have hflag : ((s.setRegister flagRegister before).setRegister flagRegister flag).AgreeExcept
      .screen (t.setRegister flagRegister flag) := by
    refine { h with registers := ?_ }
    rw [State.setRegister_registers, State.setRegister_registers, State.setRegister_registers,
      Vector.setIfInBounds_setIfInBounds, h.registers]
  exact ⟨flag, hflag.setScreen fun hne => absurd rfl hne⟩

end Operation

/-! ## One step -/

namespace State

/-- The word that runs next, be it the one at the program counter or the end of its chain. -/
def Next (s : State) (w : Word) : Prop :=
  ∃ p v, s.fetch = .ok (p, v) ∧ s.memory.LandsOn v w

/-- The same word ran and led to states that are related. -/
def SameWord (R : State → State → Prop) (p q : State × Word) : Prop := p.2 = q.2 ∧ R p.1 q.1

theorem next_of_step {s s' : State} {w : Word} (h : s.step = .ok (s', w)) : s.Next w := by
  obtain ⟨hle, op, -, hsettle, -⟩ := step_ok h
  exact ⟨_, _, fetch_of_le hle, landsOn_of_settle hsettle⟩

namespace AgreeExcept

variable {c : Component} {s t : State} {w : Word}

theorem past (h : s.AgreeExcept c t) : s.past.AgreeExcept c t.past :=
  { h with pc := congrArg (· + 2) h.pc }

theorem word_eq (h : s.AgreeExcept c t) : s.word = t.word := by
  rw [word, word, h.memory, h.pc]

theorem next (h : s.AgreeExcept c t) (hw : s.Next w) : t.Next w := by
  obtain ⟨p, v, hfetch, hlands⟩ := hw
  obtain ⟨hle, -, rfl⟩ := fetch_eq_ok_iff.mp hfetch
  have hfetch' : t.fetch = .ok (t.past, t.word) := fetch_of_le (h.pc ▸ hle)
  rw [h.memory, h.word_eq] at hlands
  exact ⟨_, _, hfetch', hlands⟩

/-- The same word is run in both states, so that the steps are alike if the operations are. -/
theorem step_alike_of_run {R : State → State → Prop} (h : s.AgreeExcept c t)
    (hrun : ∀ (op : Operation) (w : Word), s.Next w → op.Matches w →
      Alike R (op.run w s.past) (op.run w t.past)) :
    Alike (SameWord R) s.step t.step := by
  rw [step, step, ← h.pc]
  apply Alike.mapError
  rcases Nat.lt_or_ge 0xFFE s.pc.toNat with hlt | hle
  · rw [stepHere_of_lt hlt, stepHere_of_lt (h.pc ▸ hlt), ← h.pc]
    exact .error _
  · rw [stepHere_of_le hle, stepHere_of_le (h.pc ▸ hle), ← h.word_eq, ← settle_congr h.memory]
    cases hsettle : s.settle s.word with
    | error f => exact .error f
    | ok found =>
      obtain ⟨op, w⟩ := found
      obtain ⟨hlands, hop⟩ := settle_eq_ok_iff_landsOn.mp hsettle
      have hnext : s.Next w := ⟨_, _, fetch_of_le hle, hlands⟩
      exact (hrun op w hnext hop).map_map fun _ _ hab => ⟨rfl, hab⟩

theorem step_alike (h : s.AgreeExcept c t) (hno : ∀ w, s.Next w → ¬c.ReadIn w) :
    Alike (SameWord (AgreeExcept c)) s.step t.step := by
  apply h.step_alike_of_run
  intro op w hnext hop
  exact Operation.run_alike h.past (fun hread => hno w hnext ⟨op, hread, hop⟩) w

theorem step_alike_of_draw (h : s.AgreeExcept .screen t)
    (hdraw : ∀ w, s.Next w → Operation.draw.Matches w) :
    Alike (SameWord AgreeButPicture) s.step t.step := by
  apply h.step_alike_of_run
  intro op w hnext hop
  obtain rfl := hop.unique (hdraw w hnext)
  exact Operation.draw_alike h.past w

end AgreeExcept

end State

/-! ## Runs side by side -/

/-- From the states `s` and `t` the same words are run, none of which reads the component, through
states that agree in everything else, up to the states `s'` and `t'`. -/
inductive Lockstep (c : Component) : State → State → List Word → State → State → Prop where
  | nil {s t : State} (h : s.AgreeExcept c t) : Lockstep c s t [] s t
  | cons {s t s₁ t₁ s' t' : State} {w : Word} {words : List Word} (h : s.AgreeExcept c t)
    (hno : ¬c.ReadIn w) (hs : s.step = .ok (s₁, w)) (ht : t.step = .ok (t₁, w))
    (rest : Lockstep c s₁ t₁ words s' t') : Lockstep c s t (w :: words) s' t'

namespace State

/-- How two runs part: both are refused by the same fault, or the next word reads the component. -/
def Parts (c : Component) (s t : State) : Prop :=
  (∃ f, s.step = .error f ∧ t.step = .error f) ∨ ∃ w, s.Next w ∧ t.Next w ∧ c.ReadIn w

/-- Two runs stay together for any number of steps, or until they part. -/
theorem AgreeExcept.lockstep {c : Component} {s t : State} (h : s.AgreeExcept c t) (n : Nat) :
    ∃ words s' t', Lockstep c s t words s' t' ∧
      (words.length = n ∨ words.length < n ∧ Parts c s' t') := by
  induction n generalizing s t with
  | zero => exact ⟨[], s, t, .nil h, Or.inl rfl⟩
  | succ n ih =>
    by_cases hread : ∃ w, s.Next w ∧ c.ReadIn w
    · obtain ⟨w, hnext, hw⟩ := hread
      exact ⟨[], s, t, .nil h, Or.inr ⟨Nat.succ_pos n, Or.inr ⟨w, hnext, h.next hnext, hw⟩⟩⟩
    · have hno : ∀ w, s.Next w → ¬c.ReadIn w := fun w hnext hw => hread ⟨w, hnext, hw⟩
      rcases (h.step_alike hno).error_or_ok with hfault | ⟨⟨s₁, w⟩, ⟨t₁, w'⟩, hs, ht, hab⟩
      · exact ⟨[], s, t, .nil h, Or.inr ⟨Nat.succ_pos n, Or.inl hfault⟩⟩
      · obtain ⟨rfl, hagree⟩ : w = w' ∧ s₁.AgreeExcept c t₁ := hab
        obtain ⟨words, s', t', hlock, hend⟩ := ih hagree
        refine ⟨w :: words, s', t', .cons h (hno w (next_of_step hs)) hs ht hlock, ?_⟩
        rcases hend with hlen | ⟨hlt, hparts⟩
        · exact Or.inl (congrArg (· + 1) hlen)
        · exact Or.inr ⟨Nat.succ_lt_succ hlt, hparts⟩

/-- **The read footprint of the instructions.**

Let two states agree in everything but one component.  Unless the next instruction reads that
component, the steps from them are refused by the same fault, or both succeed: the same word runs,
and the states it leads to agree in everything but that component again.  A drawing, which does
read the screen, leaves states that may differ in the flag besides.  So the runs from the two
states take the same steps, for as long as one likes, unless both are refused by the same fault or
come to an instruction that reads the component. -/
theorem step_read_footprint {c : Component} {s t : State} (h : s.AgreeExcept c t) :
    ((∀ w, s.Next w → ¬c.ReadIn w) → Alike (SameWord (AgreeExcept c)) s.step t.step) ∧
    (c = .screen → (∀ w, s.Next w → Operation.draw.Matches w) →
      Alike (SameWord AgreeButPicture) s.step t.step) ∧
    ∀ n, ∃ words s' t', Lockstep c s t words s' t' ∧
      (words.length = n ∨ words.length < n ∧ Parts c s' t') := by
  refine ⟨h.step_alike, ?_, h.lockstep⟩
  rintro rfl hdraw
  exact h.step_alike_of_draw hdraw

/-- Two states that differ in the delay timer; it is read by the second instruction. -/
theorem step_read_footprint_sample :
    let s : State := { State.initial (.ofSeed 0) .classic with
      memory := Memory.initial.store programStart [0x61, 0x05, 0xF2, 0x07] }
    let t : State := { s with delayTimer := 9 }
    s.AgreeExcept .delayTimer t ∧ Alike (SameWord (AgreeExcept .delayTimer)) s.step t.step ∧
      ∃ words s' t', Lockstep .delayTimer s t words s' t' ∧
        (words.length = 2 ∨ words.length < 2 ∧ Parts .delayTimer s' t') := by
  intro s t
  have hagree : s.AgreeExcept .delayTimer t :=
    ⟨rfl, rfl, rfl, rfl, fun _ => rfl, fun _ => rfl, fun hne => absurd rfl hne, fun _ => rfl,
      fun _ => rfl, fun _ => rfl, fun _ => rfl, fun _ => rfl, fun _ => rfl, fun _ => rfl,
      fun _ => rfl⟩
  have hword : s.word = 0x6105 := by decide +kernel
  have hno : ∀ w, s.Next w → ¬Component.delayTimer.ReadIn w := by
    rintro w ⟨p, v, hfetch, hlands⟩
    obtain ⟨-, -, rfl⟩ := fetch_eq_ok_iff.mp hfetch
    rw [hword] at hlands
    cases hlands with
    | self => decide
    | last hcall => exact absurd hcall (by decide)
  obtain ⟨hstep, -, hruns⟩ := step_read_footprint hagree
  exact ⟨hagree, hstep hno, hruns 2⟩

end State

end ChipEight
