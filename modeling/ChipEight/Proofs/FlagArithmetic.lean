import ChipEight.Proofs.MachineCodeChain
import ChipEight.Proofs.WriteFootprint

/-! # The arithmetic of two registers

Bytes wrap, and the flag makes up for it: `Alu.Op.Gives` states of every operation on two registers
what result and which flag it gives, as an equation between the numbers that the operands stand for.
An operand may be any number below 256 and so may the result, so that each equation has exactly one
solution (`Gives.unique`), and the bytes computed are it (`gives_apply`).

The two registers and the flag register need not be different ones.  Both operands are read before
anything is written, and the flag is written last (`State.combine_of_flag`, `combine_of_no_flag`),
so that a result in the flag register is lost if there is a flag.
-/
namespace ChipEight

namespace Alu.Op

/-! ## The equations -/

/-- The flag that the operations on bits leave in a dialect, if they leave one. -/
def logicFlag (d : Dialect) : Option Nat := if d.logicResetsVF then some 0 else none

/-- The result `r` of an operation on `a` and `b`, and its flag `f` if it has one.  For a sum the
flag counts what was carried; for a difference it is 0 if something was borrowed and else 1. -/
def Equation (d : Dialect) (a b r : Nat) (f : Option Nat) : Alu.Op → Prop
  | assign => r = b ∧ f = none
  | or => (∀ i, r.testBit i = (a.testBit i || b.testBit i)) ∧ f = logicFlag d
  | and => (∀ i, r.testBit i = (a.testBit i && b.testBit i)) ∧ f = logicFlag d
  | xor => (∀ i, r.testBit i = (a.testBit i ^^ b.testBit i)) ∧ f = logicFlag d
  | add => ∃ c, f = some c ∧ r + 256 * c = a + b
  | subtract => ∃ c, f = some c ∧ (r : Int) = a - b + 256 * (1 - c)
  | shiftRight => ∃ c, f = some c ∧ 2 * r + c = a
  | subtractFrom => ∃ c, f = some c ∧ (r : Int) = b - a + 256 * (1 - c)
  | shiftLeft => ∃ c, f = some c ∧ r + 256 * c = 2 * a

/-- The equation of an operation, with a byte for the result and a bit for the flag. -/
structure Gives (op : Alu.Op) (d : Dialect) (a b r : Nat) (f : Option Nat) : Prop where
  result_le : r ≤ 255
  flag_le : ∀ c, f = some c → c ≤ 1
  equation : op.Equation d a b r f

variable {op : Alu.Op} {d : Dialect}

/-- **The equation of an operation determines result and flag.** -/
theorem Gives.unique {a b r r' : Nat} {f f' : Option Nat} (h : op.Gives d a b r f)
    (h' : op.Gives d a b r' f') : r' = r ∧ f' = f := by
  obtain ⟨hr, hf, heq⟩ := h
  obtain ⟨hr', hf', heq'⟩ := h'
  cases op with
  | assign => exact ⟨heq'.1.trans heq.1.symm, heq'.2.trans heq.2.symm⟩
  | or | and | xor =>
    exact ⟨Nat.eq_of_testBit_eq fun i => (heq'.1 i).trans (heq.1 i).symm,
      heq'.2.trans heq.2.symm⟩
  | add | subtract | shiftRight | subtractFrom | shiftLeft =>
    obtain ⟨c, rfl, hc⟩ := heq
    obtain ⟨c', rfl, hc'⟩ := heq'
    have hle := hf c rfl
    have hle' := hf' c' rfl
    have hcc : c' = c := by omega
    exact ⟨by omega, congrArg some hcc⟩

/-! ## The bytes -/

/-- The flag of an operation that is kept in a dialect. -/
def keptFlag (d : Dialect) (a b : UInt8) (op : Alu.Op) : Option UInt8 :=
  if op.isLogic && !d.logicResetsVF then none else (op.apply a b).2

theorem toNat_flagByte (b : Bool) : (flagByte b).toNat = b.toNat := by
  cases b <;> rfl

theorem keptFlag_of_logic (h : op.isLogic = true) {a b : UInt8}
    (hzero : (op.apply a b).2 = some 0) :
    (op.keptFlag d a b).map UInt8.toNat = logicFlag d := by
  rw [keptFlag, logicFlag, h, hzero]
  cases d.logicResetsVF <;> rfl

theorem flag_le_one {a b c : UInt8} (h : op.keptFlag d a b = some c) : c.toNat ≤ 1 := by
  have hc : (op.apply a b).2 = some c := by
    unfold keptFlag at h
    split at h
    · cases h
    · exact h
  cases op with
  | assign => cases hc
  | or | and | xor =>
    obtain rfl := Option.some.inj hc
    decide
  | add | subtract | subtractFrom =>
    obtain rfl := Option.some.inj hc
    rw [toNat_flagByte]
    exact Bool.toNat_le _
  | shiftRight =>
    obtain rfl := Option.some.inj hc
    exact Nat.le_of_lt_succ (Nat.mod_lt a.toNat Nat.two_pos)
  | shiftLeft =>
    obtain rfl := Option.some.inj hc
    exact Nat.le_of_lt_succ (Nat.div_lt_of_lt_mul a.toNat_lt)

/-- A sum that wraps has a carry. -/
theorem toNat_add_carry (a b : UInt8) :
    (a + b).toNat + 256 * (decide (256 ≤ a.toNat + b.toNat)).toNat = a.toNat + b.toNat := by
  have ha := a.toNat_lt
  have hb := b.toNat_lt
  rw [UInt8.toNat_add]
  by_cases h : 256 ≤ a.toNat + b.toNat
  · rw [decide_eq_true h, Bool.toNat_true]
    omega
  · rw [decide_eq_false h, Bool.toNat_false]
    omega

/-- A difference that wraps has borrowed; equal operands do not. -/
theorem toNat_sub_borrow (a b : UInt8) :
    ((a - b).toNat : Int) = a.toNat - b.toNat + 256 * (1 - (decide (b ≤ a)).toNat) := by
  have ha := a.toNat_lt
  have hb := b.toNat_lt
  rw [UInt8.toNat_sub]
  by_cases h : b ≤ a
  · have hle : b.toNat ≤ a.toNat := UInt8.le_iff_toNat_le.mp h
    rw [decide_eq_true h, Bool.toNat_true]
    omega
  · have hlt : ¬b.toNat ≤ a.toNat := fun hle => h (UInt8.le_iff_toNat_le.mpr hle)
    rw [decide_eq_false h, Bool.toNat_false]
    omega

/-- The bytes computed solve the equation. -/
theorem equation_apply (op : Alu.Op) (d : Dialect) (a b : UInt8) :
    op.Equation d a.toNat b.toNat (op.apply a b).1.toNat
      ((op.keptFlag d a b).map UInt8.toNat) := by
  cases op with
  | assign => exact ⟨rfl, rfl⟩
  | or =>
    refine ⟨fun i => ?_, keptFlag_of_logic rfl rfl⟩
    exact (congrArg (Nat.testBit · i) (UInt8.toNat_or a b)).trans (Nat.testBit_or ..)
  | and =>
    refine ⟨fun i => ?_, keptFlag_of_logic rfl rfl⟩
    exact (congrArg (Nat.testBit · i) (UInt8.toNat_and a b)).trans (Nat.testBit_and ..)
  | xor =>
    refine ⟨fun i => ?_, keptFlag_of_logic rfl rfl⟩
    exact (congrArg (Nat.testBit · i) (UInt8.toNat_xor a b)).trans (Nat.testBit_xor ..)
  | add => exact ⟨_, congrArg some (toNat_flagByte _), toNat_add_carry a b⟩
  | subtract => exact ⟨_, congrArg some (toNat_flagByte _), toNat_sub_borrow a b⟩
  | shiftRight => exact ⟨a.toNat % 2, rfl, Nat.div_add_mod a.toNat 2⟩
  | subtractFrom => exact ⟨_, congrArg some (toNat_flagByte _), toNat_sub_borrow b a⟩
  | shiftLeft =>
    have ha := a.toNat_lt
    refine ⟨a.toNat / 128, rfl, ?_⟩
    show (a + a).toNat + 256 * (a.toNat / 128) = 2 * a.toNat
    rw [UInt8.toNat_add]
    omega

/-- **The bytes computed are what the operation gives.** -/
theorem gives_apply (op : Alu.Op) (d : Dialect) (a b : UInt8) :
    op.Gives d a.toNat b.toNat (op.apply a b).1.toNat
      ((op.keptFlag d a b).map UInt8.toNat) where
  result_le := Nat.le_of_lt_succ (op.apply a b).1.toNat_lt
  flag_le c hc := by
    obtain ⟨f, hf, rfl⟩ := Option.map_eq_some_iff.mp hc
    exact flag_le_one hf
  equation := op.equation_apply d a b

end Alu.Op

namespace State

/-! ## The registers -/

/-- The first operand of an operation on two registers.  A dialect may shift the second register
into the first. -/
def firstOperand (s : State) (w : Word) : Alu.Op → UInt8
  | .shiftRight | .shiftLeft =>
    if s.dialect.shiftUsesVY then s.registers.get w.y else s.registers.get w.x
  | _ => s.registers.get w.x

variable {s : State} {w : Word} {op : Alu.Op}

theorem firstOperand_eq (s : State) (w : Word) (op : Alu.Op) :
    s.firstOperand w op =
      if op.isShift && s.dialect.shiftUsesVY then s.registers.get w.y else s.registers.get w.x := by
  cases op <;> rfl

/-- Without a flag only the result is written. -/
theorem combine_of_no_flag
    (h : op.keptFlag s.dialect (s.firstOperand w op) (s.registers.get w.y) = none) :
    s.combine op w.x w.y =
      s.setRegister w.x (op.apply (s.firstOperand w op) (s.registers.get w.y)).1 := by
  rw [firstOperand_eq] at h ⊢
  unfold Alu.Op.keptFlag at h
  unfold combine
  simp only [h]

/-- A flag is written after the result. -/
theorem combine_of_flag {f : UInt8}
    (h : op.keptFlag s.dialect (s.firstOperand w op) (s.registers.get w.y) = some f) :
    s.combine op w.x w.y =
      (s.setRegister w.x (op.apply (s.firstOperand w op) (s.registers.get w.y)).1).setRegister
        flagRegister f := by
  rw [firstOperand_eq] at h ⊢
  unfold Alu.Op.keptFlag at h
  unfold combine
  simp only [h]

/-- The registers after a result was put into `x` and then a flag, if there is one, into the flag
register.  Nothing else has changed. -/
structure Receives (x : Fin 16) (r : Nat) (f : Option Nat) (s s' : State) : Prop where
  result : x ≠ flagRegister → (s'.registers.get x).toNat = r
  flag : ∀ c, f = some c → (s'.registers.get flagRegister).toNat = c
  result_of_no_flag : x = flagRegister → f = none → (s'.registers.get flagRegister).toNat = r
  others : ∀ j, j ≠ x → (j = flagRegister → f = none) → s'.registers.get j = s.registers.get j
  rest : s' = { s with registers := s'.registers }

theorem receives_result (s : State) (x : Fin 16) (r : UInt8) :
    Receives x r.toNat none s (s.setRegister x r) where
  result _ := congrArg UInt8.toNat (s.get_setRegister_self x r)
  flag _ h := by cases h
  result_of_no_flag hx _ := by
    rw [← hx, get_setRegister_self]
  others j hj _ := s.get_setRegister_of_ne r hj
  rest := rfl

theorem receives_result_flag (s : State) (x : Fin 16) (r f : UInt8) :
    Receives x r.toNat (some f.toNat) s ((s.setRegister x r).setRegister flagRegister f) where
  result hx := by
    rw [get_setRegister_of_ne _ f hx, get_setRegister_self]
  flag c hc := by
    rw [get_setRegister_self]
    exact Option.some.inj hc
  result_of_no_flag _ h := by cases h
  others j hj hflag := by
    have hne : j ≠ flagRegister := fun h => Option.some_ne_none _ (hflag h)
    rw [get_setRegister_of_ne _ f hne, get_setRegister_of_ne s r hj]
  rest := rfl

theorem receives_combine (s : State) (op : Alu.Op) (w : Word) :
    Receives w.x (op.apply (s.firstOperand w op) (s.registers.get w.y)).1.toNat
      ((op.keptFlag s.dialect (s.firstOperand w op) (s.registers.get w.y)).map UInt8.toNat) s
      (s.combine op w.x w.y) := by
  cases h : op.keptFlag s.dialect (s.firstOperand w op) (s.registers.get w.y) with
  | none =>
    rw [combine_of_no_flag h]
    exact s.receives_result w.x _
  | some f =>
    rw [combine_of_flag h]
    exact s.receives_result_flag w.x _ f

/-- **The arithmetic of two registers.**

An operation on two registers is never refused.  Its equation between the numbers in the registers
before it, of which the first may be replaced by the second in a shift, has exactly one solution: a
result from 0 to 255, and a flag from 0 to 1 unless the operation has none in the dialect.  The
result is put into the first register and then the flag into the flag register, so that the flag
stays if these are the same; without a flag the result stays.  No other register and nothing else
changes. -/
theorem execute_alu (s : State) {op : Alu.Op} {w : Word} (hw : (Operation.alu op).Matches w) :
    ∃ r f s',
      op.Gives s.dialect (s.firstOperand w op).toNat (s.registers.get w.y).toNat r f ∧
      (∀ r' f', op.Gives s.dialect (s.firstOperand w op).toNat (s.registers.get w.y).toNat r' f' →
        r' = r ∧ f' = f) ∧
      s.execute w = .ok s' ∧ Receives w.x r f s s' := by
  have hgives := op.gives_apply s.dialect (s.firstOperand w op) (s.registers.get w.y)
  refine ⟨_, _, s.combine op w.x w.y, hgives, fun r' f' h => hgives.unique h, ?_,
    s.receives_combine op w⟩
  rw [execute_of_matches hw]
  rfl

/-- The difference 3 - 5 in the flag register: the result 254 gives way to the flag 0. -/
theorem execute_alu_sample :
    let s : State := { State.initial (.ofSeed 0) .classic with
      registers := (Vector.replicate 16 0).setIfInBounds 1 5 |>.setIfInBounds 15 3 }
    (Operation.alu .subtract).Matches 0x8F15 ∧
      Alu.Op.subtract.Gives s.dialect 3 5 254 (some 0) ∧
      ∃ s', s.execute 0x8F15 = .ok s' ∧ s'.registers.get flagRegister = 0 ∧
        s'.registers.get 1 = 5 := by
  intro s
  have hw : (Operation.alu .subtract).Matches 0x8F15 := by decide
  have hgives : Alu.Op.subtract.Gives s.dialect 3 5 254 (some 0) :=
    ⟨by decide, fun c hc => by cases hc; decide, 0, rfl, rfl⟩
  obtain ⟨r, f, s', -, hunique, hexec, hreceives⟩ := s.execute_alu hw
  obtain ⟨rfl, rfl⟩ := hunique 254 (some 0) hgives
  refine ⟨hw, hgives, s', hexec, UInt8.toNat_inj.mp (hreceives.flag 0 rfl), ?_⟩
  exact hreceives.others 1 (by decide) fun h => absurd h (by decide)

end State

end ChipEight
