import ChipEight.Proofs.Steps

/-! # A step is a fetch and an execution

There are two ways to run the word at the program counter.  `State.fetch` hands it to
`State.execute`, which runs it in place and does not say what ran, with a handler of its own for
machine-code calls; `State.step` settles the word by itself, since it has to say which word ran and
where a fault happened.  This module proves that the two ways agree (`step_iff_fetch_execute`).

`Memory.LandsOn m v w` says which word that is: `w` is what stands for `v` in the end, be it `v`
itself or the last word of its chain.
-/
namespace ChipEight

/-- The word that runs in the place of another. -/
inductive Memory.LandsOn (m : Memory) (v : Word) : Word → Prop where
  /-- A word that is no machine-code call runs itself. -/
  | self (h : ¬v.IsMachineCode) : LandsOn m v v
  /-- A machine-code call runs the word on which its chain lands. -/
  | last {k : Nat} (h : v.IsMachineCode) (hk : 1 ≤ k) (hle : k ≤ maxHops) (hp : m.Passes v k)
    (hw : ¬(m.chain v k).IsMachineCode) : LandsOn m v (m.chain v k)

namespace State

variable {s s' t : State} {v w : Word} {op : Operation} {f : Fault}

theorem landsOn_of_settle (h : s.settle v = .ok (op, w)) : s.memory.LandsOn v w := by
  obtain ⟨k, hk, hp, rfl, hop⟩ := settle_eq_ok_iff.mp h
  have hw : ¬(s.memory.chain v k).IsMachineCode := fun hm => hm.not_matches op hop
  rcases Nat.eq_zero_or_pos k with rfl | hpos
  · exact .self hw
  · exact .last (hp 0 hpos).1 hpos hk hp hw

/-- What a word comes down to is the operation of the word it lands on. -/
theorem settle_eq_ok_iff_landsOn :
    s.settle v = .ok (op, w) ↔ s.memory.LandsOn v w ∧ op.Matches w := by
  constructor
  · intro h
    obtain ⟨-, -, -, -, hop⟩ := settle_eq_ok_iff.mp h
    exact ⟨landsOn_of_settle h, hop⟩
  · rintro ⟨hlands, hop⟩
    cases hlands with
    | self => exact settle_of_matches (Nat.zero_le _) (Memory.passes_zero v) hop
    | last _ _ hk hp _ => exact settle_of_matches hk hp hop

/-- What a word comes down to comes down to itself. -/
theorem settle_settled (h : s.settle v = .ok (op, w)) : s.settle w = .ok (op, w) := by
  obtain ⟨-, -, -, -, hop⟩ := settle_eq_ok_iff.mp h
  exact settle_of_matches (Nat.zero_le _) (Memory.passes_zero w) hop

/-! ## The two halves -/

theorem fetch_eq_ok_iff : s.fetch = .ok (t, w) ↔ s.pc.toNat ≤ 0xFFE ∧ t = s.past ∧ w = s.word := by
  rcases Nat.lt_or_ge 0xFFE s.pc.toNat with hlt | hle
  · rw [fetch_of_lt hlt]
    simp [Nat.not_le.mpr hlt]
  · rw [fetch_of_le hle]
    simp [hle, eq_comm]

theorem fetch_eq_error_iff :
    s.fetch = .error f ↔ 0xFFE < s.pc.toNat ∧
      f = { cause := .outOfBoundsAddress (max s.pc.toNat 0x1000 : Nat) } := by
  rcases Nat.lt_or_ge 0xFFE s.pc.toNat with hlt | hle
  · rw [fetch_of_lt hlt]
    simp [hlt, eq_comm]
  · rw [fetch_of_le hle]
    simp [Nat.not_lt.mpr hle]

theorem execute_eq_ok_iff :
    s.execute v = .ok s' ↔ ∃ op w, s.settle v = .ok (op, w) ∧ op.run w s = .ok s' := by
  rw [execute_eq_settle, Fault.bind_eq_ok_iff, Prod.exists]

theorem execute_eq_error_iff :
    s.execute v = .error f ↔
      s.settle v = .error f ∨ ∃ op w, s.settle v = .ok (op, w) ∧ op.run w s = .error f := by
  rw [execute_eq_settle, Fault.bind_eq_error_iff, Prod.exists]

/-- A word that settles has the outcome of the word that it comes down to. -/
theorem execute_of_settle (h : s.settle v = .ok (op, w)) : s.execute v = s.execute w :=
  execute_of_settle_eq (h.trans (settle_settled h).symm)

theorem settle_past (s : State) (v : Word) : s.past.settle v = s.settle v := settle_congr rfl v

/-! ## The two ways -/

theorem step_eq_ok_iff_execute :
    s.step = .ok (s', w) ↔
      s.pc.toNat ≤ 0xFFE ∧ (∃ op, s.settle s.word = .ok (op, w)) ∧
        s.past.execute s.word = .ok s' := by
  rw [step_eq_ok_iff_run]
  constructor
  · rintro ⟨hle, op, hsettle, hrun⟩
    refine ⟨hle, ⟨op, hsettle⟩, execute_eq_ok_iff.mpr ⟨op, w, ?_, hrun⟩⟩
    rw [settle_past, hsettle]
  · rintro ⟨hle, ⟨op, hsettle⟩, hexec⟩
    obtain ⟨op', w', hsettle', hrun⟩ := execute_eq_ok_iff.mp hexec
    rw [settle_past, hsettle] at hsettle'
    obtain ⟨rfl, rfl⟩ := Prod.mk.inj (Except.ok.inj hsettle')
    exact ⟨hle, op, hsettle, hrun⟩

theorem stepHere_eq_error_iff_execute :
    s.stepHere = .error f ↔
      s.fetch = .error f ∨ ∃ t v, s.fetch = .ok (t, v) ∧ t.execute v = .error f := by
  rw [stepHere_eq_error_iff, fetch_eq_error_iff]
  refine or_congr Iff.rfl ?_
  constructor
  · rintro ⟨hle, h⟩
    refine ⟨s.past, s.word, fetch_of_le hle, execute_eq_error_iff.mpr ?_⟩
    rwa [settle_past]
  · rintro ⟨t, v, hfetch, hexec⟩
    obtain ⟨hle, rfl, rfl⟩ := fetch_eq_ok_iff.mp hfetch
    rw [execute_eq_error_iff, settle_past] at hexec
    exact ⟨hle, hexec⟩

/-- **A step is a fetch and an execution**, in every state.

It succeeds exactly if the word at the program counter can be fetched and executed, and in the
same state.  The word that ran is the one fetched, or the last of its chain if that is a
machine-code call; executed in its place it has the same outcome.  A step is refused exactly if
the fetch or the execution is, and for the same cause: they do not say where it happened, and of
a cause that a program can bring about the step names the address of the instruction. -/
theorem step_iff_fetch_execute (s : State) :
    (∀ s', (∃ w, s.step = .ok (s', w)) ↔
      ∃ t v, s.fetch = .ok (t, v) ∧ t.execute v = .ok s') ∧
    (∀ s' w, s.step = .ok (s', w) →
      ∃ t v, s.fetch = .ok (t, v) ∧ t.execute v = .ok s' ∧
        s.memory.LandsOn v w ∧ t.execute w = .ok s') ∧
    ∀ f, s.step = .error f ↔
      ∃ c, f = { cause := c, pc := if c.isOfProgram then some s.pc.toNat else none } ∧
        (s.fetch = .error { cause := c } ∨
          ∃ t v, s.fetch = .ok (t, v) ∧ t.execute v = .error { cause := c }) := by
  have agree : ∀ s' w, s.step = .ok (s', w) →
      ∃ t v, s.fetch = .ok (t, v) ∧ t.execute v = .ok s' ∧
        s.memory.LandsOn v w ∧ t.execute w = .ok s' := by
    intro s' w h
    obtain ⟨hle, ⟨op, hsettle⟩, hexec⟩ := step_eq_ok_iff_execute.mp h
    have hsame : s.past.execute s.word = s.past.execute w :=
      execute_of_settle ((s.settle_past s.word).trans hsettle)
    exact ⟨s.past, s.word, fetch_of_le hle, hexec, landsOn_of_settle hsettle, hsame ▸ hexec⟩
  refine ⟨fun s' => ⟨?_, ?_⟩, agree, fun f => ⟨?_, ?_⟩⟩
  · rintro ⟨w, h⟩
    obtain ⟨t, v, hfetch, hexec, -⟩ := agree s' w h
    exact ⟨t, v, hfetch, hexec⟩
  · rintro ⟨t, v, hfetch, hexec⟩
    obtain ⟨hle, rfl, rfl⟩ := fetch_eq_ok_iff.mp hfetch
    obtain ⟨op, w, hsettle, -⟩ := execute_eq_ok_iff.mp hexec
    rw [settle_past] at hsettle
    exact ⟨w, step_eq_ok_iff_execute.mpr ⟨hle, ⟨op, hsettle⟩, hexec⟩⟩
  · intro h
    obtain ⟨g, hg, rfl⟩ := step_eq_error_iff.mp h
    obtain ⟨c, rfl, -⟩ := stepHere_error hg
    exact ⟨c, Fault.locate_mk_none c _, stepHere_eq_error_iff_execute.mp hg⟩
  · rintro ⟨c, rfl, h⟩
    exact step_eq_error_iff.mpr
      ⟨_, stepHere_eq_error_iff_execute.mpr h, (Fault.locate_mk_none c _).symm⟩

/-- A program that calls its second word as machine code, which puts `2A` into `V0`. -/
theorem step_iff_fetch_execute_sample :
    let s : State := { State.initial (.ofSeed 0) .classic with
      memory := Memory.initial.store programStart [0x02, 0x02, 0x60, 0x2A] }
    let s' := s.past.setRegister 0 0x2A
    s.step = .ok (s', 0x602A) ∧
      ∃ t v, s.fetch = .ok (t, v) ∧ t.execute v = .ok s' ∧
        s.memory.LandsOn v 0x602A ∧ t.execute 0x602A = .ok s' := by
  intro s s'
  have hword : s.word = 0x0202 := by decide +kernel
  have hchain : s.memory.Passes 0x0202 1 ∧ s.memory.chain 0x0202 1 = 0x602A := by decide +kernel
  have hop : Operation.setByte.Matches 0x602A := by decide
  have hstep : s.step = .ok (s', 0x602A) :=
    step_of_matches (by decide) (by decide) (hword ▸ hchain.1) (hword ▸ hchain.2) hop rfl
  exact ⟨hstep, (s.step_iff_fetch_execute).2.1 s' _ hstep⟩

end State

end ChipEight
