import ChipEight.Proofs.Dispatch
import ChipEight.Step

/-! # Chains of machine-code calls

A machine-code call stands for the word at the address it names, which may be such a call
again.  `Memory.chain m w k` is the word reached from `w` after `k` hops, whatever the words
on the way are, and `Memory.Passes m w k` says that each of the first `k` words really is a
machine-code call that names a word memory has.

Whether an instruction may still hop is a matter of the hops left, so the search is read
with these as a parameter: `State.settleWithin s n w` settles `w` within `n` hops.  A hop
uses up one of them and changes nothing else (`settleWithin_hop`), hence `k` hops that pass
leave the search for the `k`-th word (`settleWithin_add_of_passes`).  As every chain lands
on another word, breaks off at the end of memory, or is still passing on after the hops
allowed (`Memory.chain_cases`), this decides what a machine-code call comes down to.
-/
namespace ChipEight

namespace Memory

variable (m : Memory)

/-- The word at an address; past the end there are zeros. -/
def word (a : Nat) : Word := Word.ofBytes (m.byteAt a) (m.byteAt (a + 1))

theorem wordAt_eq_word {a : Nat} (h : a + 1 < 4096) : m.wordAt (a : Int) = .ok (m.word a) := by
  rw [wordAt_of_lt m h, word, byteAt_of_lt m (show a < 4096 by omega), byteAt_of_lt m h]

/-- A word that does not fit is refused by its first address that memory does not have. -/
theorem wordAt_of_le {a : Nat} (h : 4096 ≤ a + 1) :
    m.wordAt (a : Int) = .error { cause := .outOfBoundsAddress (max a 4096 : Nat) } := by
  by_cases ha : a < 4096
  · have hlast : checkAddress ((a : Int) + 1) = checkAddress ((4096 : Nat) : Int) := by
      congr 1
      omega
    have hmax : max a 4096 = 4096 := by omega
    rw [wordAt, checkAddress_of_lt ha, hlast, checkAddress_of_le (Nat.le_refl _), hmax]
    rfl
  · have hmax : max a 4096 = a := by omega
    rw [wordAt, checkAddress_of_le (Nat.le_of_not_lt ha), hmax]
    rfl

/-! ## The words of a chain -/

/-- The word that a machine-code call stands for. -/
def hop (w : Word) : Word := m.word w.nnn.toNat

/-- The word reached after so many hops. -/
def chain (w : Word) : Nat → Word
  | 0 => w
  | k + 1 => m.hop (chain w k)

@[simp] theorem chain_zero (w : Word) : m.chain w 0 = w := rfl

theorem chain_succ (w : Word) (k : Nat) : m.chain w (k + 1) = m.hop (m.chain w k) := rfl

theorem chain_add (w : Word) (j k : Nat) : m.chain w (j + k) = m.chain (m.chain w j) k := by
  induction k with
  | zero => rfl
  | succ k ih => rw [← Nat.add_assoc, chain_succ, chain_succ, ih]

/-- A chain that meets a word again repeats itself from there on. -/
theorem chain_periodic {w : Word} {i j : Nat} (hij : i ≤ j) (h : m.chain w i = m.chain w j)
    {n : Nat} (hn : i ≤ n) : m.chain w (n + (j - i)) = m.chain w n := by
  rw [show n + (j - i) = j + (n - i) from by omega, chain_add, ← h, ← chain_add,
    show i + (n - i) = n from by omega]

/-- A machine-code call that names a word memory has. -/
def Passable (w : Word) : Prop := w.IsMachineCode ∧ w.nnn.toNat ≤ 0xFFE

instance (w : Word) : Decidable (Passable w) :=
  inferInstanceAs (Decidable (w.IsMachineCode ∧ w.nnn.toNat ≤ 0xFFE))

/-- The first `k` words of the chain pass on to the next. -/
def Passes (w : Word) (k : Nat) : Prop := ∀ i < k, Passable (m.chain w i)

instance (w : Word) (k : Nat) : Decidable (m.Passes w k) :=
  inferInstanceAs (Decidable (∀ i < k, Passable (m.chain w i)))

variable {m}

theorem passes_zero (w : Word) : m.Passes w 0 := fun _ h => absurd h (Nat.not_lt_zero _)

theorem Passes.succ {w : Word} {k : Nat} (h : m.Passes w k) (hk : Passable (m.chain w k)) :
    m.Passes w (k + 1) := by
  intro i hi
  rcases Nat.lt_succ_iff_lt_or_eq.mp hi with hlt | rfl
  · exact h i hlt
  · exact hk

theorem Passes.mono {w : Word} {j k : Nat} (h : m.Passes w k) (hjk : j ≤ k) : m.Passes w j :=
  fun i hi => h i (Nat.lt_of_lt_of_le hi hjk)

/-- **How a chain goes on within `n` hops**: it lands on a word that is no machine-code
call, it breaks off at a call of the last address, or it is still passing on. -/
theorem chain_cases (m : Memory) (w : Word) (n : Nat) :
    (∃ k ≤ n, m.Passes w k ∧ ¬(m.chain w k).IsMachineCode) ∨
      (∃ j < n, m.Passes w j ∧ (m.chain w j).IsMachineCode ∧ (m.chain w j).nnn.toNat = 0xFFF) ∨
      (m.Passes w n ∧ (m.chain w n).IsMachineCode) := by
  induction n with
  | zero =>
    by_cases hw : w.IsMachineCode
    · exact Or.inr (Or.inr ⟨passes_zero w, hw⟩)
    · exact Or.inl ⟨0, Nat.le_refl 0, passes_zero w, hw⟩
  | succ n ih =>
    rcases ih with ⟨k, hk, hland⟩ | ⟨j, hj, hbreak⟩ | ⟨hp, hm⟩
    · exact Or.inl ⟨k, Nat.le_succ_of_le hk, hland⟩
    · exact Or.inr (Or.inl ⟨j, Nat.lt_succ_of_lt hj, hbreak⟩)
    · by_cases hr : (m.chain w n).nnn.toNat ≤ 0xFFE
      · have hp' : m.Passes w (n + 1) := hp.succ ⟨hm, hr⟩
        by_cases hm' : (m.chain w (n + 1)).IsMachineCode
        · exact Or.inr (Or.inr ⟨hp', hm'⟩)
        · exact Or.inl ⟨n + 1, Nat.le_refl _, hp', hm'⟩
      · have hlt := (m.chain w n).nnn_lt
        exact Or.inr (Or.inl ⟨n, Nat.lt_succ_self n, hp, hm, by omega⟩)

/-- A chain that passes on until it meets a word again passes on for ever. -/
theorem Passes.of_periodic {w : Word} {i j : Nat} (hij : i < j)
    (h : m.chain w i = m.chain w j) (hp : m.Passes w j) (n : Nat) : m.Passes w n := by
  intro l _
  induction l using Nat.strongRecOn with
  | ind l ih =>
    rcases Nat.lt_or_ge l j with hlt | hge
    · exact hp l hlt
    · -- one period earlier the same word was met
      have hback := m.chain_periodic (Nat.le_of_lt hij) h (n := l - (j - i)) (by omega)
      rw [show l - (j - i) + (j - i) = l from by omega] at hback
      rw [hback]
      exact ih (l - (j - i)) (by omega) (by omega)

end Memory

namespace State

variable (s : State)

/-! ## The search, by the hops left -/

/-- The operation that a word comes down to within so many hops, and the word that stands
for it. -/
def settleWithin (hops : Nat) (w : Word) : Except Fault (Operation × Word) := do
  match ← w.resolve with
  | .operation op => return (op, w)
  | .machineCode => s.follow hops w

theorem settle_eq_settleWithin (w : Word) : s.settle w = s.settleWithin maxHops w := rfl

variable {s}

theorem settleWithin_of_matches (n : Nat) {w : Word} {op : Operation} (h : op.Matches w) :
    s.settleWithin n w = .ok (op, w) := by
  rw [settleWithin, Word.resolve_of_matches h]
  rfl

theorem settleWithin_of_unassigned (n : Nat) {w : Word} (h : w.IsUnassigned) :
    s.settleWithin n w = .error { cause := .invalidOpcode w.toNat .unassigned } := by
  rw [settleWithin, Word.resolve_of_unassigned h]
  rfl

theorem settleWithin_of_machineCode (n : Nat) {w : Word} (h : w.IsMachineCode) :
    s.settleWithin n w = s.follow n w := by
  rw [settleWithin, Word.resolve_of_machineCode h]
  rfl

/-- A word that is no machine-code call is settled without a hop. -/
theorem settleWithin_of_not_machineCode (j k : Nat) {w : Word} (h : ¬w.IsMachineCode) :
    s.settleWithin j w = s.settleWithin k w := by
  rcases w.kind_cases with hm | ⟨op, hop⟩ | hu
  · exact absurd hm h
  · rw [settleWithin_of_matches j hop, settleWithin_of_matches k hop]
  · rw [settleWithin_of_unassigned j hu, settleWithin_of_unassigned k hu]

/-- A hop uses up one of the hops left and nothing else. -/
theorem settleWithin_hop (n : Nat) {w : Word} (h : Memory.Passable w) :
    s.settleWithin (n + 1) w = s.settleWithin n (s.memory.hop w) := by
  rw [settleWithin_of_machineCode _ h.1, follow_succ,
    s.memory.wordAt_eq_word (Nat.lt_succ_of_le (Nat.succ_le_succ h.2))]
  rfl

/-- **After `k` hops that pass on, the search is for the `k`-th word.** -/
theorem settleWithin_add_of_passes (n : Nat) {w : Word} {k : Nat} (h : s.memory.Passes w k) :
    s.settleWithin (n + k) w = s.settleWithin n (s.memory.chain w k) := by
  induction k generalizing n with
  | zero => rfl
  | succ k ih =>
    rw [show n + (k + 1) = n + 1 + k from by omega, ih (n + 1) (h.mono (Nat.le_succ k)),
      settleWithin_hop n (h k (Nat.lt_succ_self k)), Memory.chain_succ]

theorem settle_of_passes {w : Word} {k : Nat} (hk : k ≤ maxHops) (h : s.memory.Passes w k) :
    s.settle w = s.settleWithin (maxHops - k) (s.memory.chain w k) := by
  rw [settle_eq_settleWithin, ← settleWithin_add_of_passes _ h, Nat.sub_add_cancel hk]

/-! ## What a chain comes down to -/

/-- A chain that lands comes down to what the word it lands on does. -/
theorem settle_of_lands {w : Word} {k : Nat} (hk : k ≤ maxHops) (hp : s.memory.Passes w k)
    (hw : ¬(s.memory.chain w k).IsMachineCode) : s.settle w = s.settle (s.memory.chain w k) := by
  rw [settle_of_passes hk hp, settle_eq_settleWithin]
  exact settleWithin_of_not_machineCode _ _ hw

/-- A chain that breaks off is refused by the address past the end of memory. -/
theorem settle_of_breaks {w : Word} {j : Nat} (hj : j < maxHops) (hp : s.memory.Passes w j)
    (hw : (s.memory.chain w j).IsMachineCode) (hlast : (s.memory.chain w j).nnn.toNat = 0xFFF) :
    s.settle w = .error { cause := .outOfBoundsAddress 0x1000 } := by
  obtain ⟨n, hn⟩ : ∃ n, maxHops - j = n + 1 := ⟨maxHops - j - 1, by omega⟩
  rw [settle_of_passes (Nat.le_of_lt hj) hp, hn, settleWithin_of_machineCode _ hw, follow_succ,
    hlast, s.memory.wordAt_of_le (by decide)]
  rfl

/-- A chain that is still passing on after the hops allowed is refused by the word it has
come to. -/
theorem settle_of_endless {w : Word} (hp : s.memory.Passes w maxHops)
    (hw : (s.memory.chain w maxHops).IsMachineCode) :
    s.settle w =
      .error { cause := .invalidOpcode (s.memory.chain w maxHops).toNat .endlessChain } := by
  rw [settle_of_passes (Nat.le_refl _) hp, Nat.sub_self, settleWithin_of_machineCode _ hw,
    follow_zero]

theorem execute_of_settle_eq {v w : Word} (h : s.settle v = s.settle w) :
    s.execute v = s.execute w := by
  rw [execute_eq_settle, execute_eq_settle, h]

theorem execute_of_settle_error {w : Word} {f : Fault} (h : s.settle w = .error f) :
    s.execute w = .error f := by
  rw [execute_eq_settle, h]
  rfl

theorem execute_of_matches {w : Word} {op : Operation} (h : op.Matches w) :
    s.execute w = op.run w s := by
  rw [execute_eq_settle, settle_eq_settleWithin, settleWithin_of_matches _ h]
  rfl

theorem execute_of_unassigned {w : Word} (h : w.IsUnassigned) :
    s.execute w = .error { cause := .invalidOpcode w.toNat .unassigned } :=
  execute_of_settle_error (settleWithin_of_unassigned maxHops h)

/-- **The meaning of a machine-code call**, in every state.

A chain of one to sixteen hops that lands has the outcome of the word it lands on, run in
the very state that the call was run in: no hop moves the program counter or anything else,
and a word in no table is the opcode that the fault names.  A chain that breaks off within
sixteen hops is refused by the address past the end of memory.  A chain that passes on
sixteen times is refused by its sixteenth word; so is every chain that comes back to a word
it has passed, however long its cycle, and no such chain runs on. -/
theorem execute_machineCode_chain (s : State) (w : Word) :
    (∀ k, 1 ≤ k → k ≤ 16 → s.memory.Passes w k → ¬(s.memory.chain w k).IsMachineCode →
      s.execute w = s.execute (s.memory.chain w k) ∧
      (∀ op : Operation, op.Matches (s.memory.chain w k) →
        s.execute w = op.run (s.memory.chain w k) s) ∧
      ((s.memory.chain w k).IsUnassigned →
        s.execute w =
          .error { cause := .invalidOpcode (s.memory.chain w k).toNat .unassigned })) ∧
    (∀ j < 16, s.memory.Passes w j → (s.memory.chain w j).IsMachineCode →
      (s.memory.chain w j).nnn.toNat = 0xFFF →
      s.execute w = .error { cause := .outOfBoundsAddress 0x1000 }) ∧
    (s.memory.Passes w 16 → (s.memory.chain w 16).IsMachineCode →
      s.execute w =
        .error { cause := .invalidOpcode (s.memory.chain w 16).toNat .endlessChain }) ∧
    (∀ i j, i < j → s.memory.chain w i = s.memory.chain w j → s.memory.Passes w j →
      s.execute w =
        .error { cause := .invalidOpcode (s.memory.chain w 16).toNat .endlessChain }) := by
  have endless : s.memory.Passes w 16 → (s.memory.chain w 16).IsMachineCode →
      s.execute w =
        .error { cause := .invalidOpcode (s.memory.chain w 16).toNat .endlessChain } :=
    fun hp hw => execute_of_settle_error (settle_of_endless hp hw)
  refine ⟨fun k _ hk hp hw => ?_, fun j hj hp hw hlast => ?_, endless, fun i j hij h hp => ?_⟩
  · have heq := execute_of_settle_eq (settle_of_lands hk hp hw)
    exact ⟨heq, fun op hop => heq.trans (execute_of_matches hop),
      fun hu => heq.trans (execute_of_unassigned hu)⟩
  · exact execute_of_settle_error (settle_of_breaks hj hp hw hlast)
  · have hall := Memory.Passes.of_periodic hij h hp
    exact endless (hall 16) (hall 17 16 (Nat.lt_succ_self 16)).1

/-- The four clauses at work.  The program is a call of its own address, followed by
`602A`; the word at address `050`, past the glyphs, is `0000`, which calls the first glyph's
first word. -/
theorem execute_machineCode_chain_sample :
    let s : State := { State.initial (.ofSeed 0) .classic with
      memory := Memory.initial.store programStart [0x02, 0x00, 0x60, 0x2A] }
    s.execute 0x0202 = Operation.setByte.run 0x602A s ∧
    s.execute 0x0050 = .error { cause := .invalidOpcode 0xF090 .unassigned } ∧
    s.execute 0x0FFF = .error { cause := .outOfBoundsAddress 0x1000 } ∧
    s.execute 0x0200 = .error { cause := .invalidOpcode 0x0200 .endlessChain } := by
  intro s
  have hland : s.memory.Passes 0x0202 1 ∧ s.memory.chain 0x0202 1 = 0x602A := by decide +kernel
  have hglyph : s.memory.Passes 0x0050 2 ∧ s.memory.chain 0x0050 2 = 0xF090 := by decide +kernel
  have hself : s.memory.Passes 0x0200 1 ∧ s.memory.hop 0x0200 = 0x0200 := by decide +kernel
  have hstay : ∀ n, s.memory.chain 0x0200 n = 0x0200 := by
    intro n
    induction n with
    | zero => rfl
    | succ n ih => rw [Memory.chain_succ, ih, hself.2]
  refine ⟨?_, ?_, ?_, ?_⟩
  · have h := (s.execute_machineCode_chain 0x0202).1 1 (by decide) (by decide) hland.1
    rw [hland.2] at h
    exact (h (by decide)).2.1 .setByte (by decide)
  · have h := (s.execute_machineCode_chain 0x0050).1 2 (by decide) (by decide) hglyph.1
    rw [hglyph.2] at h
    exact (h (by decide)).2.2 (by decide)
  · exact (s.execute_machineCode_chain 0x0FFF).2.1 0 (by decide) (Memory.passes_zero _)
      (by decide) (by decide)
  · have h := (s.execute_machineCode_chain 0x0200).2.2.2 0 1 (by decide) (hstay 1).symm hself.1
    rw [hstay 16] at h
    exact h

end State

end ChipEight
