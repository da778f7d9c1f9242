import ChipEight.Proofs.FetchExecute
import ChipEight.Proofs.Sessions

/-! # Waiting for a key

An instruction that waits for a key steps back over itself and ends its frame, and the next frame
begins with it again.  What decides is whether a key that was down in the frame before is up in
this one: `Keypad.Held` says that there is none, `Keypad.Released` which is the lowest.

`State.AwaitsKey s w` says that the word at the program counter comes down to such an instruction.
As this depends on memory and the program counter only, it outlasts every frame in which the wait
goes on (`AwaitsKey.runFrame_of_held`), hence every sequence of them (`AwaitsKey.runFrames`), and
the first frame in which a key is released begins with taking it (`AwaitsKey.runFrame_of_released`).
-/
namespace ChipEight

/-! ## Releases -/

namespace Keypad

/-- Every key that was down is still down. -/
def Held (before now : Keypad) : Prop := ∀ k : Fin 16, before.get k = true → now.get k = true

instance (before now : Keypad) : Decidable (before.Held now) :=
  inferInstanceAs (Decidable (∀ k : Fin 16, before.get k = true → now.get k = true))

/-- This key was down and is up, and it is the lowest that is so. -/
structure Released (before now : Keypad) (k : Fin 16) : Prop where
  down : before.get k = true
  up : now.get k = false
  lowest : ∀ j < k, before.get j = true → now.get j = true

/-- No key is released from one keypad to the next. -/
def Quiet (keypads : List Keypad) : Prop :=
  ∀ i before now, keypads[i]? = some before → keypads[i + 1]? = some now → before.Held now

theorem released?_eq_some_iff_released {before now : Keypad} {k : Fin 16} :
    released? before now = some k ↔ before.Released now k := by
  rw [released?_eq_some_iff]
  constructor
  · rintro ⟨hk, hmin⟩
    simp only [Bool.and_eq_true, Bool.not_eq_true'] at hk
    refine ⟨hk.1, hk.2, fun j hj hdown => ?_⟩
    simpa [hdown] using hmin j hj
  · rintro ⟨hdown, hup, hmin⟩
    refine ⟨by rw [hdown, hup]; rfl, fun j hj => ?_⟩
    cases hj' : before.get j with
    | false => rfl
    | true => rw [hmin j hj hj']; rfl

theorem Released.not_held {before now : Keypad} {k : Fin 16} (h : before.Released now k) :
    ¬before.Held now := by
  intro hheld
  have hup := h.up
  rw [hheld k h.down] at hup
  cases hup

end Keypad

namespace State

variable {s t : State} {w : Word} {k : Fin 16}

/-! ## The instruction that waits -/

/-- The next instruction waits for a key, and this is its word. -/
structure AwaitsKey (s : State) (w : Word) : Prop where
  pc_le : s.pc.toNat ≤ 0xFFE
  settles : s.settle s.word = .ok (.waitKey, w)

/-- The state after a key was taken. -/
def takeKey (s : State) (x k : Fin 16) : State := {
  s with
  registers := s.registers.setIfInBounds x (UInt8.ofNat k.val)
  pc := s.pc + 2
  previousKeypad := s.keypad }

theorem past_waitForKey_of_held (h : s.previousKeypad.Held s.keypad) (x : Fin 16) :
    s.past.waitForKey x = s := by
  have hnone : Keypad.released? s.past.previousKeypad s.past.keypad = none :=
    Keypad.released?_eq_none_iff_held.mpr h
  unfold waitForKey
  rw [hnone]
  show { s with pc := s.past.pc - 2 } = s
  rw [past_pc_sub]

theorem past_waitForKey_of_released (h : s.previousKeypad.Released s.keypad k) (x : Fin 16) :
    s.past.waitForKey x = s.takeKey x k := by
  have hsome : Keypad.released? s.past.previousKeypad s.past.keypad = some k :=
    Keypad.released?_eq_some_iff_released.mpr h
  unfold waitForKey
  rw [hsome]
  rfl

namespace AwaitsKey

theorem op_matches (h : s.AwaitsKey w) : Operation.waitKey.Matches w := by
  obtain ⟨-, -, -, -, hop⟩ := settle_eq_ok_iff.mp h.settles
  exact hop

/-- What comes next depends on memory and the program counter. -/
theorem congr (h : s.AwaitsKey w) (hmem : t.memory = s.memory) (hpc : t.pc = s.pc) :
    t.AwaitsKey w := by
  have hword : t.word = s.word := by rw [word, word, hmem, hpc]
  refine ⟨hpc ▸ h.pc_le, ?_⟩
  rw [hword, settle_congr hmem]
  exact h.settles

theorem beginFrame (h : s.AwaitsKey w) (keys : Option Keypad) : (s.beginFrame keys).AwaitsKey w :=
  h.congr rfl rfl

theorem step_eq (h : s.AwaitsKey w) : s.step = .ok (s.past.waitForKey w.x, w) :=
  step_eq_ok_iff_run.mpr ⟨h.pc_le, .waitKey, h.settles, rfl⟩

theorem step_of_held (h : s.AwaitsKey w) (hheld : s.previousKeypad.Held s.keypad) :
    s.step = .ok (s, w) := by
  rw [h.step_eq, past_waitForKey_of_held hheld]

theorem step_of_released (h : s.AwaitsKey w) (hk : s.previousKeypad.Released s.keypad k) :
    s.step = .ok (s.takeKey w.x k, w) := by
  rw [h.step_eq, past_waitForKey_of_released hk]

theorem not_draws (h : s.AwaitsKey w) (t : State) : ¬Taken.Draws ⟨s, w, t⟩ := by
  intro hd
  cases h.op_matches.unique hd

/-! ## Frames that begin with it -/

theorem runSteps_of_held (h : s.AwaitsKey w) (hheld : s.previousKeypad.Held s.keypad) (n : Nat) :
    s.runSteps (n + 1) = ⟨s, [⟨s.pc, w⟩], .keyWait⟩ := by
  have hstep := h.step_of_held hheld
  rcases endingAfter_cases hstep with ⟨-, hd⟩ | ⟨he, -⟩ | ⟨-, -, hnw⟩
  · exact absurd hd (h.not_draws s)
  · exact runSteps_succ_of_ending n hstep he
  · exact absurd ⟨h.op_matches, hheld⟩ hnw

theorem runSteps_of_released (h : s.AwaitsKey w) (hk : s.previousKeypad.Released s.keypad k)
    (n : Nat) : s.runSteps (n + 1) = ((s.takeKey w.x k).runSteps n).after ⟨s.pc, w⟩ := by
  have hstep := h.step_of_released hk
  rcases endingAfter_cases hstep with ⟨-, hd⟩ | ⟨-, hw, -⟩ | ⟨he, -⟩
  · exact absurd hd (h.not_draws _)
  · exact absurd hw.2 hk.not_held
  · exact runSteps_succ_of_none n hstep he

/-- The wait goes on for a whole frame. -/
theorem runFrame_of_held (h : s.AwaitsKey w) {keys : Keypad} {budget : Int}
    (hheld : s.keypad.Held keys) (hbudget : 1 ≤ budget) :
    s.runFrame (some keys) budget =
      ⟨s.beginFrame (some keys), [⟨s.pc, w⟩], .keyWait⟩ := by
  obtain ⟨n, hn⟩ : ∃ n, budget.toNat = n + 1 := ⟨budget.toNat - 1, by omega⟩
  rw [runFrame, hn]
  exact (h.beginFrame (some keys)).runSteps_of_held hheld n

/-- The frame begins with taking the key. -/
theorem runFrame_of_released (h : s.AwaitsKey w) {keys : Keypad} {budget : Int}
    (hk : s.keypad.Released keys k) (hbudget : 1 ≤ budget) :
    s.runFrame (some keys) budget =
      (((s.beginFrame (some keys)).takeKey w.x k).runSteps (budget.toNat - 1)).after
        ⟨s.pc, w⟩ := by
  obtain ⟨n, hn⟩ : ∃ n, budget.toNat = n + 1 := ⟨budget.toNat - 1, by omega⟩
  rw [runFrame, hn]
  exact (h.beginFrame (some keys)).runSteps_of_released hk n

/-- The wait goes on as long as no key is released. -/
theorem runFrames (h : s.AwaitsKey w) {frames : List (Keypad × Int)}
    (hbudget : ∀ f ∈ frames, 1 ≤ f.2)
    (hquiet : Keypad.Quiet (s.keypad :: frames.map Prod.fst)) :
    let t := s.runFrames (frames.map fun f => (some f.1, f.2))
    t.AwaitsKey w ∧ t.pc = s.pc ∧ (s.keypad :: frames.map Prod.fst).getLast? = some t.keypad := by
  induction frames generalizing s with
  | nil => exact ⟨h, rfl, rfl⟩
  | cons f frames ih =>
    obtain ⟨keys, budget⟩ := f
    obtain ⟨hone, hmore⟩ := List.forall_mem_cons.mp hbudget
    have hheld : s.keypad.Held keys := hquiet 0 _ _ rfl rfl
    have hquiet' : Keypad.Quiet ((s.beginFrame (some keys)).keypad :: frames.map Prod.fst) :=
      fun i before now hb hn => hquiet (i + 1) before now hb hn
    obtain ⟨hawaits, hpc, hlast⟩ := ih (h.beginFrame (some keys)) hmore hquiet'
    have hrun : s.runFrames (((keys, budget) :: frames).map fun f => (some f.1, f.2)) =
        (s.beginFrame (some keys)).runFrames (frames.map fun f => (some f.1, f.2)) := by
      show ((s.runFrame (some keys) budget).state).runFrames _ = _
      rw [h.runFrame_of_held hheld hone]
    simp only [hrun]
    refine ⟨hawaits, hpc, ?_⟩
    rw [List.map_cons, List.getLast?_cons_cons]
    exact hlast

end AwaitsKey

/-- A frame that ended with a wait leaves a state in which the wait is next. -/
theorem awaitsKey_of_waiting {keys : Option Keypad} {budget : Int}
    (h : (s.runFrame keys budget).waiting = true) :
    ∃ w, (s.runFrame keys budget).state.AwaitsKey w := by
  have hending : (s.runFrame keys budget).ending = .keyWait := beq_iff_eq.mp h
  obtain ⟨steps, hrun, -, -, hclose⟩ := s.runFrame_closes keys budget
  rw [hending] at hclose
  obtain ⟨init, last, rfl, -, hwaits, hsame⟩ := hclose
  obtain ⟨t, -, hlast⟩ := hrun.of_append
  obtain ⟨rfl, hstep, hend⟩ := hlast.of_cons
  obtain ⟨hpc, op, hop, hsettle, -⟩ := step_ok hstep
  obtain rfl := hop.unique hwaits.1
  -- the last step left the state as it was
  have hstate : (s.runFrame keys budget).state = last.before := hend.of_nil.trans hsame
  exact ⟨last.word, hstate ▸ ⟨hpc, hsettle⟩⟩

/-! ## Waiting across frames -/

/-- What a frame begins with. -/
theorem beginFrame_some (s : State) (keys : Keypad) :
    s.beginFrame (some keys) = {
      s with
      delayTimer := UInt8.ofNat (s.delayTimer.toNat - 1)
      soundTimer := UInt8.ofNat (s.soundTimer.toNat - 1)
      keypad := keys
      previousKeypad := s.keypad } := by
  rw [beginFrame, tick_eq]
  rfl

/-- **A wait for a key lasts until a key is released**, over any frames.

Let a frame have ended with a wait.  The state it left stands at a word that waits for a key, or
at a chain that lands on one, and in every further frame with a budget, as long as no key is
released from one frame's keys to the next, that word is the only one to run: the frame ends with
the wait again, and changes the timers, which count down, and the keys.  The first frame in which
a key is released begins with that word, which now puts the lowest of the keys released into its
register, goes on past the address of the wait and uses up the releases, and changes nothing
else. -/
theorem runFrame_waits_until_release {keys : Option Keypad} {budget : Int}
    (h : (s.runFrame keys budget).waiting = true) :
    let r := (s.runFrame keys budget).state
    ∃ w, Operation.waitKey.Matches w ∧ r.pc.toNat ≤ 0xFFE ∧ r.memory.LandsOn r.word w ∧
      ∀ (frames : List (Keypad × Int)) (now : Keypad) (b : Int),
        (∀ f ∈ frames, 1 ≤ f.2) → 1 ≤ b → Keypad.Quiet (r.keypad :: frames.map Prod.fst) →
        let t := r.runFrames (frames.map fun f => (some f.1, f.2))
        let t₀ : State := {
          t with
          delayTimer := UInt8.ofNat (t.delayTimer.toNat - 1)
          soundTimer := UInt8.ofNat (t.soundTimer.toNat - 1)
          keypad := now
          previousKeypad := t.keypad }
        (r.keypad :: frames.map Prod.fst).getLast? = some t.keypad ∧
        (t.keypad.Held now → t.runFrame (some now) b = ⟨t₀, [⟨r.pc, w⟩], .keyWait⟩) ∧
        ∀ k, t.keypad.Released now k →
          let t₁ : State := {
            t₀ with
            registers := t₀.registers.setIfInBounds w.x (UInt8.ofNat k.val)
            pc := r.pc + 2
            previousKeypad := now }
          t₀.step = .ok (t₁, w) ∧
            t.runFrame (some now) b = (t₁.runSteps (b.toNat - 1)).after ⟨r.pc, w⟩ := by
  intro r
  obtain ⟨w, hr⟩ := awaitsKey_of_waiting h
  refine ⟨w, hr.op_matches, hr.pc_le, landsOn_of_settle hr.settles, ?_⟩
  intro frames now b hbudget hb hquiet t t₀
  obtain ⟨ht, hpc, hlast⟩ := hr.runFrames hbudget hquiet
  have hbegin : t.beginFrame (some now) = t₀ := t.beginFrame_some now
  refine ⟨hlast, fun hheld => ?_, ?_⟩
  · rw [ht.runFrame_of_held hheld hb, hbegin, hpc]
  · intro k hk t₁
    have htake : t₀.takeKey w.x k = t₁ := by
      show _ = { t₀.takeKey w.x k with pc := r.pc + 2 }
      rw [← hpc]
      rfl
    have ht₀ : t₀.AwaitsKey w := hbegin ▸ ht.beginFrame (some now)
    refine ⟨htake ▸ ht₀.step_of_released hk, ?_⟩
    rw [ht.runFrame_of_released hk hb, hbegin, htake, hpc]

/-- The keys 2 and 5 are pressed in the frame that begins to wait, joined by 7 in the next, and
released in the third. -/
theorem runFrame_waits_until_release_sample :
    let s : State := { State.initial (.ofSeed 0) .classic with
      memory := Memory.initial.store programStart [0xF3, 0x0A] }
    let r := (s.runFrame (some (.ofKeys [2, 5])) 11).state
    let t := r.runFrames [(some (.ofKeys [2, 5, 7]), 1)]
    (s.runFrame (some (.ofKeys [2, 5])) 11).waiting = true ∧
      ∃ w, Operation.waitKey.Matches w ∧
        (r.runFrame (some (.ofKeys [2, 5, 7])) 1).executed = [⟨r.pc, w⟩] ∧
        ∃ t₁ : State, t.runFrame (some (.ofKeys [7])) 1 = (t₁.runSteps 0).after ⟨r.pc, w⟩ ∧
          t₁.registers.get w.x = 2 ∧ t₁.pc = r.pc + 2 := by
  intro s r t
  have hword : s.word = 0xF30A := by decide +kernel
  have hchain : s.memory.chain s.word 0 = 0xF30A := (Memory.chain_zero _ _).trans hword
  have hs : s.AwaitsKey 0xF30A :=
    ⟨by decide, settle_eq_ok_iff.mpr ⟨0, by decide, Memory.passes_zero _, hchain, by decide⟩⟩
  have hpress : s.keypad.Held (.ofKeys [2, 5]) := by decide
  have hwait : (s.runFrame (some (.ofKeys [2, 5])) 11).waiting = true := by
    rw [hs.runFrame_of_held hpress (by decide)]
    rfl
  have hr : r.keypad = .ofKeys [2, 5] := by
    show ((s.runFrame (some (.ofKeys [2, 5])) 11).state).keypad = _
    rw [hs.runFrame_of_held hpress (by decide)]
    rfl
  obtain ⟨w, hmatches, -, -, hframes⟩ := runFrame_waits_until_release hwait
  refine ⟨hwait, w, hmatches, ?_, ?_⟩
  · obtain ⟨-, hgoesOn, -⟩ := hframes [] (.ofKeys [2, 5, 7]) 1 (by decide) (by decide) nofun
    have hheld : r.keypad.Held (.ofKeys [2, 5, 7]) := by
      rw [hr]
      decide
    exact congrArg Frame.executed (hgoesOn hheld)
  · have hquiet : Keypad.Quiet [r.keypad, .ofKeys [2, 5, 7]] := by
      rintro (_ | i) before now hb hn
      · obtain rfl := Option.some.inj hb
        obtain rfl := Option.some.inj hn
        exact hr ▸ by decide
      · cases hn
    obtain ⟨hlast, -, hends⟩ :=
      hframes [(.ofKeys [2, 5, 7], 1)] (.ofKeys [7]) 1 (by decide) (by decide) hquiet
    have ht : t.keypad = .ofKeys [2, 5, 7] := (Option.some.inj hlast).symm
    have hreleased : t.keypad.Released (.ofKeys [7]) 2 := by
      rw [ht]
      exact ⟨by decide, by decide, by decide⟩
    obtain ⟨-, hrun⟩ := hends 2 hreleased
    exact ⟨_, hrun, Vector.getElem_setIfInBounds_self .., rfl⟩

end State

end ChipEight
