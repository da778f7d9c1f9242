import ChipEight.Proofs.KeyWaits

/-! # A release is taken once

Of the instructions that wait for a key, the first one that finds a key released takes it, and by
that uses up all releases of its frame: what counts as the keys of the frame before is overwritten
with those of this frame (`State.step_keypads`), and nothing else that a program does in a frame
touches either.  So of all steps of a run at most one completes such an instruction
(`Run.pairwise_completes`), and the key it stores is one that was released when the run began
(`Run.released_of_completes`).

Of a frame this means: the key was down before the frame and is up in its keys, and an
instruction that waits for another one ends the frame.  `deliveries` lists, over several frames,
which key was stored in which frame.
-/
namespace ChipEight

namespace Taken

/-- A step for a key that completed: it went on. -/
def Completes (t : Taken) : Prop :=
  Operation.waitKey.Matches t.word ∧ t.after.pc ≠ t.before.pc

instance (t : Taken) : Decidable t.Completes :=
  inferInstanceAs (Decidable (Operation.waitKey.Matches t.word ∧ t.after.pc ≠ t.before.pc))

/-- What a step for a key stored, if it completed. -/
def stored? (t : Taken) : Option UInt8 :=
  if t.Completes then some (t.after.registers.get t.word.x) else none

theorem completes_of_stored? {t : Taken} {b : UInt8} (h : t.stored? = some b) : t.Completes := by
  unfold stored? at h
  split at h
  · assumption
  · cases h

/-- A step for a key that does not complete waits, and changes nothing. -/
theorem waits_of_not_completes {t : Taken} (h : t.before.step = .ok (t.after, t.word))
    (hop : Operation.waitKey.Matches t.word) (hno : ¬t.Completes) :
    t.Waits ∧ t.after = t.before := by
  rcases State.step_of_waits h hop with hwaits | ⟨-, hne⟩
  · exact hwaits
  · exact absurd ⟨hop, hne⟩ hno

end Taken

namespace State

variable {s s' : State} {w : Word}

/-- What a step does to the keys of a frame. -/
theorem step_keypads (h : s.step = .ok (s', w)) :
    s'.keypad = s.keypad ∧
      ((¬Taken.Completes ⟨s, w, s'⟩ ∧ s'.previousKeypad = s.previousKeypad) ∨
        (Taken.Completes ⟨s, w, s'⟩ ∧ s'.previousKeypad = s.keypad ∧
          ∃ k, s.previousKeypad.Released s.keypad k ∧
            s'.registers.get w.x = UInt8.ofNat k.val)) := by
  obtain ⟨-, op, hop, -, he⟩ := step_ok h
  refine ⟨he.keypads.1, ?_⟩
  by_cases hw : Operation.waitKey.Matches w
  · obtain rfl := hop.unique hw
    cases he with
    | wait => exact Or.inl ⟨fun hc => hc.2 s.past_pc_sub, rfl⟩
    | takeKey hk =>
      refine Or.inr ⟨⟨hw, s.past_pc_ne⟩, rfl, _,
        Keypad.released?_eq_some_iff_released.mp hk, ?_⟩
      exact Vector.getElem_setIfInBounds_self ..
  · refine Or.inl ⟨fun hc => hw hc.1, he.keypads.2 ?_⟩
    rintro rfl
    exact hw hop

end State

/-! ## Along a run -/

namespace Run

variable {s t : State} {steps : List Taken}

/-- Where all releases are used up, no step for a key completes. -/
theorem not_completes (h : Run s steps t) (hs : s.previousKeypad = s.keypad) :
    ∀ u ∈ steps, ¬u.Completes := by
  induction h with
  | nil => exact fun _ hu => absurd hu List.not_mem_nil
  | cons hstep _ ih =>
    obtain ⟨hkeys, ⟨hno, hprevious⟩ | ⟨-, -, k, hk, -⟩⟩ := State.step_keypads hstep
    · exact List.forall_mem_cons.mpr ⟨hno, ih (by rw [hprevious, hkeys, hs])⟩
    · rw [hs] at hk
      exact absurd (fun _ hdown => hdown) hk.not_held

/-- Of two steps of a run, at most one completes. -/
theorem pairwise_completes (h : Run s steps t) :
    steps.Pairwise fun u v => u.Completes → ¬v.Completes := by
  induction h with
  | nil => exact List.Pairwise.nil
  | cons hstep rest ih =>
    refine List.pairwise_cons.mpr ⟨fun v hv hc => ?_, ih⟩
    obtain ⟨hkeys, ⟨hno, -⟩ | ⟨-, hprevious, -⟩⟩ := State.step_keypads hstep
    · exact absurd hc hno
    · exact rest.not_completes (by rw [hprevious, hkeys]) v hv

/-- The key stored was released when the run began. -/
theorem released_of_completes (h : Run s steps t) :
    ∀ u ∈ steps, u.Completes → ∃ k, s.previousKeypad.Released s.keypad k ∧
      u.after.registers.get u.word.x = UInt8.ofNat k.val := by
  induction h with
  | nil => exact fun _ hu => absurd hu List.not_mem_nil
  | cons hstep rest ih =>
    obtain ⟨hkeys, ⟨hno, hprevious⟩ | ⟨-, hprevious, hk⟩⟩ := State.step_keypads hstep
    · rw [hprevious, hkeys] at ih
      exact List.forall_mem_cons.mpr ⟨fun hc => absurd hc hno, ih⟩
    · refine List.forall_mem_cons.mpr ⟨fun _ => hk, fun u hu hc => ?_⟩
      exact absurd hc (rest.not_completes (by rw [hprevious, hkeys]) u hu)

end Run

/-! ## In a frame -/

/-- A step that waits is the last of its frame, which ends by it. -/
theorem Closes.of_waits {budget : Nat} {init rest : List Taken} {u : Taken} {last : State}
    {e : Ending} (h : Closes budget (init ++ u :: rest) last e) (hu : u.Waits) :
    rest = [] ∧ e = .keyWait := by
  have hrest : rest = [] := by
    cases rest with
    | nil => rfl
    | cons v rest =>
      have hmem : u ∈ (init ++ u :: v :: rest).dropLast := by
        rw [List.dropLast_append_of_ne_nil (List.cons_ne_nil _ _), List.dropLast_cons_cons]
        exact List.mem_append_right _ List.mem_cons_self
      exact absurd hu (h.not_ends_of_mem_dropLast u hmem).2
  subst hrest
  have hmem : u ∈ init ++ [u] := List.mem_append_right _ List.mem_cons_self
  refine ⟨rfl, ?_⟩
  cases e with
  | budget => exact absurd hu (h.2 u hmem).2
  | keyWait => rfl
  | fault f => exact absurd hu (h.2.1 u hmem).2
  | draw =>
    obtain ⟨init', v, heq, -, hdraws⟩ := h
    obtain ⟨-, hlast⟩ := List.append_inj' heq rfl
    obtain rfl := (List.cons.inj hlast).1
    cases hu.1.unique hdraws

namespace Played

variable {f : Played}

/-- How the releases of a frame are taken. -/
structure TakesOnce (f : Played) : Prop where
  /-- Of two instructions that wait for a key, at most one completes. -/
  once : f.steps.Pairwise fun t u => t.Completes → ¬u.Completes
  /-- After one that completed, the next one changes nothing and ends the frame with its wait. -/
  waits_after : ∀ init t mid u rest, f.steps = init ++ t :: mid ++ u :: rest → t.Completes →
    Operation.waitKey.Matches u.word →
      u.Waits ∧ u.after = u.before ∧ rest = [] ∧ f.account.waiting = true
  /-- The key stored was down before the frame and is up in its keys. -/
  released : ∀ t ∈ f.steps, t.Completes → ∃ k : Fin 16,
    f.before.keypad.get k = true ∧ f.vector.get k = false ∧
      t.after.registers.get t.word.x = UInt8.ofNat k.val
  /-- Without keys of its own, the frame has nothing to take. -/
  no_keys : f.keys = none → ∀ t ∈ f.steps, ¬t.Completes

theorem Faithful.waits_after (h : f.Faithful) {init mid rest : List Taken} {t u : Taken}
    (hsteps : f.steps = init ++ t :: mid ++ u :: rest) (ht : t.Completes)
    (hop : Operation.waitKey.Matches u.word) :
    u.Waits ∧ u.after = u.before ∧ rest = [] ∧ f.account.waiting = true := by
  have hpair := h.run.pairwise_completes
  have hclose := h.closes
  rw [hsteps] at hpair hclose
  have hmem : u ∈ f.steps := by
    rw [hsteps]
    exact List.mem_append_right _ List.mem_cons_self
  have hno : ¬u.Completes :=
    (List.pairwise_append.mp hpair).2.2 t (List.mem_append_right _ List.mem_cons_self) u
      List.mem_cons_self ht
  obtain ⟨hwaits, hsame⟩ := Taken.waits_of_not_completes (h.run.step_of_mem u hmem) hop hno
  obtain ⟨hrest, hending⟩ := hclose.of_waits hwaits
  exact ⟨hwaits, hsame, hrest, beq_iff_eq.mpr hending⟩

theorem Faithful.takesOnce (h : f.Faithful) : f.TakesOnce where
  once := h.run.pairwise_completes
  waits_after := by
    intro init t mid u rest hsteps ht hop
    exact h.waits_after hsteps ht hop
  released := by
    intro t hmem ht
    obtain ⟨k, hk, hstored⟩ := h.run.released_of_completes t hmem ht
    exact ⟨k, hk.down, hk.up, hstored⟩
  no_keys := by
    intro hkeys
    refine h.run.not_completes ?_
    show f.before.keypad = f.keys.getD f.before.keypad
    rw [hkeys]
    rfl

/-- Nothing is stored twice in a frame. -/
theorem Faithful.nodup_stored (h : f.Faithful) : (f.steps.filterMap Taken.stored?).Nodup := by
  refine List.Pairwise.filterMap Taken.stored? ?_ h.run.pairwise_completes
  intro u v hone b hb b' hb'
  exact absurd (Taken.completes_of_stored? hb') (hone (Taken.completes_of_stored? hb))

end Played

/-! ## Over several frames -/

/-- The keys stored in several frames, each with the number of its frame. -/
def deliveries (frames : List Played) : List (UInt8 × Nat) :=
  frames.zipIdx.flatMap fun p => (p.1.steps.filterMap Taken.stored?).map fun b => (b, p.2)

theorem nodup_deliveries {frames : List Played} (h : ∀ f ∈ frames, f.Faithful) :
    (deliveries frames).Nodup := by
  have hnumbers : frames.zipIdx.Pairwise fun p q => p.2 ≠ q.2 := by
    refine List.pairwise_map.mp ?_
    rw [List.zipIdx_map_snd]
    exact List.nodup_range' ..
  refine List.pairwise_flatMap.mpr ⟨?_, hnumbers.imp ?_⟩
  · rintro ⟨f, i⟩ hf
    refine List.pairwise_map.mpr ?_
    have hstored := (h f (List.fst_mem_of_mem_zipIdx hf)).nodup_stored
    exact hstored.imp fun hne heq => hne (Prod.mk.inj heq).1
  · -- entries of two frames differ in the number of the frame
    rintro ⟨f, i⟩ ⟨g, j⟩ hij a ha b hb rfl
    obtain ⟨k, -, hk⟩ := List.mem_map.mp ha
    obtain ⟨l, -, hl⟩ := List.mem_map.mp hb
    exact hij (Prod.mk.inj (hk.trans hl.symm)).2

/-- **A release satisfies one wait at most**, over any frames.

Whatever frames are called with, in each of them at most one instruction that waits for a key
completes, and the next one ends the frame.  The key that it stores was down before the frame and
is up in the keys of the frame, so that a frame without keys of its own completes none, and no key
is stored twice as released in the same frame. -/
theorem State.release_satisfies_one_wait (s : State) (calls : List (Option Keypad × Int)) :
    ∃ frames, Frames s frames (s.runFrames calls) ∧ frames.map Played.call = calls ∧
      (∀ f ∈ frames, f.TakesOnce) ∧ (deliveries frames).Nodup := by
  obtain ⟨frames, hframes, hcalls⟩ := exists_frames s calls
  have hfaithful := hframes.faithful
  refine ⟨frames, hframes, hcalls, ?_, nodup_deliveries hfaithful⟩
  intro f hf
  exact (hfaithful f hf).takesOnce

/-- The key 5 is released, and two instructions wait for a key: `V0` gets it, and `V1` none. -/
example :
    let s : State := { State.initial (.ofSeed 0) .classic with
      memory := Memory.initial.store programStart [0xF0, 0x0A, 0xF1, 0x0A]
      keypad := .ofKeys [5] }
    let r := s.runFrame (some (.ofKeys [])) 11
    r.executed.map (·.word) = [0xF00A, 0xF10A] ∧ r.waiting = true ∧
      r.state.registers.get 0 = 5 ∧ r.state.registers.get 1 = 0 := by
  decide +kernel

end ChipEight
