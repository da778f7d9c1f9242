import ChipEight.Proofs.Sessions
import ChipEight.Proofs.StackContents

/-! # Subroutines return to where they were called

A call puts a return address on top of the pending calls, and every later step either leaves
them alone, puts one more on top, or is a return that takes the topmost (`step_calls`).  So an
address stays where it is until the very return that takes it: `step_pending` says so of one
step, for the calls up to and including that address, and `Session.pending` of a session by
induction on the number of steps until the return.

What was below the address is then all that is pending, and since a tidy stack is no more than
its pending calls, the stack is the one that the call found (`Reachable.call_returns`).
-/
namespace ChipEight

namespace State

variable {s s' : State} {w : Word} {older : List UInt16} {a : UInt16}

/-- What a step does to the pending calls. -/
theorem step_calls (hs : s.stack.Tidy) (h : s.step = .ok (s', w)) :
    (¬Operation.call.Matches w ∧ s'.stack.calls = s.stack.calls) ∨
      (Operation.call.Matches w ∧
        s'.stack.calls = s.stack.calls ++ [CallStack.kept s.past.pc.toNat]) ∨
      (Operation.returnFromCall.Matches w ∧ s.stack.calls = s'.stack.calls ++ [s'.pc]) := by
  obtain ⟨-, op, hop, -, he⟩ := step_ok h
  rcases he.stack with ⟨hne, heq⟩ | ⟨rfl, hpush⟩ | ⟨rfl, hpop⟩
  · refine Or.inl ⟨fun hcall => hne (hop.unique hcall), ?_⟩
    rw [heq]
    rfl
  · exact Or.inr (Or.inl ⟨hop, hs.push_calls hpush⟩)
  · exact Or.inr (Or.inr ⟨hop, hs.pop_calls hpop⟩)

/-- A pending call stays pending, with those below it, unless the step is the return that takes
it. -/
theorem step_pending (hs : s.stack.Tidy) (h : s.step = .ok (s', w))
    (hpending : older ++ [a] <+: s.stack.calls) :
    older ++ [a] <+: s'.stack.calls ∨
      (Operation.returnFromCall.Matches w ∧ s'.stack.calls = older ∧ s'.pc = a) := by
  rcases step_calls hs h with ⟨-, heq⟩ | ⟨-, heq⟩ | ⟨hreturn, heq⟩
  · rw [heq]
    exact Or.inl hpending
  · rw [heq]
    exact Or.inl (hpending.trans (List.prefix_append _ _))
  · rw [heq] at hpending
    rcases List.prefix_concat_iff.mp hpending with htop | hbelow
    · obtain ⟨hcalls, haddr⟩ := List.append_inj' htop rfl
      exact Or.inr ⟨hreturn, hcalls.symm, (List.cons.inj haddr).1.symm⟩
    · exact Or.inl hbelow

end State

/-- **The step that first leaves only the older calls pending is the return that takes the call
above them.** -/
theorem Session.pending {s t : State} {steps : List Taken} {older : List UInt16} {a : UInt16}
    {n : Nat} {last : Taken} (h : Session s steps t) (hs : s.stack.Tidy)
    (hpending : older ++ [a] <+: s.stack.calls) (hlast : steps[n]? = some last)
    (hback : last.after.stack.depth = older.length)
    (hfirst : ∀ m < n, ∀ u, steps[m]? = some u → u.after.stack.depth ≠ older.length) :
    Operation.returnFromCall.Matches last.word ∧ last.after.stack.Tidy ∧
      last.after.stack.calls = older ∧ last.after.pc = a := by
  induction n generalizing s steps with
  | zero =>
    obtain ⟨rest, rfl⟩ : ∃ rest, steps = last :: rest := by
      cases steps with
      | nil => cases hlast
      | cons u rest => exact ⟨rest, congrArg (· :: rest) (Option.some.inj hlast)⟩
    obtain ⟨hstack, hstep, -⟩ := h.of_cons
    rw [← hstack] at hs hpending
    have htidy := State.step_tidy hs hstep
    rcases State.step_pending hs hstep hpending with hstill | ⟨hreturn, hcalls, hpc⟩
    · -- too many calls would be pending
      have hlen := hstill.length_le
      have hdepth := htidy.length_calls
      rw [List.length_append, List.length_singleton] at hlen
      omega
    · exact ⟨hreturn, htidy, hcalls, hpc⟩
  | succ n ih =>
    cases steps with
    | nil => cases hlast
    | cons u rest =>
      obtain ⟨hstack, hstep, hrest⟩ := h.of_cons
      rw [← hstack] at hs hpending
      have htidy := State.step_tidy hs hstep
      rcases State.step_pending hs hstep hpending with hstill | ⟨-, hcalls, -⟩
      · exact ih hrest htidy hstill hlast fun m hm v hv => hfirst (m + 1) (by omega) v hv
      · -- this step would have been the first
        have hdepth := htidy.length_calls
        rw [hcalls] at hdepth
        exact absurd hdepth.symm (hfirst 0 (Nat.succ_pos n) u rfl)

namespace Reachable

/-- **A subroutine returns to where it was called**, however the session is cut into frames.

Let the first step of a session from a reachable state be a call, and let a later one be the
first that leaves as many calls pending as the call found.  Then this step is a return, the
program goes on past the call, within twelve bits, and the stack, free entries included, is what
it was before the call. -/
theorem call_returns {s t : State} {steps : List Taken} {call last : Taken} {n : Nat}
    (hs : Reachable s) (h : Session s steps t)
    (hcall : steps[0]? = some call) (hop : Operation.call.Matches call.word)
    (hlast : steps[n]? = some last)
    (hback : last.after.stack.depth = call.before.stack.depth)
    (hfirst : ∀ m < n, ∀ u, steps[m]? = some u →
      u.after.stack.depth ≠ call.before.stack.depth) :
    Operation.returnFromCall.Matches last.word ∧
      last.after.pc.toNat = (call.before.pc.toNat + 2) % 4096 ∧
      (call.before.pc.toNat ≤ 0xFFD → last.after.pc.toNat = call.before.pc.toNat + 2) ∧
      last.after.stack = call.before.stack := by
  obtain ⟨rest, rfl⟩ : ∃ rest, steps = call :: rest := by
    cases steps with
    | nil => cases hcall
    | cons u rest => exact ⟨rest, congrArg (· :: rest) (Option.some.inj hcall)⟩
  obtain ⟨hstack, hstep, hrest⟩ := h.of_cons
  have htidy : call.before.stack.Tidy := hstack ▸ hs.bounded.tidy
  have htidy' := State.step_tidy htidy hstep
  have hlen := htidy.length_calls
  have hcalls : call.after.stack.calls =
      call.before.stack.calls ++ [CallStack.kept call.before.past.pc.toNat] := by
    rcases State.step_calls htidy hstep with ⟨hno, -⟩ | ⟨-, heq⟩ | ⟨hreturn, -⟩
    · exact absurd hop hno
    · exact heq
    · cases hop.unique hreturn
  cases n with
  | zero =>
    -- the call itself leaves one more pending
    obtain rfl := Option.some.inj hlast
    have hmore := htidy'.length_calls
    rw [hcalls, List.length_append, List.length_singleton] at hmore
    omega
  | succ n =>
    have hpending : call.before.stack.calls ++ [CallStack.kept call.before.past.pc.toNat] <+:
        call.after.stack.calls :=
      ⟨[], (List.append_nil _).trans hcalls.symm⟩
    obtain ⟨hreturn, htidy'', holder, hpc⟩ := hrest.pending htidy' hpending hlast
      (hback.trans hlen.symm) fun m hm u hu hd =>
        hfirst (m + 1) (by omega) u hu (hd.trans hlen)
    have hpast := State.past_pc_toNat (State.step_ok hstep).1
    have hpc' : last.after.pc.toNat = (call.before.pc.toNat + 2) % 4096 := by
      rw [hpc, CallStack.toNat_kept, hpast]
    exact ⟨hreturn, hpc', fun hle => by omega, htidy''.eq_of_calls htidy holder⟩

/-- A subroutine that calls another one, interrupted twice. -/
theorem call_returns_sample :
    let s : State := { State.initial (.ofSeed 0) .classic with
      memory := Memory.initial.store programStart
        [0x22, 0x04, 0x12, 0x02, 0x22, 0x08, 0x00, 0xEE, 0x00, 0xEE] }
    let s₁ : State := { s with pc := 0x204, stack := .ofEntries 16 [0x202] }
    let s₂ : State := { s₁.tick with pc := 0x208, stack := .ofEntries 16 [0x202, 0x206] }
    let s₃ : State := { s₂ with pc := 0x206, stack := .ofEntries 16 [0x202] }
    let s₄ : State := { s₃.acceptKeys (.ofKeys [5]) with pc := 0x202, stack := .empty 16 }
    Session s [⟨s, 0x2204, s₁⟩, ⟨s₁.tick, 0x2208, s₂⟩, ⟨s₂, 0x00EE, s₃⟩,
      ⟨s₃.acceptKeys (.ofKeys [5]), 0x00EE, s₄⟩] s₄ ∧
      s₄.pc.toNat = s.pc.toNat + 2 ∧ s₄.stack = s.stack := by
  intro s s₁ s₂ s₃ s₄
  have hload : (State.initial (.ofSeed 0) .classic).load
      [0x22, 0x04, 0x12, 0x02, 0x22, 0x08, 0x00, 0xEE, 0x00, 0xEE] = .ok s := rfl
  have hword : s.memory.word 0x200 = 0x2204 ∧ s.memory.word 0x204 = 0x2208 ∧
      s.memory.word 0x206 = 0x00EE ∧ s.memory.word 0x208 = 0x00EE := by decide +kernel
  -- a word that is no machine-code call runs where it stands
  have plain (op : Operation) {t t' : State} {w : Word} (hpc : t.pc.toNat ≤ 0xFFE)
      (hw : t.word = w) (hop : op.Matches w) (hrun : op.run w t.past = .ok t') :
      t.step = .ok (t', w) :=
    State.step_of_matches hpc (Nat.zero_le _) (Memory.passes_zero _) hw hop hrun
  have h₁ : s.step = .ok (s₁, 0x2204) :=
    plain .call (by decide) hword.1 (by decide) rfl
  have h₂ : s₁.tick.step = .ok (s₂, 0x2208) :=
    plain .call (by decide) hword.2.1 (by decide) rfl
  have h₃ : s₂.step = .ok (s₃, 0x00EE) :=
    plain .returnFromCall (by decide) hword.2.2.2 (by decide) rfl
  have h₄ : (s₃.acceptKeys (.ofKeys [5])).step = .ok (s₄, 0x00EE) :=
    plain .returnFromCall (by decide) hword.2.2.1 (by decide) rfl
  have hsession : Session s _ s₄ :=
    .step h₁ (.tick (.step h₂ (.step h₃ (.keys (.ofKeys [5]) (.step h₄ (.nil s₄))))))
  have hreturn := call_returns (.load hload) hsession (n := 3) rfl (by decide) rfl rfl
    fun m hm u hu => by
      rcases m with _ | _ | _ | m
      · obtain rfl := Option.some.inj hu
        decide
      · obtain rfl := Option.some.inj hu
        decide
      · obtain rfl := Option.some.inj hu
        decide
      · omega
  exact ⟨hsession, hreturn.2.2.1 (by decide), hreturn.2.2.2⟩

end Reachable

end ChipEight
