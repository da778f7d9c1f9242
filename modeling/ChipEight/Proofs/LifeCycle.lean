import ChipEight.Proofs.MachineCalls
import ChipEight.Proofs.StepFaults

/-! # The life cycle of a machine

A machine is told frame by frame what to do, and keeps a fault and a count of frames; a trace that
follows it keeps two more counts.  This module says what these are, after any calls, in terms of
the **events** there have been.  Only those since the last reset (`sinceReset`) matter to the
machine, and of these only the ones that count (`counted`): a frame was asked for with keys that
are a keypad, or with none, and the machine had not halted.  The trace remembers what was before a
reset as well (`Trace.told`).

`Life` is the invariant.  A call that does not count and is no reset keeps it for a reason of its
own (`Life.idle`), and with the two other kinds every call does (`Life.call`).
-/
namespace ChipEight

/-! ## What counts -/

/-- Whether a frame is asked for, with keys that are a keypad or with none. -/
def Request.AsksForFrame (r : Request) : Prop :=
  ∃ keys : Option Keypad, r = .frame (keys.map .ofKeypad)

theorem Request.not_asksForFrame_of_refused {v : KeyVector} {why : KeyVector.Refusal}
    (hv : v.toKeypad = .error why) : ¬(Request.frame (some v)).AsksForFrame := by
  rintro ⟨keys, hkeys⟩
  cases keys with
  | none => cases hkeys
  | some p =>
    obtain rfl := Option.some.inj (Request.frame.inj hkeys)
    rw [KeyVector.toKeypad_ofKeypad] at hv
    cases hv

instance : (r : Request) → Decidable r.AsksForFrame
  | .reset => .isFalse fun ⟨_, h⟩ => nomatch h
  | .frame none => .isTrue ⟨none, rfl⟩
  | .frame (some v) =>
    match hv : v.toKeypad with
    | .ok p =>
      .isTrue ⟨some p, congrArg (Request.frame <| some ·) (KeyVector.toKeypad_eq_ok_iff.mp hv)⟩
    | .error _ => .isFalse (Request.not_asksForFrame_of_refused hv)

namespace Event

/-- Whether an event is a reset. -/
def isReset (e : Event) : Bool :=
  match e.call.request with
  | .reset => true
  | .frame _ => false

/-- An event counts if a frame is asked for and the machine has not halted before. -/
def Counts (e : Event) : Prop := e.before.error = none ∧ e.call.request.AsksForFrame

instance (e : Event) : Decidable e.Counts := inferInstanceAs (Decidable (_ ∧ _))

/-- The instructions that ran. -/
def executed (e : Event) : List Executed :=
  match e.answer with
  | .frame account => account.executed
  | _ => []

/-- The fault that the answer names. -/
def fault? (e : Event) : Option Fault :=
  match e.answer with
  | .frame account => account.ending.fault?
  | _ => none

end Event

/-- The events after the last reset. -/
def sinceReset (past : List Event) : List Event :=
  (past.reverse.takeWhile fun e => !e.isReset).reverse

/-- The events that count. -/
def counted (past : List Event) : List Event := past.filter fun e => e.Counts

/-- The frames that count and did not end with a fault. -/
def completed (past : List Event) : List Event := (counted past).filter fun e => e.fault?.isNone

/-- The trace after it was told of some events. -/
def Trace.told (t : Trace) (past : List Event) : Trace := {
  t with
  instructions := t.instructions + (past.flatMap Event.executed).length
  frames := t.frames + (completed past).length }

section Append

variable {e : Event}

theorem sinceReset_of_reset (past : List Event) (h : e.isReset = true) :
    sinceReset (past ++ [e]) = [] := by
  rw [sinceReset, List.reverse_append, List.reverse_singleton, List.singleton_append,
    List.takeWhile_cons_of_neg (by rw [h]; exact Bool.false_ne_true)]
  rfl

theorem sinceReset_of_not_reset (past : List Event) (h : e.isReset = false) :
    sinceReset (past ++ [e]) = sinceReset past ++ [e] := by
  rw [sinceReset, List.reverse_append, List.reverse_singleton, List.singleton_append,
    List.takeWhile_cons_of_pos (by rw [h]; rfl), List.reverse_cons, sinceReset]

variable {past : List Event}

theorem counted_append_of_counts (h : e.Counts) : counted (past ++ [e]) = counted past ++ [e] := by
  have hone : [e].filter (fun e => decide e.Counts) = [e] :=
    List.filter_cons_of_pos (decide_eq_true h)
  rw [counted, List.filter_append, hone, counted]

theorem counted_append_of_not_counts (h : ¬e.Counts) : counted (past ++ [e]) = counted past := by
  have hnone : [e].filter (fun e => decide e.Counts) = [] :=
    List.filter_cons_of_neg (by rw [decide_eq_false h]; exact Bool.false_ne_true)
  rw [counted, List.filter_append, hnone, List.append_nil, counted]

theorem told_append_of_not_counts (h : ¬e.Counts) (hexec : e.executed = []) (t : Trace) :
    t.told (past ++ [e]) = t.told past := by
  rw [Trace.told, Trace.told, completed, completed, counted_append_of_not_counts h,
    List.flatMap_append, List.flatMap_singleton, hexec, List.append_nil]

theorem told_append_of_counts (h : e.Counts) {account : Frame} (ha : e.answer = .frame account)
    (t : Trace) : t.told (past ++ [e]) = (t.told past).counting account := by
  have hexec : e.executed = account.executed := by rw [Event.executed, ha]
  have hfault : e.fault? = account.ending.fault? := by rw [Event.fault?, ha]
  rw [Trace.told, Trace.told, Trace.counting, completed, completed, counted_append_of_counts h,
    List.flatMap_append, List.flatMap_singleton, hexec, List.length_append, List.filter_append,
    List.length_append, Frame.halted, Frame.count, ← hfault, Nat.add_assoc]
  cases hf : e.fault? with
  | none =>
    have hone : [e].filter (fun e => e.fault?.isNone) = [e] :=
      List.filter_cons_of_pos (by rw [hf]; rfl)
    rw [hone]
    rfl
  | some f =>
    have hnone : [e].filter (fun e => e.fault?.isNone) = [] :=
      List.filter_cons_of_neg (by rw [hf]; exact Bool.false_ne_true)
    rw [hnone]
    rfl

end Append

/-! ## The invariant -/

/-- The host can use the answer: a frame has not gone astray, and its account is valid. -/
def Event.IsUsable (e : Event) : Prop :=
  match e.answer with
  | .frame account => account.valid = .ok account
  | .astray _ => False
  | _ => True

theorem Event.IsUsable.answer {e : Event} (h : e.IsUsable) :
    (∀ f, e.answer ≠ .astray f) ∧
      ∀ account, e.answer = .frame account → account.valid = .ok account := by
  unfold IsUsable at h
  refine ⟨fun f hf => ?_, fun account ha => ?_⟩
  · rw [hf] at h
    exact h
  · rw [ha] at h
    exact h

/-- What a machine knows of its past. -/
structure Life (trace : Option Trace) (past : List Event) (m : Machine) : Prop where
  state : Reachable m.state
  -- the fault is that of the last frame that counts
  error : m.error = (counted (sinceReset past)).getLast?.bind Event.fault?
  -- and no other has been named
  named : ∀ e ∈ sinceReset past, ∀ f, e.fault? = some f → m.error = some f
  -- the instruction that met it would meet it again
  stuck : ∀ f, m.error = some f → m.state.step = .error f
  frames : m.frames = (counted (sinceReset past)).length
  trace : m.trace = trace.map (·.told past)
  usable : ∀ e ∈ past, e.IsUsable

namespace Life

variable {trace : Option Trace} {past : List Event} {m : Machine} {e : Event}

theorem start {c : Settings} (h : Machine.start c trace = .ok m) : Life trace [] m := by
  obtain ⟨s, hs, rfl⟩ := Machine.start_eq_ok_iff.mp h
  refine {
    state := Settings.reachable_start hs
    error := rfl
    named := List.forall_mem_nil _
    stuck := ?stuck
    frames := rfl
    trace := ?trace
    usable := List.forall_mem_nil _ }
  case stuck =>
    intro f hf
    cases hf
  case trace =>
    cases trace with
    | none => rfl
    | some t => rfl

theorem trace_append (h : Life trace past m) (hcounts : ¬e.Counts) (hexec : e.executed = []) :
    m.trace = trace.map (·.told (past ++ [e])) := by
  rw [h.trace]
  congr 1
  funext t
  exact (told_append_of_not_counts hcounts hexec t).symm

theorem usable_append (h : Life trace past m) (he : e.IsUsable) :
    ∀ e' ∈ past ++ [e], e'.IsUsable :=
  List.forall_mem_append.mpr ⟨h.usable, List.forall_mem_singleton.mpr he⟩

/-- An event that leaves the machine as it is, does not count, and names no new fault. -/
theorem idle (h : Life trace past m) (hreset : e.isReset = false) (hcounts : ¬e.Counts)
    (hexec : e.executed = []) (hfault : ∀ f, e.fault? = some f → m.error = some f)
    (husable : e.IsUsable) : Life trace (past ++ [e]) m := by
  have hsince := sinceReset_of_not_reset past hreset
  have hcounted : counted (sinceReset past ++ [e]) = counted (sinceReset past) :=
    counted_append_of_not_counts hcounts
  refine {
    state := h.state
    error := ?error
    named := ?named
    stuck := h.stuck
    frames := ?frames
    trace := h.trace_append hcounts hexec
    usable := h.usable_append husable }
  case error =>
    rw [hsince, hcounted]
    exact h.error
  case named =>
    rw [hsince]
    exact List.forall_mem_append.mpr ⟨h.named, List.forall_mem_singleton.mpr hfault⟩
  case frames =>
    rw [hsince, hcounted]
    exact h.frames

theorem reset (h : Life trace past m) {c : Call} (hc : c.request = .reset) :
    Life trace (past ++ [⟨m, c, .reset, [], m.reset⟩]) m.reset := by
  have hsince := sinceReset_of_reset past (e := ⟨m, c, .reset, [], m.reset⟩)
    (by rw [Event.isReset, hc])
  have hcounts : ¬Event.Counts ⟨m, c, .reset, [], m.reset⟩ := by
    rintro ⟨-, keys, hkeys⟩
    cases hkeys.symm.trans hc
  refine {
    state := m.reachable_origin
    error := ?error
    named := ?named
    stuck := ?stuck
    frames := ?frames
    trace := h.trace_append hcounts rfl
    usable := h.usable_append ?usable }
  case error =>
    rw [hsince]
    rfl
  case named =>
    rw [hsince]
    exact List.forall_mem_nil _
  case stuck =>
    intro f hf
    cases hf
  case frames =>
    rw [hsince]
    rfl
  case usable => exact trivial

/-- A frame that counts. -/
theorem play (h : Life trace past m) {c : Call} {keys : Option Keypad} (lines : List String)
    (hc : c.request = .frame (keys.map .ofKeypad)) (hm : m.error = none) {account : Frame}
    (haccount : m.state.runFrame keys m.settings.budget = account)
    (hvalid : account.valid = .ok account) :
    Life trace (past ++ [⟨m, c, .frame account, lines, m.played account⟩]) (m.played account) := by
  have hsince := sinceReset_of_not_reset past
    (e := ⟨m, c, .frame account, lines, m.played account⟩) (by rw [Event.isReset, hc])
  have hcounts : Event.Counts ⟨m, c, .frame account, lines, m.played account⟩ := ⟨hm, keys, hc⟩
  obtain ⟨steps, -, -, -, hclose⟩ := m.state.runFrame_closes keys m.settings.budget
  have hstate := h.state.runFrame keys m.settings.budget
  rw [haccount] at hclose hstate
  refine {
    state := hstate
    error := ?error
    named := ?named
    stuck := ?stuck
    frames := ?frames
    trace := ?trace
    usable := h.usable_append ?usable }
  case error =>
    rw [hsince, counted_append_of_counts hcounts, List.getLast?_concat]
    rfl
  case named =>
    -- no fault has been named before, or the machine would have halted
    rw [hsince]
    refine List.forall_mem_append.mpr ⟨?_, List.forall_mem_singleton.mpr fun f hf => hf⟩
    intro e he f hf
    cases (h.named e he f hf).symm.trans hm
  case stuck =>
    intro f hf
    rw [Ending.fault?_eq_some_iff.mp hf] at hclose
    exact hclose.2.2
  case frames =>
    rw [hsince, counted_append_of_counts hcounts, List.length_append, ← h.frames]
    rfl
  case trace =>
    show m.trace.map _ = _
    rw [h.trace, Option.map_map]
    congr 1
    funext t
    exact (told_append_of_counts hcounts rfl t).symm
  case usable => exact hvalid

/-- **Every call keeps the invariant.** -/
theorem call (h : Life trace past m) (c : Call) :
    Life trace (past ++ [m.call c]) (m.call c).after := by
  have hout := m.call_outcome c
  generalize m.call c = e at hout
  cases hout with
  | reset hc => exact h.reset hc
  | halted hc hm =>
    refine h.idle (by rw [Event.isReset, hc]) ?_ rfl ?_ ?_
    · rintro ⟨hnone, -⟩
      cases hnone.symm.trans hm
    · intro f hf
      exact hm.trans hf
    · -- the step that met the fault closes a frame of one step in the same way
      have hclose : Closes 1 [] m.state (.fault _) :=
        ⟨Nat.one_pos, List.forall_mem_nil _, h.stuck _ hm⟩
      exact Reachable.valid_of_closes h.state hclose
  | refused hc hm hv =>
    refine h.idle (by rw [Event.isReset, hc]) ?_ rfl ?_ ?_
    · rintro ⟨-, hasks⟩
      rw [hc] at hasks
      exact Request.not_asksForFrame_of_refused hv hasks
    · intro f hf
      cases hf
    · exact trivial
  | counted lines hc hm haccount hvalid => exact h.play lines hc hm haccount hvalid
  | astray lines hc hm haccount hstray =>
    -- a program does not lead its own stack out of reach
    rw [← haccount, h.state.valid_runFrame] at hstray
    cases hstray

theorem calls (h : Life trace past m) (cs : List Call) :
    Life trace (past ++ m.calls cs) (m.after cs) := by
  induction cs generalizing past m with
  | nil =>
    rw [Machine.calls, List.append_nil]
    exact h
  | cons c cs ih =>
    have hrest := ih (h.call c)
    rw [List.append_assoc] at hrest
    exact hrest

end Life

/-- **The life cycle of a machine.**

Start a machine, with or without a trace, and call it in any way.  Once a frame since the last
reset has named a fault, a frame asked for with whatever keys names it again: nothing has run, the
machine stays as it is, and nothing is printed.  A machine that has not halted refuses keys that
are no keypad, and stays as it is; asked in any other way, it runs a frame of its state.  It has
halted exactly when the last frame that counts since the last reset ended with a fault, and this
fault lies at the program counter.  The machine counts the frames that count since the last reset.
The trace has counted the instructions of all frames, and the frames that count and did not end
with a fault; a reset changes neither.  No frame goes astray: the host is given a valid account of
every one. -/
theorem Machine.life_cycle {c : Settings} {trace : Option Trace} {start : Machine}
    (h : Machine.start c trace = .ok start) (cs : List Call) :
    let past := start.calls cs
    let m := start.after cs
    (∀ e ∈ sinceReset past, ∀ f, e.fault? = some f → ∀ console keys,
      m.call ⟨console, .frame keys⟩ =
        ⟨m, ⟨console, .frame keys⟩, .frame ⟨m.state, [], .fault f⟩, [], m⟩) ∧
    (m.halted = false → ∀ console v, (∀ p, v ≠ .ofKeypad p) → ∃ why,
      v.toKeypad = .error why ∧ m.call ⟨console, .frame (some v)⟩ =
        ⟨m, ⟨console, .frame (some v)⟩, .refused why, [], m⟩) ∧
    (m.halted = false → ∀ console (keys : Option Keypad),
      let account := m.state.runFrame keys m.settings.budget
      ∃ lines, m.call ⟨console, .frame (keys.map .ofKeypad)⟩ =
        ⟨m, ⟨console, .frame (keys.map .ofKeypad)⟩, .frame account, lines, m.played account⟩) ∧
    (m.halted = true ↔
      ∃ e f, (counted (sinceReset past)).getLast? = some e ∧ e.fault? = some f) ∧
    (∀ f, m.error = some f → f.pc = some m.state.pc.toNat) ∧
    m.frames = (counted (sinceReset past)).length ∧
    m.trace = trace.map (fun t => {
      t with
      instructions := t.instructions + (past.flatMap Event.executed).length
      frames := t.frames + ((counted past).filter fun e => e.fault?.isNone).length }) ∧
    ∀ e ∈ past, (∀ f, e.answer ≠ .astray f) ∧
      ∀ account, e.answer = .frame account → account.valid = .ok account := by
  intro past m
  have hlife : Life trace past m := (Life.start h).calls cs
  have hrunning : m.halted = false → m.error = none := by
    intro hhalted
    rw [halted, Option.isSome_eq_false_iff, Option.isNone_iff_eq_none] at hhalted
    exact hhalted
  refine ⟨?_, ?_, ?_, ?_, ?_, hlife.frames, hlife.trace, fun e he => (hlife.usable e he).answer⟩
  · intro e he f hf console keys
    exact call_of_halted (hlife.named e he f hf) console keys
  · intro hhalted console v hv
    cases hkeypad : v.toKeypad with
    | error why => exact ⟨why, rfl, call_of_refused (hrunning hhalted) console hkeypad⟩
    | ok p => exact absurd (KeyVector.toKeypad_eq_ok_iff.mp hkeypad) (hv p)
  · intro hhalted console keys
    exact call_of_valid (hrunning hhalted) console rfl (hlife.state.valid_runFrame keys _)
  · rw [halted, hlife.error, Option.isSome_iff_exists]
    constructor
    · rintro ⟨f, hf⟩
      obtain ⟨e, he, hef⟩ := Option.bind_eq_some_iff.mp hf
      exact ⟨e, f, he, hef⟩
    · rintro ⟨e, f, he, hef⟩
      exact ⟨f, Option.bind_eq_some_iff.mpr ⟨e, he, hef⟩⟩
  · intro f hf
    obtain ⟨_, -, rfl⟩ := hlife.state.step_eq_error_iff.mp (hlife.stuck f hf)
    rfl

/-- A program that sets a register and then makes no sense, in a machine that is followed: handed
no keys, run, asked again, reset and run once more. -/
theorem Machine.life_cycle_sample :
    let c : Settings := { program := [0x60, 0x01, 0xFF, 0xFF] }
    let s : State := { State.initial (.ofSeed 0) {} with
      memory := Memory.initial.store programStart [0x60, 0x01, 0xFF, 0xFF] }
    let start : Machine := {
      settings := c
      origin := s
      started := rfl
      state := s
      trace := some {} }
    let nothing : Request := .frame (some (.row []))
    let cs : List Call := [nothing, .frame none, nothing, .reset, .frame none].map (⟨{}, ·⟩)
    let m := start.after cs
    Machine.start c (some {}) = .ok start ∧
      m.frames = (counted (sinceReset (start.calls cs))).length ∧ m.frames = 1 ∧
      m.error = some { cause := .invalidOpcode 0xFFFF .unassigned, pc := some 0x202 } ∧
      m.state.pc = 0x202 ∧ m.trace = some { instructions := 2, frames := 0 } := by
  intro c s start nothing cs m
  have hstart : Machine.start c (some {}) = .ok start := rfl
  obtain ⟨-, -, -, -, -, hframes, -⟩ := Machine.life_cycle hstart cs
  exact ⟨hstart, hframes, by decide +kernel⟩

end ChipEight
