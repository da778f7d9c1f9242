import ChipEight.Machine
import ChipEight.Proofs.ReachableStates

/-! # Calls to a machine

A host does two things with a machine: it asks for a frame, with or without keys, and it resets
it.  `Machine.call` answers one `Call`, and `Machine.calls` is what happens in the course of
several: an `Event` for each, with the machine that was called, the answer, the lines printed and
the machine that was left.

`Outcome` says all that a call can do.  A reset starts over.  A halted machine repeats the fault,
without a look at the keys.  Any other machine refuses keys that are no keypad, and stays as it
is; or else the frame **counts**, and the machine that is left is `Machine.played`.  Only a frame
that meets a stack pointer out of reach goes **astray**, and leaves `Machine.strayed`.
-/
namespace ChipEight

/-- What a host asks a machine for. -/
inductive Request where
  /-- A frame, with the keys handed over, if any. -/
  | frame (keys : Option KeyVector)
  /-- To start over. -/
  | reset

/-- A request, and where lines appear in the meantime. -/
structure Call where
  /-- When and where lines appear. -/
  console : Console
  /-- What is asked for. -/
  request : Request

/-- What a machine answers. -/
inductive Answer where
  /-- The account of a frame. -/
  | frame (account : Frame)
  /-- The keys are no keypad. -/
  | refused (why : KeyVector.Refusal)
  /-- There is no account of the frame, for this fault. -/
  | astray (f : Fault)
  /-- It has started over. -/
  | reset

/-- A call that was answered. -/
structure Event where
  /-- The machine that was called. -/
  before : Machine
  /-- The call. -/
  call : Call
  /-- The answer to it. -/
  answer : Answer
  /-- What was printed. -/
  printed : List String
  /-- The machine that was left. -/
  after : Machine

namespace Machine

/-- Answer a call. -/
def call (m : Machine) (c : Call) : Event :=
  match c.request with
  | .reset => ⟨m, c, .reset, [], m.reset⟩
  | .frame keys =>
    match m.runFrame c.console keys with
    | .error why => ⟨m, c, .refused why, [], m⟩
    | .ok (m', .ok account, lines) => ⟨m, c, .frame account, lines, m'⟩
    | .ok (m', .error f, lines) => ⟨m, c, .astray f, lines, m'⟩

/-- Answer calls, one after the other. -/
def calls (m : Machine) : List Call → List Event
  | [] => []
  | c :: cs => m.call c :: (m.call c).after.calls cs

/-- The machine that calls leave. -/
def after (m : Machine) (cs : List Call) : Machine := cs.foldl (fun m c => (m.call c).after) m

theorem after_append (m : Machine) (cs ds : List Call) :
    m.after (cs ++ ds) = (m.after cs).after ds := List.foldl_append

end Machine

/-! ## What a call can do -/

/-- The trace with the instructions of a frame counted. -/
def Trace.seeing (t : Trace) (f : Frame) : Trace :=
  { t with instructions := t.instructions + f.count }

/-- The trace with a frame counted: all of its instructions, and the frame itself unless it ended
with a fault. -/
def Trace.counting (t : Trace) (f : Frame) : Trace := {
  t with
  instructions := t.instructions + f.count
  frames := if f.halted then t.frames else t.frames + 1 }

/-- The machine that a frame leaves. -/
def Machine.played (m : Machine) (f : Frame) : Machine := {
  m with
  state := f.state
  error := f.ending.fault?
  frames := m.frames + 1
  trace := m.trace.map (·.counting f) }

/-- The machine that a frame leaves which goes astray. -/
def Machine.strayed (m : Machine) (f : Frame) : Machine := {
  m with trace := m.trace.map (·.seeing f) }

/-- What happens when a machine is called. -/
inductive Outcome (m : Machine) (c : Call) : Event → Prop where
  /-- It starts over. -/
  | reset (h : c.request = .reset) : Outcome m c ⟨m, c, .reset, [], m.reset⟩
  /-- It has halted: nothing moves, and the fault is named again. -/
  | halted {keys : Option KeyVector} {f : Fault} (h : c.request = .frame keys)
    (hm : m.error = some f) : Outcome m c ⟨m, c, .frame ⟨m.state, [], .fault f⟩, [], m⟩
  /-- It has not halted, and the keys are no keypad. -/
  | refused {v : KeyVector} {why : KeyVector.Refusal} (h : c.request = .frame (some v))
    (hm : m.error = none) (hv : v.toKeypad = .error why) : Outcome m c ⟨m, c, .refused why, [], m⟩
  /-- It has not halted, and runs a frame. -/
  | counted {keys : Option Keypad} {account : Frame} (lines : List String)
    (h : c.request = .frame (keys.map .ofKeypad)) (hm : m.error = none)
    (haccount : m.state.runFrame keys m.settings.budget = account)
    (hvalid : account.valid = .ok account) :
    Outcome m c ⟨m, c, .frame account, lines, m.played account⟩
  /-- It has not halted, and the frame that it runs goes astray. -/
  | astray {keys : Option Keypad} {account : Frame} {f : Fault} (lines : List String)
    (h : c.request = .frame (keys.map .ofKeypad)) (hm : m.error = none)
    (haccount : m.state.runFrame keys m.settings.budget = account)
    (hstray : account.valid = .error f) :
    Outcome m c ⟨m, c, .astray f, lines, m.strayed account⟩

namespace Machine

variable {m : Machine}

theorem advance_of_halted {f : Fault} (hm : m.error = some f) (console : Console)
    (keys : Option Keypad) : m.advance console keys = (m, .ok ⟨m.state, [], .fault f⟩, []) := by
  rw [advance, hm]

section Frames

variable {account : Frame} {keys : Option Keypad} (hm : m.error = none) (console : Console)
  (haccount : m.state.runFrame keys m.settings.budget = account)

include hm haccount

/-- A machine that has not halted runs a frame of its state, and counts it. -/
theorem advance_of_valid (hvalid : account.valid = .ok account) :
    ∃ lines, m.advance console keys = (m.played account, .ok account, lines) := by
  simp only [advance, hm, State.followFrame_eq, haccount, hvalid]
  obtain ⟨state, executed, ending⟩ := account
  cases htrace : m.trace with
  | none => exact ⟨_, by simp only [Frame.log, played, htrace, Option.map_none]; rfl⟩
  | some t =>
    simp only [Frame.log, Trace.instructionsOf_fst, played, htrace, Option.map_some]
    -- only a frame that ended without a fault is a frame to the trace
    cases ending with
    | fault f => exact ⟨_, rfl⟩
    | _ => exact ⟨_, rfl⟩

/-- If the frame goes astray, only the trace has moved. -/
theorem advance_of_stray {f : Fault} (hstray : account.valid = .error f) :
    ∃ lines, m.advance console keys = (m.strayed account, .error f, lines) := by
  simp only [advance, hm, State.followFrame_eq, haccount, hstray]
  cases htrace : m.trace with
  | none => exact ⟨_, by simp only [Frame.log, strayed, hm, htrace, Option.map_none]; rfl⟩
  | some t =>
    simp only [Frame.log, Trace.instructionsOf_fst, strayed, hm, htrace, Option.map_some]
    exact ⟨_, rfl⟩

end Frames

theorem runFrame_of_halted {f : Fault} (hm : m.error = some f) (console : Console)
    (keys : Option KeyVector) :
    m.runFrame console keys = .ok (m, .ok ⟨m.state, [], .fault f⟩, []) := by
  have hhalted : m.halted = true := by rw [halted, hm]; rfl
  cases keys with
  | none => rw [Machine.runFrame, if_pos hhalted, advance_of_halted hm]
  | some v => rw [Machine.runFrame, if_pos hhalted, advance_of_halted hm]

theorem runFrame_of_refused (hm : m.error = none) (console : Console) {v : KeyVector}
    {why : KeyVector.Refusal} (hv : v.toKeypad = .error why) :
    m.runFrame console (some v) = .error why := by
  have hhalted : ¬m.halted = true := by rw [halted, hm]; exact Bool.false_ne_true
  rw [Machine.runFrame, if_neg hhalted, hv]
  rfl

theorem runFrame_of_keypad (hm : m.error = none) (console : Console) (keys : Option Keypad) :
    m.runFrame console (keys.map .ofKeypad) = .ok (m.advance console keys) := by
  have hhalted : ¬m.halted = true := by rw [halted, hm]; exact Bool.false_ne_true
  cases keys with
  | none => rw [Option.map_none, Machine.runFrame, if_neg hhalted]
  | some p =>
    rw [Option.map_some, Machine.runFrame, if_neg hhalted, KeyVector.toKeypad_ofKeypad]
    rfl

theorem call_of_halted {f : Fault} (hm : m.error = some f) (console : Console)
    (keys : Option KeyVector) :
    m.call ⟨console, .frame keys⟩ =
      ⟨m, ⟨console, .frame keys⟩, .frame ⟨m.state, [], .fault f⟩, [], m⟩ := by
  simp only [call, runFrame_of_halted hm console keys]

theorem call_of_refused (hm : m.error = none) (console : Console) {v : KeyVector}
    {why : KeyVector.Refusal} (hv : v.toKeypad = .error why) :
    m.call ⟨console, .frame (some v)⟩ =
      ⟨m, ⟨console, .frame (some v)⟩, .refused why, [], m⟩ := by
  simp only [call, runFrame_of_refused hm console hv]

section Frames

variable {account : Frame} {keys : Option Keypad} (hm : m.error = none) (console : Console)
  (haccount : m.state.runFrame keys m.settings.budget = account)

include hm haccount

theorem call_of_valid (hvalid : account.valid = .ok account) :
    ∃ lines, m.call ⟨console, .frame (keys.map .ofKeypad)⟩ =
      ⟨m, ⟨console, .frame (keys.map .ofKeypad)⟩, .frame account, lines, m.played account⟩ := by
  obtain ⟨lines, hadvance⟩ := advance_of_valid hm console haccount hvalid
  refine ⟨lines, ?_⟩
  simp only [call, runFrame_of_keypad hm console keys, hadvance]

theorem call_of_stray {f : Fault} (hstray : account.valid = .error f) :
    ∃ lines, m.call ⟨console, .frame (keys.map .ofKeypad)⟩ =
      ⟨m, ⟨console, .frame (keys.map .ofKeypad)⟩, .astray f, lines, m.strayed account⟩ := by
  obtain ⟨lines, hadvance⟩ := advance_of_stray hm console haccount hstray
  refine ⟨lines, ?_⟩
  simp only [call, runFrame_of_keypad hm console keys, hadvance]

end Frames

/-- **What a call can do.** -/
theorem call_outcome (m : Machine) (c : Call) : Outcome m c (m.call c) := by
  obtain ⟨console, request⟩ := c
  have played (keys : Option Keypad) (hm : m.error = none)
      (h : request = .frame (keys.map .ofKeypad)) :
      Outcome m ⟨console, request⟩ (m.call ⟨console, request⟩) := by
    subst h
    rcases (m.state.runFrame keys m.settings.budget).valid_cases with hvalid | ⟨f, hstray⟩
    · obtain ⟨lines, hcall⟩ := call_of_valid hm console rfl hvalid
      rw [hcall]
      exact .counted lines rfl hm rfl hvalid
    · obtain ⟨lines, hcall⟩ := call_of_stray hm console rfl hstray
      rw [hcall]
      exact .astray lines rfl hm rfl hstray
  cases request with
  | reset => exact .reset rfl
  | frame keys =>
    cases hm : m.error with
    | some f =>
      rw [call_of_halted hm]
      exact .halted rfl hm
    | none =>
      cases keys with
      | none => exact played none hm rfl
      | some v =>
        cases hv : v.toKeypad with
        | error why =>
          rw [call_of_refused hm console hv]
          exact .refused rfl hm hv
        | ok p =>
          obtain rfl := KeyVector.toKeypad_eq_ok_iff.mp hv
          exact played (some p) hm rfl

/-- A machine that has halted stays as it is until it is reset. -/
theorem after_of_halted {f : Fault} (hm : m.error = some f) {cs : List Call}
    (hcs : ∀ c ∈ cs, c.request ≠ .reset) : m.after cs = m := by
  induction cs with
  | nil => rfl
  | cons c cs ih =>
    obtain ⟨hc, hrest⟩ := List.forall_mem_cons.mp hcs
    obtain ⟨console, request⟩ := c
    cases request with
    | reset => exact absurd rfl hc
    | frame keys =>
      show (m.call ⟨console, .frame keys⟩).after.after cs = m
      rw [call_of_halted hm]
      exact ih hrest

end Machine

/-! ## Starting -/

theorem Settings.reachable_start {c : Settings} {s : State} (h : c.start = .ok s) :
    Reachable s := by
  unfold Settings.start at h
  split at h
  · cases h
  · cases hkey : RandomKey.ofSeed? c.seed with
    | error why =>
      rw [hkey] at h
      cases h
    | ok key =>
      rw [hkey] at h
      exact .load (Fault.mapError_eq_ok_iff.mp h)

namespace Machine

variable {m : Machine}

/-- A machine starts in a state with its program loaded, and has counted nothing. -/
theorem start_eq_ok_iff {c : Settings} {trace : Option Trace} :
    Machine.start c trace = .ok m ↔ ∃ s, ∃ h : c.start = .ok s,
      m = { settings := c, origin := s, started := h, state := s, trace := trace } := by
  unfold Machine.start
  split
  · rename_i why hc
    constructor
    · intro h
      cases h
    · rintro ⟨s, h, -⟩
      cases hc.symm.trans h
  · rename_i s hc
    constructor
    · intro h
      exact ⟨s, hc, (Except.ok.inj h).symm⟩
    · rintro ⟨s', h, rfl⟩
      obtain rfl := Except.ok.inj (hc.symm.trans h)
      rfl

theorem start_eq_error_iff {c : Settings} {trace : Option Trace} {e : StartError} :
    Machine.start c trace = .error e ↔ c.start = .error e := by
  unfold Machine.start
  split
  · rename_i why hc
    constructor
    · intro h
      rw [← Except.error.inj h]
      exact hc
    · intro h
      rw [Except.error.inj (hc.symm.trans h)]
  · rename_i s hc
    constructor
    · intro h
      cases h
    · intro h
      cases hc.symm.trans h

/-- The state in which a machine starts can be reached. -/
theorem reachable_origin (m : Machine) : Reachable m.origin := Settings.reachable_start m.started

/-- What a machine was started with does not change. -/
theorem call_settings_origin (m : Machine) (c : Call) :
    (m.call c).after.settings = m.settings ∧ (m.call c).after.origin = m.origin := by
  have hout := m.call_outcome c
  generalize m.call c = e at hout
  cases hout with
  | reset | halted | refused | counted | astray => exact ⟨rfl, rfl⟩

theorem after_settings_origin (m : Machine) (cs : List Call) :
    (m.after cs).settings = m.settings ∧ (m.after cs).origin = m.origin := by
  induction cs generalizing m with
  | nil => exact ⟨rfl, rfl⟩
  | cons c cs ih =>
    obtain ⟨hsettings, horigin⟩ := ih (m.call c).after
    obtain ⟨hsettings', horigin'⟩ := m.call_settings_origin c
    exact ⟨hsettings.trans hsettings', horigin.trans horigin'⟩

end Machine

end ChipEight
