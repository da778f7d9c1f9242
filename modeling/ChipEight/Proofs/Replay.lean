import ChipEight.Proofs.MachineCalls

/-! # A machine that was reset is a new one

What a machine answers and what it becomes depends on what it is asked for, and on nothing of the
machine but what it is without its trace (`Machine.untraced`): neither what the trace has counted
nor the console that it prints to has a part in it (`call_congr`, and `calls_congr` for several
calls).  A reset leaves of the machine only its settings, the state it started in, and the trace.
So a machine that was called in any way and then reset answers as one that was just started.
-/
namespace ChipEight

namespace Machine

/-- The machine without a trace. -/
def untraced (m : Machine) : Machine := { m with trace := none }

variable {m n : Machine}

theorem reset_untraced (m : Machine) : m.reset.untraced = m.untraced.reset := rfl

theorem played_untraced (m : Machine) (f : Frame) :
    (m.played f).untraced = m.untraced.played f := rfl

theorem strayed_untraced (m : Machine) (f : Frame) : (m.strayed f).untraced = m.untraced := rfl

/-- Only the settings and the state that they start in have a part in what a reset leaves. -/
theorem reset_congr (hsettings : m.settings = n.settings) (horigin : m.origin = n.origin) :
    m.reset.untraced = n.reset.untraced := by
  obtain ⟨settings, origin, _, _, _, _, _⟩ := m
  obtain ⟨_, _, _, _, _, _, _⟩ := n
  obtain rfl : settings = _ := hsettings
  obtain rfl : origin = _ := horigin
  rfl

/-- **The trace has no part in what a call does**, nor has the console. -/
theorem call_congr (h : m.untraced = n.untraced) {c d : Call} (hreq : c.request = d.request) :
    (m.call c).answer = (n.call d).answer ∧
      (m.call c).after.untraced = (n.call d).after.untraced := by
  have hsettings : m.settings = n.settings := (congrArg Machine.settings h :)
  have hstate : m.state = n.state := (congrArg Machine.state h :)
  have herror : m.error = n.error := (congrArg Machine.error h :)
  obtain ⟨console, request⟩ := c
  obtain ⟨console', request'⟩ := d
  obtain rfl : request = request' := hreq
  cases request with
  | reset =>
    refine ⟨rfl, ?_⟩
    show m.reset.untraced = n.reset.untraced
    rw [reset_untraced, reset_untraced, h]
  | frame keys =>
    cases hm : m.error with
    | some f =>
      rw [call_of_halted hm, call_of_halted (herror.symm.trans hm), hstate]
      exact ⟨rfl, h⟩
    | none =>
      have hn : n.error = none := herror.symm.trans hm
      have played (keys : Option Keypad) :
          (m.call ⟨console, .frame (keys.map .ofKeypad)⟩).answer =
              (n.call ⟨console', .frame (keys.map .ofKeypad)⟩).answer ∧
            (m.call ⟨console, .frame (keys.map .ofKeypad)⟩).after.untraced =
              (n.call ⟨console', .frame (keys.map .ofKeypad)⟩).after.untraced := by
        have hsame : n.state.runFrame keys n.settings.budget =
            m.state.runFrame keys m.settings.budget := by rw [hstate, hsettings]
        rcases (m.state.runFrame keys m.settings.budget).valid_cases with hvalid | ⟨f, hstray⟩
        · obtain ⟨_, hmcall⟩ := call_of_valid hm console rfl hvalid
          obtain ⟨_, hncall⟩ := call_of_valid hn console' hsame hvalid
          rw [hmcall, hncall]
          refine ⟨rfl, ?_⟩
          show (m.played _).untraced = (n.played _).untraced
          rw [played_untraced, played_untraced, h]
        · obtain ⟨_, hmcall⟩ := call_of_stray hm console rfl hstray
          obtain ⟨_, hncall⟩ := call_of_stray hn console' hsame hstray
          rw [hmcall, hncall]
          refine ⟨rfl, ?_⟩
          show (m.strayed _).untraced = (n.strayed _).untraced
          rw [strayed_untraced, strayed_untraced, h]
      cases keys with
      | none => exact played none
      | some v =>
        cases hv : v.toKeypad with
        | error why =>
          rw [call_of_refused hm console hv, call_of_refused hn console' hv]
          exact ⟨rfl, h⟩
        | ok p =>
          obtain rfl := KeyVector.toKeypad_eq_ok_iff.mp hv
          exact played (some p)

theorem calls_congr (h : m.untraced = n.untraced) {cs ds : List Call}
    (hreq : cs.map Call.request = ds.map Call.request) :
    (m.calls cs).map Event.answer = (n.calls ds).map Event.answer ∧
      (m.after cs).untraced = (n.after ds).untraced := by
  induction cs generalizing m n ds with
  | nil =>
    obtain rfl := List.map_eq_nil_iff.mp hreq.symm
    exact ⟨rfl, h⟩
  | cons c cs ih =>
    obtain ⟨d, ds, rfl, hd, hds⟩ := List.map_eq_cons_iff.mp hreq.symm
    obtain ⟨hanswer, hafter⟩ := call_congr h hd.symm
    obtain ⟨hanswers, hlast⟩ := ih hafter hds.symm
    refine ⟨?_, hlast⟩
    rw [calls, calls, List.map_cons, List.map_cons, hanswer, hanswers]

/-- A machine that is reset is left the same, however it was called before. -/
theorem after_reset (m : Machine) (cs : List Call) (console : Console) :
    (m.after (cs ++ [⟨console, .reset⟩])).untraced = m.reset.untraced := by
  obtain ⟨hsettings, horigin⟩ := m.after_settings_origin cs
  rw [after_append]
  exact reset_congr hsettings horigin

/-- **A reset replays.**

Start a machine, call it in any way, and reset it.  From then on it answers as a machine does that
is just started with the same settings and any trace, or none: calls that ask for the same bring
about the same answers, in the same order, and leave the same state, the same fault, the same
count of frames and the same tone. -/
theorem reset_replays {c : Settings} {trace : Option Trace} {start : Machine}
    (h : Machine.start c trace = .ok start) (trace' : Option Trace) (before : List Call)
    (console : Console) {again fresh : List Call}
    (hsame : again.map Call.request = fresh.map Call.request) :
    ∃ new, Machine.start c trace' = .ok new ∧
      let old := start.after (before ++ [⟨console, .reset⟩])
      (old.calls again).map Event.answer = (new.calls fresh).map Event.answer ∧
      (old.after again).state = (new.after fresh).state ∧
      (old.after again).error = (new.after fresh).error ∧
      (old.after again).halted = (new.after fresh).halted ∧
      (old.after again).frames = (new.after fresh).frames ∧
      (old.after again).soundActive = (new.after fresh).soundActive := by
  obtain ⟨s, hs, rfl⟩ := start_eq_ok_iff.mp h
  refine ⟨_, start_eq_ok_iff.mpr ⟨s, hs, rfl⟩, ?_⟩
  intro old
  have hnew : old.untraced =
      untraced { settings := c, origin := s, started := hs, state := s, trace := trace' } :=
    after_reset _ before console
  obtain ⟨hanswers, hafter⟩ := calls_congr hnew hsame
  have hstate := congrArg Machine.state hafter
  have herror := congrArg Machine.error hafter
  have hframes := congrArg Machine.frames hafter
  exact ⟨hanswers, hstate, herror, congrArg Option.isSome herror, hframes,
    congrArg State.soundActive hstate⟩

/-- A program that writes a random byte over its own first instruction, sounds the tone and then
makes no sense, with a key held down: all of this a reset undoes. -/
theorem reset_replays_sample :
    let image : List UInt8 :=
      [0xA2, 0x00, 0xC0, 0xFF, 0xF0, 0x55, 0x61, 0x05, 0xF1, 0x18, 0xFF, 0xFF]
    let c : Settings := { program := image }
    let s : State := { State.initial (.ofSeed 0) {} with
      memory := Memory.initial.store programStart image }
    let start : Machine := {
      settings := c
      origin := s
      started := rfl
      state := s
      trace := some {} }
    let held : Request := .frame (some (.ofKeypad (.ofKeys [3])))
    let before : List Call := [held, .frame (some (.row []))].map (⟨{}, ·⟩)
    let again : List Call := [.frame none, held].map (⟨{ now := 8 }, ·⟩)
    let old := start.after (before ++ [⟨{}, .reset⟩])
    Machine.start c (some {}) = .ok start ∧
      (start.after before).error =
        some { cause := .invalidOpcode 0xFFFF .unassigned, pc := some 0x20A } ∧
      (start.after before).state.random ≠ s.random ∧
      (start.after before).state.memory.get 0x200 ≠ s.memory.get 0x200 ∧
      (start.after before).soundActive = true ∧
      (start.after before).state.keypad = .ofKeys [3] ∧
      ∃ new, Machine.start c none = .ok new ∧
        (old.calls again).map Event.answer = (new.calls again).map Event.answer ∧
        (old.after again).state = (new.after again).state := by
  intro image c s start held before again old
  have hstart : Machine.start c (some {}) = .ok start := rfl
  have hsame : again.map Call.request = again.map Call.request := rfl
  obtain ⟨new, hnew, hanswers, hstate, -⟩ := reset_replays hstart none before {} hsame
  have hpast : (start.after before).error =
        some { cause := .invalidOpcode 0xFFFF .unassigned, pc := some 0x20A } ∧
      (start.after before).state.random ≠ s.random ∧
      (start.after before).state.memory.get 0x200 ≠ s.memory.get 0x200 ∧
      (start.after before).soundActive = true ∧
      (start.after before).state.keypad = .ofKeys [3] := by decide +kernel
  obtain ⟨herror, hrandom, hmemory, hsound, hkeys⟩ := hpast
  exact ⟨hstart, herror, hrandom, hmemory, hsound, hkeys, new, hnew, hanswers, hstate⟩

end Machine

end ChipEight
