import ChipEight.Proofs.LifeCycle
import ChipEight.Proofs.Sessions
import ChipEight.Proofs.WriteFootprint

/-! # Random bytes come from the seed

A key is followed by other keys, one for each byte that is drawn: `RandomKey.after k n` is the key
after `n` of them, and `RandomKey.stream k j` the byte that is drawn then.  Of all that a program
does, only the instruction for random numbers draws (`State.step_random`), and between two of its
steps nothing does, so a session draws the bytes of the stream in order (`Session.drawnFrom`).
`DrawnFrom` says so of a list of steps, step by step: the key that a step finds is determined by
how many of the steps before it have drawn.

The frames of a machine since its last reset are such a session, from the state it started in
(`Machine.exists_frames_sinceReset`).  Hence the seed alone determines the bytes, whatever frames
there are, however they end, and whatever else is asked of the machine in the meantime.
-/
namespace ChipEight

namespace RandomKey

/-- The key after so many bytes have been drawn. -/
def after (k : RandomKey) : Nat → RandomKey
  | 0 => k
  | n + 1 => k.next.after n

/-- The bytes that are drawn, one after the other, counted from zero. -/
def stream (k : RandomKey) (j : Nat) : UInt8 := (k.after j).byte

end RandomKey

/-! ## Steps that draw -/

/-- A step that drew a random byte. -/
def Taken.Rolls (t : Taken) : Prop := Operation.random.Matches t.word

instance (t : Taken) : Decidable t.Rolls :=
  inferInstanceAs (Decidable (Operation.random.Matches t.word))

/-- The steps that drew a random byte. -/
def rolls (steps : List Taken) : List Taken := steps.filter fun t => t.Rolls

theorem rolls_cons_of_rolls {t : Taken} (steps : List Taken) (h : t.Rolls) :
    rolls (t :: steps) = t :: rolls steps :=
  List.filter_cons_of_pos (decide_eq_true h)

theorem rolls_cons_of_not_rolls {t : Taken} (steps : List Taken) (h : ¬t.Rolls) :
    rolls (t :: steps) = rolls steps :=
  List.filter_cons_of_neg (by rw [decide_eq_false h]; exact Bool.false_ne_true)

/-- What a step does to the generator. -/
theorem State.step_random {s s' : State} {w : Word} (h : s.step = .ok (s', w)) :
    (Operation.random.Matches w ∧ s'.random = s.random.next ∧
        s'.registers.get w.x = s.random.byte &&& w.nn) ∨
      (¬Operation.random.Matches w ∧ s'.random = s.random) := by
  obtain ⟨-, op, hop, -, he⟩ := step_ok h
  by_cases hr : op = .random
  · subst hr
    cases he with
    | random => exact Or.inl ⟨hop, rfl, Vector.getElem_setIfInBounds_self ..⟩
  · exact Or.inr ⟨fun hm => hr (hop.unique hm), he.random_of_ne hr⟩

/-! ## Streams -/

/-- On their way to a state, the steps draw their random bytes from the stream of a key, one byte
each, and nothing else draws in the meantime. -/
structure DrawnFrom (k : RandomKey) (steps : List Taken) (last : State) : Prop where
  /-- What is drawn goes into the register, as far as the instruction asks for. -/
  stored : ∀ j t, (rolls steps)[j]? = some t →
    t.after.registers.get t.word.x = k.stream j &&& t.word.nn
  /-- A step finds the key that the draws before it have left. -/
  found : ∀ i t, steps[i]? = some t → t.before.random = k.after (rolls (steps.take i)).length
  /-- And it leaves the key after these draws and, perhaps, its own. -/
  left : ∀ i t, steps[i]? = some t → t.after.random = k.after (rolls (steps.take (i + 1))).length
  last : last.random = k.after (rolls steps).length

namespace DrawnFrom

variable {k : RandomKey} {steps : List Taken} {last : State} {t : Taken}

theorem nil (s : State) : DrawnFrom s.random [] s := by
  refine ⟨?_, ?_, ?_, rfl⟩ <;> intro i t ht <;> cases ht

/-- A step that draws takes the first byte of the stream. -/
theorem cons_of_rolls (h : DrawnFrom k.next steps last) (ht : t.Rolls)
    (hbefore : t.before.random = k) (hafter : t.after.random = k.next)
    (hstored : t.after.registers.get t.word.x = k.byte &&& t.word.nn) :
    DrawnFrom k (t :: steps) last where
  stored := by
    rintro (_ | j) u hu
    · rw [rolls_cons_of_rolls steps ht] at hu
      obtain rfl := Option.some.inj hu
      exact hstored
    · rw [rolls_cons_of_rolls steps ht] at hu
      exact h.stored j u hu
  found := by
    rintro (_ | i) u hu
    · obtain rfl := Option.some.inj hu
      exact hbefore
    · rw [List.take_succ_cons, rolls_cons_of_rolls _ ht]
      exact h.found i u hu
  left := by
    rintro (_ | i) u hu
    · obtain rfl := Option.some.inj hu
      rw [List.take_succ_cons, rolls_cons_of_rolls _ ht]
      exact hafter
    · rw [List.take_succ_cons, rolls_cons_of_rolls _ ht]
      exact h.left i u hu
  last := by
    rw [rolls_cons_of_rolls steps ht]
    exact h.last

/-- Any other step leaves the stream as it is. -/
theorem cons_of_not_rolls (h : DrawnFrom k steps last) (ht : ¬t.Rolls)
    (hbefore : t.before.random = k) (hafter : t.after.random = k) :
    DrawnFrom k (t :: steps) last where
  stored := by
    rw [rolls_cons_of_not_rolls steps ht]
    exact h.stored
  found := by
    rintro (_ | i) u hu
    · obtain rfl := Option.some.inj hu
      exact hbefore
    · rw [List.take_succ_cons, rolls_cons_of_not_rolls _ ht]
      exact h.found i u hu
  left := by
    rintro (_ | i) u hu
    · obtain rfl := Option.some.inj hu
      rw [List.take_succ_cons, rolls_cons_of_not_rolls _ ht]
      exact hafter
    · rw [List.take_succ_cons, rolls_cons_of_not_rolls _ ht]
      exact h.left i u hu
  last := by
    rw [rolls_cons_of_not_rolls steps ht]
    exact h.last

end DrawnFrom

/-- **The steps of a session draw from the key that it finds.** -/
theorem Session.drawnFrom {s t : State} {steps : List Taken} (h : Session s steps t) :
    DrawnFrom s.random steps t := by
  induction h with
  | nil s => exact .nil s
  | tick _ ih => exact ih
  | keys _ _ ih => exact ih
  | @step s s' t w steps hstep _ ih =>
    rcases State.step_random hstep with ⟨hm, hnext, hstored⟩ | ⟨hm, hsame⟩
    · rw [hnext] at ih
      exact ih.cons_of_rolls hm rfl hnext hstored
    · rw [hsame] at ih
      exact ih.cons_of_not_rolls hm rfl hsame

/-! ## The frames of a machine since its last reset -/

/-- The account of a frame in an answer. -/
def Event.account? (e : Event) : Option Frame :=
  match e.answer with
  | .frame account => some account
  | _ => none

/-- The frames lead a machine from the state it started in to its state now, and are those it has
accounted for since the last reset. -/
structure PlayedSinceReset (past : List Event) (m : Machine) (frames : List Played) : Prop where
  run : Frames m.origin frames m.state
  accounts : frames.map Played.account = (counted (sinceReset past)).filterMap Event.account?

namespace PlayedSinceReset

variable {past : List Event} {m : Machine} {frames : List Played} {e : Event}

/-- An event that leaves the machine as it is and does not count. -/
theorem idle (h : PlayedSinceReset past m frames) (hreset : e.isReset = false)
    (hcounts : ¬e.Counts) : PlayedSinceReset (past ++ [e]) m frames where
  run := h.run
  accounts := by
    rw [sinceReset_of_not_reset past hreset, counted_append_of_not_counts hcounts]
    exact h.accounts

theorem reset (past : List Event) (m : Machine) (hreset : e.isReset = true) :
    PlayedSinceReset (past ++ [e]) m.reset [] where
  run := .nil m.origin
  accounts := by
    rw [sinceReset_of_reset past hreset]
    rfl

/-- A frame that counts is played after the others. -/
theorem play (h : PlayedSinceReset past m frames) {c : Call} {keys : Option Keypad}
    (lines : List String) (hc : c.request = .frame (keys.map .ofKeypad)) (hm : m.error = none)
    {account : Frame} (haccount : m.state.runFrame keys m.settings.budget = account) :
    ∃ f, PlayedSinceReset (past ++ [⟨m, c, .frame account, lines, m.played account⟩])
      (m.played account) (frames ++ [f]) := by
  obtain ⟨steps, hrun, hexec, -⟩ := m.state.runFrame_closes keys m.settings.budget
  let f : Played := ⟨m.state, keys, m.settings.budget, steps⟩
  have hf : f.Faithful := ⟨hrun, hexec⟩
  have hlast : f.account.state = account.state := congrArg Frame.state haccount
  have hcounts : Event.Counts ⟨m, c, .frame account, lines, m.played account⟩ := ⟨hm, keys, hc⟩
  refine ⟨f, h.run.append (.cons hf (hlast ▸ .nil account.state)), ?_⟩
  rw [sinceReset_of_not_reset past (by rw [Event.isReset, hc]), counted_append_of_counts hcounts,
    List.map_append, List.filterMap_append, h.accounts]
  exact congrArg (_ ++ [·]) haccount

theorem call (h : PlayedSinceReset past m frames) (c : Call) :
    ∃ frames', PlayedSinceReset (past ++ [m.call c]) (m.call c).after frames' := by
  have hout := m.call_outcome c
  generalize m.call c = e at hout
  cases hout with
  | reset hc => exact ⟨[], reset past m (by rw [Event.isReset, hc])⟩
  | halted hc hm =>
    refine ⟨frames, h.idle (by rw [Event.isReset, hc]) ?_⟩
    rintro ⟨hnone, -⟩
    cases hnone.symm.trans hm
  | refused hc hm hv =>
    refine ⟨frames, h.idle (by rw [Event.isReset, hc]) ?_⟩
    rintro ⟨-, hasks⟩
    rw [hc] at hasks
    exact Request.not_asksForFrame_of_refused hv hasks
  | counted lines hc hm haccount =>
    obtain ⟨f, hplayed⟩ := h.play lines hc hm haccount
    exact ⟨_, hplayed⟩
  | astray lines hc hm haccount hstray =>
    -- frames that lead here from where the machine was started leave the stack in reach
    have hreach := h.run.inReach m.reachable_origin.bounded.tidy.inReach
    rw [← haccount, State.valid_runFrame_of_inReach hreach] at hstray
    cases hstray

theorem calls (h : PlayedSinceReset past m frames) (cs : List Call) :
    ∃ frames', PlayedSinceReset (past ++ m.calls cs) (m.after cs) frames' := by
  induction cs generalizing past m frames with
  | nil =>
    rw [Machine.calls, List.append_nil]
    exact ⟨frames, h⟩
  | cons c cs ih =>
    obtain ⟨frames', hcall⟩ := h.call c
    obtain ⟨frames'', hrest⟩ := ih hcall
    rw [List.append_assoc] at hrest
    exact ⟨frames'', hrest⟩

end PlayedSinceReset

/-- A machine that was started and called has played such frames. -/
theorem Machine.exists_frames_sinceReset {c : Settings} {trace : Option Trace} {start : Machine}
    (h : Machine.start c trace = .ok start) (cs : List Call) :
    ∃ frames, PlayedSinceReset (start.calls cs) (start.after cs) frames := by
  have hplayed : PlayedSinceReset [] start [] := by
    obtain ⟨s, -, rfl⟩ := start_eq_ok_iff.mp h
    exact ⟨.nil s, rfl⟩
  exact hplayed.calls cs

/-! ## The seed -/

theorem State.load_random {s s' : State} {image : List UInt8} (h : s.load image = .ok s') :
    s'.random = s.random := by
  rcases State.load_ok h with rfl | rfl
  · rfl
  · rfl

theorem Machine.start_random {c : Settings} {trace : Option Trace} {m : Machine}
    (h : Machine.start c trace = .ok m) : m.origin.random = .ofSeed c.seed := by
  obtain ⟨s, hs, rfl⟩ := start_eq_ok_iff.mp h
  unfold Settings.start at hs
  split at hs
  · cases hs
  · unfold RandomKey.ofSeed? at hs
    split at hs
    · exact State.load_random (Fault.mapError_eq_ok_iff.mp hs)
    · cases hs

/-- **The seed determines the random bytes.**

Whatever image is loaded into a machine with this seed and whatever frames are run, the random
bytes are those of one stream, each used once and in order: the instruction that is the `j`-th to
draw stores the `j`-th byte, and at every step, and at the end, the key is that of the seed split
once for every draw before.  Neither the way a frame ends nor the next one's beginning has a part
in it.  A machine that is called in any way draws the stream from its beginning after every
reset. -/
theorem random_stream_of_seed (seed : Int) :
    (∀ (dialect : Dialect) (image : List UInt8) (start : State),
      (State.initial (.ofSeed seed) dialect).load image = .ok start →
      ∀ calls : List (Option Keypad × Int), ∃ frames,
        Frames start frames (start.runFrames calls) ∧ frames.map Played.call = calls ∧
          DrawnFrom (.ofSeed seed) (frames.flatMap Played.steps) (start.runFrames calls)) ∧
    (∀ (c : Settings) (trace : Option Trace) (start : Machine),
      c.seed = seed → Machine.start c trace = .ok start →
      ∀ cs : List Call, ∃ frames,
        Frames start.origin frames (start.after cs).state ∧
          frames.map Played.account =
            (counted (sinceReset (start.calls cs))).filterMap Event.account? ∧
          DrawnFrom (.ofSeed seed) (frames.flatMap Played.steps) (start.after cs).state) := by
  constructor
  · intro dialect image start hload calls
    have hkey : start.random = .ofSeed seed := State.load_random hload
    obtain ⟨frames, hframes, hcalls⟩ := exists_frames start calls
    exact ⟨frames, hframes, hcalls, hkey ▸ hframes.session.drawnFrom⟩
  · rintro c trace start rfl hstart cs
    have hkey : start.origin.random = .ofSeed c.seed := Machine.start_random hstart
    obtain ⟨frames, hplayed⟩ := Machine.exists_frames_sinceReset hstart cs
    have hframes := hplayed.run
    rw [(start.after_settings_origin cs).2] at hframes
    exact ⟨frames, hframes, hplayed.accounts, hkey ▸ hframes.session.drawnFrom⟩

/-- A program that draws, draws again through a machine-code call, waits for a key and then makes
no sense.  A machine runs it until it halts, is reset, and runs it until it waits. -/
theorem random_stream_of_seed_sample :
    let image : List UInt8 :=
      [0xC0, 0xFF, 0x02, 0x08, 0xF2, 0x0A, 0xFF, 0xFF, 0xC1, 0x0F]
    let c : Settings := { program := image, seed := 7 }
    let s : State := { State.initial (.ofSeed 7) {} with
      memory := Memory.initial.store programStart image }
    let start : Machine := { settings := c, origin := s, started := rfl, state := s }
    let key (keys : List Nat) : Request := .frame (some (.ofKeypad (.ofKeys keys)))
    let before : List Call := [.frame none, key [4], key []].map (⟨{}, ·⟩)
    let cs : List Call := before ++ [⟨{}, .reset⟩, ⟨{}, .frame none⟩]
    (State.initial (.ofSeed 7) {}).load image = .ok s ∧ Machine.start c none = .ok start ∧
      (∃ frames, Frames s frames (s.runFrames [(none, 1), (none, 0)]) ∧
        DrawnFrom (.ofSeed 7) (frames.flatMap Played.steps)
          (s.runFrames [(none, 1), (none, 0)])) ∧
      (∃ frames, Frames s frames (start.after cs).state ∧
        DrawnFrom (.ofSeed 7) (frames.flatMap Played.steps) (start.after cs).state) ∧
      (start.after before).error =
        some { cause := .invalidOpcode 0xFFFF .unassigned, pc := some 0x206 } ∧
      (start.after before).state.random = (RandomKey.ofSeed 7).after 2 ∧
      (start.after cs).state.random = (RandomKey.ofSeed 7).after 2 ∧
      (start.after cs).state.registers.get 0 = (RandomKey.ofSeed 7).stream 0 ∧
      (start.after cs).state.registers.get 1 = (RandomKey.ofSeed 7).stream 1 &&& 0x0F := by
  intro image c s start key before cs
  have hload : (State.initial (.ofSeed 7) {}).load image = .ok s := rfl
  have hstart : Machine.start c none = .ok start := rfl
  obtain ⟨hstates, hmachines⟩ := random_stream_of_seed 7
  obtain ⟨frames, hframes, -, hdrawn⟩ := hstates {} image s hload [(none, 1), (none, 0)]
  obtain ⟨frames', hframes', -, hdrawn'⟩ := hmachines c none start rfl hstart cs
  exact ⟨hload, hstart, ⟨frames, hframes, hdrawn⟩, ⟨frames', hframes', hdrawn'⟩,
    by decide +kernel⟩

end ChipEight
