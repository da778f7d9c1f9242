import ChipEight.Proofs.ReachableStates

/-! # Runs that frames cut into pieces

A program does not know of frames: between two of its steps the timers may tick and the host may
hand over new keys.  A `Session` is a run with such interruptions, in any order and number.

`Frames` is the account of several frames, one after the other.  Each is a `Played` frame, with
the state it found, what it was called with, and the steps it took; these are the ones that the
frame itself accounts for.  Frames can be played from every state (`exists_frames`), and what they
play is a session (`Frames.session`).
-/
namespace ChipEight

/-- Steps taken one after the other, with ticks and new keys before, between and after them. -/
inductive Session : State → List Taken → State → Prop where
  | nil (s : State) : Session s [] s
  | tick {s t : State} {steps : List Taken} (rest : Session s.tick steps t) : Session s steps t
  | keys {s t : State} {steps : List Taken} (keys : Keypad)
    (rest : Session (s.acceptKeys keys) steps t) : Session s steps t
  | step {s s' t : State} {w : Word} {steps : List Taken} (h : s.step = .ok (s', w))
    (rest : Session s' steps t) : Session s (⟨s, w, s'⟩ :: steps) t

namespace Session

variable {s t u : State} {steps more : List Taken} {first : Taken}

/-- Interruptions leave the stack alone, so the first step finds it as the session did. -/
theorem of_cons (h : Session s (first :: steps) t) :
    first.before.stack = s.stack ∧ first.before.step = .ok (first.after, first.word) ∧
      Session first.after steps t := by
  generalize hl : first :: steps = l at h
  induction h with
  | nil => cases hl
  | tick _ ih => exact ih hl
  | keys _ _ ih => exact ih hl
  | step hstep rest =>
    obtain ⟨rfl, rfl⟩ := List.cons.inj hl
    exact ⟨rfl, hstep, rest⟩

theorem append (h : Session s steps t) (h' : Session t more u) : Session s (steps ++ more) u := by
  induction h with
  | nil => exact h'
  | tick _ ih => exact .tick (ih h')
  | keys keys _ ih => exact .keys keys (ih h')
  | step hstep _ ih => exact .step hstep (ih h')

end Session

theorem Run.session {s t : State} {steps : List Taken} (h : Run s steps t) :
    Session s steps t := by
  induction h with
  | nil => exact .nil _
  | cons hstep _ ih => exact .step hstep ih

/-! ## Frames in a row -/

/-- A frame that was played. -/
structure Played where
  /-- The state it found. -/
  before : State
  /-- The keys handed over, if any. -/
  keys : Option Keypad
  /-- Its budget. -/
  budget : Int
  /-- The steps it took. -/
  steps : List Taken

namespace Played

/-- The account of the frame. -/
def account (f : Played) : Frame := f.before.runFrame f.keys f.budget

/-- The keys during the frame: those handed over, or else those of before. -/
def vector (f : Played) : Keypad := f.keys.getD f.before.keypad

/-- What the frame was called with. -/
def call (f : Played) : Option Keypad × Int := (f.keys, f.budget)

/-- The steps are those of the frame: they lead to the state that it left, and it accounts for
these and no others. -/
structure Faithful (f : Played) : Prop where
  run : Run (f.before.beginFrame f.keys) f.steps f.account.state
  executed : f.account.executed = f.steps.map Taken.entry

/-- The steps of a frame close as it ended. -/
theorem Faithful.closes {f : Played} (h : f.Faithful) :
    Closes f.budget.toNat f.steps f.account.state f.account.ending := by
  obtain ⟨steps, hrun, hexec, -, hclose⟩ := f.before.runFrame_closes f.keys f.budget
  have hmap : f.steps.map Taken.entry = steps.map Taken.entry := h.executed.symm.trans hexec
  have hlen : f.steps.length = steps.length := by simpa using congrArg List.length hmap
  rw [h.run.unique hrun hlen]
  exact hclose

end Played

/-- The frames played one after the other from one state to another. -/
inductive Frames : State → List Played → State → Prop where
  | nil (s : State) : Frames s [] s
  | cons {t : State} {f : Played} {frames : List Played} (h : f.Faithful)
    (rest : Frames f.account.state frames t) : Frames f.before (f :: frames) t

theorem Frames.append {s t u : State} {frames more : List Played} (h : Frames s frames t)
    (h' : Frames t more u) : Frames s (frames ++ more) u := by
  induction h with
  | nil => exact h'
  | cons hf _ ih => exact .cons hf (ih h')

theorem Frames.before_first {s t : State} {frames : List Played} {f : Played}
    (h : Frames s frames t) (hf : frames[0]? = some f) : f.before = s := by
  cases h with
  | nil => cases hf
  | cons => rw [← Option.some.inj hf]

/-- A frame finds the state that the one before it has left. -/
theorem Frames.before_succ {s t : State} {frames : List Played} {f g : Played} {n : Nat}
    (h : Frames s frames t) (hf : frames[n]? = some f) (hg : frames[n + 1]? = some g) :
    g.before = f.account.state := by
  induction h generalizing n with
  | nil => cases hf
  | cons _ rest ih =>
    cases n with
    | zero =>
      obtain rfl := Option.some.inj hf
      exact rest.before_first hg
    | succ n => exact ih hf hg

theorem Frames.faithful {s t : State} {frames : List Played} (h : Frames s frames t) :
    ∀ f ∈ frames, f.Faithful := by
  induction h with
  | nil => exact fun _ hf => absurd hf List.not_mem_nil
  | cons hf _ ih => exact List.forall_mem_cons.mpr ⟨hf, ih⟩

/-- Frames leave a stack in reach as they find one. -/
theorem Frames.inReach {s t : State} {frames : List Played} (h : Frames s frames t)
    (hs : s.stack.InReach) : t.stack.InReach := by
  induction h with
  | nil => exact hs
  | @cons t f frames _ _ ih => exact ih (State.runFrame_inReach hs f.keys f.budget)

/-- Frames are played whatever they are called with. -/
theorem exists_frames (s : State) (calls : List (Option Keypad × Int)) :
    ∃ frames, Frames s frames (s.runFrames calls) ∧ frames.map Played.call = calls := by
  induction calls generalizing s with
  | nil => exact ⟨[], .nil s, rfl⟩
  | cons call calls ih =>
    obtain ⟨keys, budget⟩ := call
    obtain ⟨steps, hrun, hexec, -⟩ := s.runFrame_closes keys budget
    have hfaithful : Played.Faithful ⟨s, keys, budget, steps⟩ := ⟨hrun, hexec⟩
    obtain ⟨frames, hframes, hcalls⟩ := ih (s.runFrame keys budget).state
    exact ⟨_ :: frames, .cons hfaithful hframes, congrArg ((keys, budget) :: ·) hcalls⟩

/-- The steps of frames are a session: each frame begins with new keys and a tick. -/
theorem Frames.session {s t : State} {frames : List Played} (h : Frames s frames t) :
    Session s (frames.flatMap Played.steps) t := by
  induction h with
  | nil => exact .nil _
  | @cons t f frames hf _ ih =>
    rw [List.flatMap_cons]
    exact .keys f.vector (.tick (hf.run.session.append ih))

end ChipEight
