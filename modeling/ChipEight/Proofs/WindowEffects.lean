import ChipEight.Proofs.EventScripts

/-! # What a window is asked for

Every turn in a window waits for its time, may start or stop the tone, and shows a picture.
`TurnRecord` is a turn as it is seen from outside, and `TurnRecord.effects` is what it asks for.

The window carries from turn to turn whether the tone is playing.  This does not have to be
carried either: with a tone to play, it plays after a turn exactly if the machine wants it to
(`sound_eq`), whatever the events have done to the machine.  So the records of a run are a function
of the courses of its turns (`records`), by a step for one turn (`turn_effects`) and an induction
over the script (`Follows.turns_effects`), and what they say of the tone is read off that
function.
-/
namespace ChipEight

namespace Machine

open Host

/-- The courses of turns, one after the other, up to the first that goes astray. -/
def turnEnds (console : Console) (past : List Host.Event) (m : Machine) :
    List (List Host.Event) → List Course
  | [] => []
  | events :: script =>
    let told := m.turn console past events
    told :: match told.stray? with
      | none => told.machine.turnEnds console (past ++ events) script
      | some _ => []

section Ends

variable {console : Console} {past : List Host.Event} {m : Machine}
  {script : List (List Host.Event)}

theorem turnEnds_cons_of_none {events : List Host.Event}
    (h : (m.turn console past events).stray? = none) :
    m.turnEnds console past (events :: script) = m.turn console past events ::
      (m.turn console past events).machine.turnEnds console (past ++ events) script := by
  rw [turnEnds, h]

theorem turnEnds_cons_of_last {events : List Host.Event}
    (h : script = [] ∨ ∃ f, (m.turn console past events).stray? = some f) :
    m.turnEnds console past (events :: script) = [m.turn console past events] := by
  rw [turnEnds]
  rcases h with rfl | ⟨f, hf⟩
  · cases (m.turn console past events).stray? <;> rfl
  · rw [hf]

/-- Each of them is the course of the turns up to its own. -/
theorem getElem?_turnEnds {told : Course} {i : Nat}
    (h : (m.turnEnds console past script)[i]? = some told) :
    told = m.turns console past (script.take (i + 1)) := by
  induction script generalizing m past i with
  | nil => cases h
  | cons events script ih =>
    rw [List.take_succ_cons, turns]
    cases hstray : (m.turn console past events).stray? with
    | none =>
      rw [turnEnds_cons_of_none hstray] at h
      rw [Course.andThen_of_none hstray]
      cases i with
      | zero =>
        rw [← Option.some.inj h]
        exact Course.eq_mk_of_none hstray
      | succ i => exact ih h
    | some f =>
      rw [turnEnds_cons_of_last (Or.inr ⟨f, hstray⟩)] at h
      rw [Course.andThen_of_some hstray]
      cases i with
      | zero => exact (Option.some.inj h).symm
      | succ i => cases h

theorem length_turnEnds_le : (m.turnEnds console past script).length ≤ script.length := by
  induction script generalizing m past with
  | nil => exact Nat.le_refl _
  | cons events script ih =>
    cases hstray : (m.turn console past events).stray? with
    | none =>
      rw [turnEnds_cons_of_none hstray]
      exact Nat.succ_le_succ ih
    | some f =>
      rw [turnEnds_cons_of_last (Or.inr ⟨f, hstray⟩)]
      exact Nat.succ_le_succ (Nat.zero_le _)

/-- With no turn that goes astray, there is one for each of the script. -/
theorem length_turnEnds (h : ∀ told ∈ m.turnEnds console past script, told.stray? = none) :
    (m.turnEnds console past script).length = script.length := by
  induction script generalizing m past with
  | nil => rfl
  | cons events script ih =>
    have hfirst : (m.turn console past events).stray? = none := h _ (List.mem_cons_self ..)
    rw [turnEnds_cons_of_none hfirst] at h ⊢
    exact congrArg (· + 1) (ih fun told ht => h told (List.mem_cons_of_mem _ ht))

/-- Turns go astray in one of them. -/
theorem exists_stray_of_turns {f : Fault} (h : (m.turns console past script).stray? = some f) :
    ∃ told ∈ m.turnEnds console past script, told.stray? = some f := by
  induction script generalizing m past with
  | nil => cases h
  | cons events script ih =>
    cases hstray : (m.turn console past events).stray? with
    | none =>
      rw [turns, Course.andThen_of_none hstray] at h
      rw [turnEnds_cons_of_none hstray]
      obtain ⟨told, hmem, hf⟩ := ih h
      exact ⟨told, List.mem_cons_of_mem _ hmem, hf⟩
    | some f' =>
      have hlast : script = [] ∨ ∃ f, (m.turn console past events).stray? = some f :=
        Or.inr ⟨f', hstray⟩
      rw [turns_cons_of_last hlast] at h
      rw [turnEnds_cons_of_last hlast]
      exact ⟨_, List.mem_cons_self .., h⟩

/-- And that one is the last. -/
theorem last_of_stray {told : Course} {f : Fault} {i : Nat}
    (h : (m.turnEnds console past script)[i]? = some told) (hf : told.stray? = some f) :
    (m.turnEnds console past script).length = i + 1 ∧ m.turns console past script = told := by
  induction script generalizing m past i with
  | nil => cases h
  | cons events script ih =>
    cases hstray : (m.turn console past events).stray? with
    | none =>
      rw [turnEnds_cons_of_none hstray] at h ⊢
      rw [turns, Course.andThen_of_none hstray]
      cases i with
      | zero =>
        rw [← Option.some.inj h, hstray] at hf
        cases hf
      | succ i =>
        obtain ⟨hlength, hturns⟩ := ih h
        exact ⟨congrArg (· + 1) hlength, hturns⟩
    | some f' =>
      have hlast : script = [] ∨ ∃ f, (m.turn console past events).stray? = some f :=
        Or.inr ⟨f', hstray⟩
      rw [turnEnds_cons_of_last hlast] at h ⊢
      rw [turns_cons_of_last hlast]
      cases i with
      | zero => exact ⟨rfl, Option.some.inj h⟩
      | succ i => cases h

theorem stray?_of_mem_turnEnds (h : m.state.stack.InReach) {told : Course}
    (ht : told ∈ m.turnEnds console past script) : told.stray? = none := by
  obtain ⟨i, hi⟩ := List.mem_iff_getElem?.mp ht
  rw [getElem?_turnEnds hi]
  exact (turns_inReach h console past _).none

end Ends

theorem frame_settings (m : Machine) (console : Console) (keys : Option Keypad) :
    (m.frame console keys).machine.settings = m.settings := by
  cases hm : m.error with
  | some f => rw [frame, advance_of_halted hm]
  | none =>
    rcases (m.state.runFrame keys m.settings.budget).valid_cases with hvalid | ⟨f, hstray⟩
    · obtain ⟨_, hadvance⟩ := advance_of_valid hm console rfl hvalid
      rw [frame, hadvance]
      rfl
    · obtain ⟨_, hadvance⟩ := advance_of_stray hm console rfl hstray
      rw [frame, hadvance]
      rfl

/-- What a machine was started with does not change in a turn. -/
theorem turn_settings (m : Machine) (console : Console) (past events : List Host.Event) :
    (m.turn console past events).machine.settings = m.settings := by
  have hready : (if events.any (·.isReset) then m.reset else m).settings = m.settings := by
    split <;> rfl
  rw [turn]
  generalize (if events.any (·.isReset) then m.reset else m) = ready at hready
  by_cases hstays : (isPaused (past ++ events) || ready.halted) = true
  · rw [if_pos hstays, hready]
  · rw [if_neg hstays, frame_settings, hready]

end Machine

namespace Host

/-! ## Turns from outside -/

/-- A turn as it is seen from outside. -/
structure TurnRecord where
  /-- The machine that it leaves, and whether its frame has gone astray. -/
  course : Course
  /-- Whether the tone was started or stopped, if it was either. -/
  tone : Option Bool
  /-- The picture that was shown, if there was one. -/
  picture : Option Picture

/-- What a turn asks for. -/
def TurnRecord.effects (fps : Int) (t : TurnRecord) : List Effect :=
  .tick fps :: ((t.tone.map fun start => if start then .play (-1) else .stop).toList ++
    (t.picture.map .present).toList)

/-- Whether the tone is playing after some turns: the last change was a start. -/
def isPlaying (turns : List TurnRecord) : Bool := (turns.filterMap (·.tone)).getLastD false

/-- What is asked for before the first turn. -/
def WindowSettings.setup (c : WindowSettings) : List Effect :=
  [.openWindow (64 * c.scale) (32 * c.scale), .caption "CHIP-8"] ++
    if c.audio then [.mixer 44100 (-16) 1] else []

namespace Window

/-! ## The records of a run -/

section Records

variable (c : WindowSettings) (scheme : ColorScheme)

/-- Whether the tone plays after a turn: as the machine wants, if it can.  A turn whose frame goes
astray does not come to the tone. -/
def plays (was : Bool) (told : Course) : Bool :=
  match told.stray? with
  | none => c.hasTone && told.machine.soundActive
  | some _ => was

/-- The record of a turn that takes this course, with the tone playing before or not. -/
def record (was : Bool) (told : Course) : TurnRecord where
  course := told
  tone := if plays c was told = was then none else some (plays c was told)
  picture :=
    match told.stray? with
    | none => (Window.picture { machine := told.machine } c scheme).toOption
    | some _ => none

/-- The records of turns that take these courses. -/
def records (was : Bool) : List Course → List TurnRecord
  | [] => []
  | told :: rest => record c scheme was told :: records (plays c was told) rest

theorem map_course_records (was : Bool) (ends : List Course) :
    (records c scheme was ends).map (·.course) = ends := by
  induction ends generalizing was with
  | nil => rfl
  | cons told rest ih => exact congrArg (told :: ·) (ih _)

theorem length_records (was : Bool) (ends : List Course) :
    (records c scheme was ends).length = ends.length := by
  have hlength := congrArg List.length (map_course_records c scheme was ends)
  rwa [List.length_map] at hlength

theorem take_records (was : Bool) (ends : List Course) (n : Nat) :
    (records c scheme was ends).take n = records c scheme was (ends.take n) := by
  induction ends generalizing was n with
  | nil =>
    rw [List.take_nil]
    exact List.take_nil
  | cons told rest ih =>
    cases n with
    | zero => rfl
    | succ n => exact congrArg (record c scheme was told :: ·) (ih _ n)

/-- A record is that of its course, after some of the others. -/
theorem exists_record_of_mem {was : Bool} {ends : List Course} {t : TurnRecord}
    (h : t ∈ records c scheme was ends) :
    t.course ∈ ends ∧ ∃ was', t = record c scheme was' t.course := by
  induction ends generalizing was with
  | nil => cases h
  | cons told rest ih =>
    rcases List.mem_cons.mp h with rfl | h
    · exact ⟨List.mem_cons_self .., was, rfl⟩
    · obtain ⟨hmem, hrecord⟩ := ih h
      exact ⟨List.mem_cons_of_mem _ hmem, hrecord⟩

/-- A turn whose frame has gone astray does not come to the tone or to a picture. -/
theorem record_of_stray {told : Course} {f : Fault} (h : told.stray? = some f) (was : Bool) :
    (record c scheme was told).tone = none ∧ (record c scheme was told).picture = none := by
  have hplays : plays c was told = was := by rw [plays, h]
  refine ⟨if_pos hplays, ?_⟩
  simp only [record, h]

theorem picture_record {told : Course} (h : told.stray? = none) (was : Bool) :
    (record c scheme was told).picture =
      (Window.picture { machine := told.machine } c scheme).toOption := by
  simp only [record, h]

/-- Starts and stops follow each other in turn. -/
theorem isChain_tones (was : Bool) (ends : List Course) :
    (was :: (records c scheme was ends).filterMap (·.tone)).IsChain (· ≠ ·) := by
  induction ends generalizing was with
  | nil => exact .singleton was
  | cons told rest ih =>
    rw [records, List.filterMap_cons, record]
    by_cases h : plays c was told = was
    · simp only [if_pos h]
      rw [h]
      exact ih was
    · simp only [if_neg h]
      exact .cons_cons (Ne.symm h) (ih _)

/-- The changes of the tone tell whether it plays. -/
theorem getLastD_tones (was : Bool) (ends : List Course) :
    ((records c scheme was ends).filterMap (·.tone)).getLastD was =
      ends.foldl (plays c) was := by
  induction ends generalizing was with
  | nil => rfl
  | cons told rest ih =>
    rw [List.foldl_cons, ← ih, records, List.filterMap_cons, record]
    by_cases h : plays c was told = was
    · simp only [if_pos h]
      rw [h]
    · simp only [if_neg h, List.getLastD_cons]

/-- Without a tone to play, none is started or stopped. -/
theorem tone_of_mem_records (hno : c.hasTone = false) {ends : List Course} {t : TurnRecord}
    (h : t ∈ records c scheme false ends) : t.tone = none := by
  have hsilent (told : Course) : plays c false told = false := by
    rw [plays, hno, Bool.false_and]
    split <;> rfl
  induction ends with
  | nil => cases h
  | cons told rest ih =>
    rcases List.mem_cons.mp h with rfl | h
    · exact if_pos (hsilent told)
    · rw [hsilent] at h
      exact ih h

end Records

/-! ## One turn -/

variable (console : Console) {c : WindowSettings} (scheme : ColorScheme)

/-- **After a turn the tone plays exactly if it can and the machine wants it to.** -/
theorem sound_eq (w : Window) (h : w.beeping = true → c.hasTone = true) :
    let plays := c.hasTone && w.machine.soundActive
    w.sound c = ({ w with beeping := plays },
      ((if plays = w.beeping then none else some plays).map
        fun start => if start then .play (-1) else .stop).toList) := by
  obtain ⟨m, keys, beeping, paused, running⟩ := w
  unfold sound
  cases hactive : m.soundActive with
  | false =>
    cases hbeeping : beeping with
    | false => simp
    | true => simp [h hbeeping]
  | true =>
    cases htone : c.hasTone with
    | false =>
      have hsilent : beeping = false :=
        Bool.eq_false_iff.mpr fun hb => Bool.false_ne_true (htone.symm.trans (h hb))
      simp [hsilent]
    | true =>
      cases beeping with
      | false => simp
      | true => simp

theorem handle_beeping (w : Window) (e : Event) :
    (w.handle console e).1.beeping = w.beeping := by
  unfold handle setKey
  split
  · rfl
  · rfl
  · rfl
  · split
    · rfl
    · split <;> rfl
  · split <;> rfl
  · rfl

theorem handleAll_beeping (w : Window) (events : List Event) :
    (w.handleAll console events).1.beeping = w.beeping := by
  induction events generalizing w with
  | nil => rfl
  | cons e events ih => exact (ih _).trans (w.handle_beeping console e)

/-- What a turn asks for is told by its course and by whether the tone was playing. -/
theorem Follows.turn_effects {w : Window} {past : List Event} (h : w.Follows past)
    (events : List Event) (hbeeping : w.beeping = true → c.hasTone = true) :
    let told := w.machine.turn console past events
    (w.turn c console scheme events).effects =
        (record c scheme w.beeping told).effects told.machine.settings.fps ∧
      (w.turn c console scheme events).window.beeping = plays c w.beeping told := by
  intro told
  obtain ⟨hran, hstray⟩ := h.runFrame_handleAll console events
  obtain ⟨ready, hready⟩ : ∃ ready, ready = ((w.handleAll console events).1.runFrame console).1 :=
    ⟨_, rfl⟩
  rw [← hready] at hran
  have hkept : ready.beeping = w.beeping := by
    rw [hran]
    exact w.handleAll_beeping console events
  have hmachine : ready.machine = told.machine := by rw [hran]
  have hsound := ready.sound_eq (c := c) (hkept ▸ hbeeping)
  simp only [Window.turn, hstray, ← hready]
  cases hnone : told.stray? with
  | some f =>
    obtain ⟨htone, hpicture⟩ := record_of_stray c scheme hnone w.beeping
    rw [TurnRecord.effects, htone, hpicture, plays, hnone, hmachine]
    exact ⟨rfl, hkept⟩
  | none =>
    have hplays : (c.hasTone && ready.machine.soundActive) = plays c w.beeping told := by
      rw [plays, hnone, hmachine]
    rw [hkept, hplays] at hsound
    have hpicture : Window.picture { ready with beeping := plays c w.beeping told } c scheme =
        Window.picture { machine := told.machine } c scheme := by
      rw [← hmachine]
      rfl
    simp only [hsound, hpicture]
    rw [TurnRecord.effects, picture_record c scheme hnone, ← hmachine]
    cases Window.picture { machine := ready.machine } c scheme with
    | error e => exact ⟨congrArg (Effect.tick _ :: ·) (List.append_nil _).symm, rfl⟩
    | ok p => exact ⟨rfl, rfl⟩

/-! ## Whole runs -/

/-- The records of the turns that are taken tell what a window asks for. -/
theorem Follows.turns_effects {w : Window} {past : List Event} (h : w.Follows past)
    (hrunning : w.running = true) (hbeeping : w.beeping = true → c.hasTone = true)
    (script : List (List Event)) :
    (Window.turns c console w scheme script).effects =
      (records c scheme w.beeping (w.machine.turnEnds console past (taken c script))).flatMap
        (·.effects w.machine.settings.fps) := by
  induction script generalizing w past with
  | nil =>
    obtain ⟨heffects, -⟩ := h.turn_effects console scheme [.quit] hbeeping
    rw [Machine.turn_settings] at heffects
    rw [taken_nil, Machine.turnEnds_cons_of_last (Or.inl rfl)]
    exact heffects.trans (List.append_nil _).symm
  | cons events script ih =>
    obtain ⟨heffects, htone⟩ := h.turn_effects console scheme events hbeeping
    obtain ⟨hfollows, hmachine, -, -⟩ := h.turn (c := c) console scheme events
    rw [Machine.turn_settings] at heffects
    rcases h.turns_cons (c := c) console scheme hrunning events script with
      ⟨hturns, rest, htaken, hlast⟩ | ⟨hturns, htaken, hstray, hgoes⟩
    · rw [hturns, htaken, Machine.turnEnds_cons_of_last hlast]
      exact heffects.trans (List.append_nil _).symm
    · have hplays : (w.turn c console scheme events).window.beeping = true → c.hasTone = true := by
        rw [htone, plays, hstray]
        exact fun hb => (Bool.and_eq_true_iff.mp hb).1
      have hrest := ih hfollows hgoes hplays
      rw [hmachine, htone, Machine.turn_settings] at hrest
      rw [hturns, htaken, Machine.turnEnds_cons_of_none hstray]
      show (w.turn c console scheme events).effects ++ _ = _
      rw [heffects, hrest]
      rfl

/-- Nothing is closed in a turn. -/
theorem close_notMem_effects (fps : Int) (t : TurnRecord) : .close ∉ t.effects fps := by
  obtain ⟨m, tone, picture⟩ := t
  rcases tone with _ | _ | _ <;> cases picture <;> simp [TurnRecord.effects]

theorem close_notMem_setup (c : WindowSettings) : .close ∉ c.setup := by
  unfold WindowSettings.setup
  cases c.audio <;> simp

/-- The records of a whole run. -/
def runRecords (console : Console) (c : WindowSettings) (scheme : ColorScheme) (m : Machine)
    (script : List (List Event)) : List TurnRecord :=
  records c scheme false (m.turnEnds console [] (taken c script))

theorem length_taken_of_obstacle {e : PictureError} (h : c.obstacle? = some e)
    (script : List (List Event)) : ∃ events, taken c script = [events] := by
  cases script with
  | nil => exact ⟨_, taken_nil⟩
  | cons events script =>
    refine ⟨events, ?_⟩
    rw [taken_cons, h]
    rfl

theorem take_taken {script : List (List Event)} {i : Nat} (hi : i < (taken c script).length) :
    (taken c script).take (i + 1) = (turnsOf script).take (i + 1) := by
  cases h : c.obstacle? with
  | none => rw [taken_of_no_obstacle h]
  | some e =>
    obtain ⟨events, htaken⟩ := length_taken_of_obstacle h script
    rw [htaken, List.length_singleton, Nat.lt_one_iff] at hi
    rw [taken_of_obstacle h, hi, List.take_take]
    rfl

section Play

variable {scheme} (m : Machine) (script : List (List Event))

/-- Everything is closed at the end, and only there. -/
theorem play_closes (hname : ColorScheme.ofName? c.scheme = some scheme) :
    (play c console m script).effects = c.setup ++
        (runRecords console c scheme m script).flatMap (·.effects m.settings.fps) ++ [.close] ∧
      (play c console m script).effects.count .close = 1 := by
  have heffects := (follows_nil m).turns_effects (c := c) console scheme rfl nofun script
  have hscheme : ColorScheme.ofName c.scheme = .ok scheme := by rw [ColorScheme.ofName, hname]
  have hmixer : (openMixer c console).1 = if c.audio then [.mixer 44100 (-16) 1] else [] := by
    unfold openMixer
    split <;> rfl
  have hplay : (play c console m script).effects = c.setup ++
      (runRecords console c scheme m script).flatMap (·.effects m.settings.fps) ++ [.close] := by
    rw [play, hscheme, WindowSettings.setup, ← hmixer]
    exact congrArg (_ ++ · ++ [.close]) heffects
  have hturns : ((runRecords console c scheme m script).flatMap
      (·.effects m.settings.fps)).count .close = 0 :=
    List.count_eq_zero.mpr fun hmem => by
      obtain ⟨t, -, ht⟩ := List.mem_flatMap.mp hmem
      exact close_notMem_effects m.settings.fps t ht
  refine ⟨hplay, ?_⟩
  rw [hplay, List.count_append, List.count_append, hturns,
    List.count_eq_zero.mpr (close_notMem_setup c)]
  rfl

theorem getElem?_turnEnds_of_record {i : Nat} {t : TurnRecord}
    (h : (runRecords console c scheme m script)[i]? = some t) :
    (m.turnEnds console [] (taken c script))[i]? = some t.course := by
  rw [← map_course_records c scheme false (m.turnEnds console [] (taken c script)),
    List.getElem?_map]
  exact congrArg (Option.map (·.course)) h

/-- A turn takes the machine where the turns up to it take it. -/
theorem course_of_record {i : Nat} {t : TurnRecord}
    (h : (runRecords console c scheme m script)[i]? = some t) :
    t.course = m.turns console [] ((turnsOf script).take (i + 1)) := by
  have hend := getElem?_turnEnds_of_record console m script h
  have hi : i < (taken c script).length :=
    Nat.lt_of_lt_of_le (List.getElem?_eq_some_iff.mp hend).1 Machine.length_turnEnds_le
  rw [Machine.getElem?_turnEnds hend, take_taken hi]

/-- Unless its frame goes astray, the tone plays after a turn as its machine wants. -/
theorem isPlaying_of_record {i : Nat} {t : TurnRecord}
    (h : (runRecords console c scheme m script)[i]? = some t) (hnone : t.course.stray? = none) :
    isPlaying ((runRecords console c scheme m script).take (i + 1)) =
      (c.hasTone && t.course.machine.soundActive) := by
  have hend := getElem?_turnEnds_of_record console m script h
  rw [isPlaying, runRecords, take_records, getLastD_tones, List.take_add_one, hend]
  show ((m.turnEnds console [] (taken c script)).take i ++ [t.course]).foldl (plays c) false = _
  rw [List.foldl_concat, plays, hnone]

/-- With nothing in the way, a turn shows the screen in the size of the window. -/
theorem picture_of_no_obstacle (h : c.obstacle? = none) {t : TurnRecord}
    (ht : t ∈ runRecords console c scheme m script) (hnone : t.course.stray? = none) :
    ∃ p, t.picture = some p ∧
      t.course.machine.state.screen.enlarge c.room c.scale scheme.on scheme.off = .ok p ∧
      (p.width : Int) = 64 * c.scale ∧ (p.height : Int) = 32 * c.scale := by
  have hscale := WindowSettings.one_le_of_no_obstacle h
  have hpicture := picture_eq (c := c) scheme { machine := t.course.machine }
  rw [h] at hpicture
  obtain ⟨-, was, hrecord⟩ := exists_record_of_mem c scheme ht
  have hshown := picture_record c scheme hnone was
  rw [← hrecord, hpicture] at hshown
  have henlarge : t.course.machine.state.screen.enlarge c.room c.scale scheme.on scheme.off = _ :=
    (if_neg (Int.not_lt.mpr hscale)).symm.trans hpicture
  refine ⟨_, hshown, henlarge, ?_, ?_⟩
  · show ((64 * c.scale.toNat : Nat) : Int) = 64 * c.scale
    omega
  · show ((32 * c.scale.toNat : Nat) : Int) = 32 * c.scale
    omega

/-- With something in the way, there is one turn; it shows nothing, and cannot stop the tone. -/
theorem runRecords_of_obstacle (hname : ColorScheme.ofName? c.scheme = some scheme)
    {e : PictureError} (h : c.obstacle? = some e) :
    ∃ t, runRecords console c scheme m script = [t] ∧ t.tone ≠ some false ∧ t.picture = none ∧
      (t.course.stray? = none → (play c console m script).failure = some (.picture e)) := by
  obtain ⟨events, htaken⟩ := length_taken_of_obstacle h script
  have hfailure := (play_of_scheme console m script hname).2
  rw [htaken, Machine.turns_cons_of_last (Or.inl rfl)] at hfailure
  refine ⟨record c scheme false (m.turn console [] events), ?_, ?_, ?_, fun hnone => ?_⟩
  · rw [runRecords, htaken, Machine.turnEnds_cons_of_last (Or.inl rfl)]
    rfl
  · -- the tone does not play yet
    intro hstop
    simp only [record] at hstop
    split at hstop
    · cases hstop
    · rename_i hplays
      exact hplays (Option.some.inj hstop)
  · cases hstray : (m.turn console [] events).stray? with
    | some f => exact (record_of_stray c scheme hstray false).2
    | none =>
      rw [picture_record c scheme hstray, picture_eq, h]
      rfl
  · have hstray : (m.turn console [] events).stray? = none := hnone
    rw [hfailure, WindowSettings.failure?, hstray, h]
    rfl

/-- A turn whose frame goes astray is the last, and does not come to the tone or to a picture. -/
theorem runRecords_of_stray (hname : ColorScheme.ofName? c.scheme = some scheme) {t : TurnRecord}
    (ht : t ∈ runRecords console c scheme m script) {f : Fault} (hf : t.course.stray? = some f) :
    (runRecords console c scheme m script).getLast? = some t ∧ t.tone = none ∧ t.picture = none ∧
      (play c console m script).failure = some (.astray f) := by
  obtain ⟨i, hi⟩ := List.mem_iff_getElem?.mp ht
  obtain ⟨-, was, hrecord⟩ := exists_record_of_mem c scheme ht
  obtain ⟨htone, hpicture⟩ := record_of_stray c scheme hf was
  obtain ⟨hlength, hturns⟩ :=
    Machine.last_of_stray (getElem?_turnEnds_of_record console m script hi) hf
  rw [← hrecord] at htone hpicture
  refine ⟨?_, htone, hpicture, ?_⟩
  · rw [List.getLast?_eq_getElem?, runRecords, length_records, hlength]
    exact hi
  · rw [(play_of_scheme console m script hname).2, hturns, WindowSettings.failure?, hf]
    rfl

/-- With nothing in the way and no frame that goes astray, no turn is left out. -/
theorem length_runRecords_of_no_obstacle (hname : ColorScheme.ofName? c.scheme = some scheme)
    (h : c.obstacle? = none)
    (hnone : ∀ t ∈ runRecords console c scheme m script, t.course.stray? = none) :
    (runRecords console c scheme m script).length = (turnsOf script).length ∧
      (play c console m script).failure = none := by
  have hends : ∀ told ∈ m.turnEnds console [] (taken c script), told.stray? = none := by
    intro told htold
    rw [← map_course_records c scheme false (m.turnEnds console [] (taken c script))] at htold
    obtain ⟨t, ht, rfl⟩ := List.mem_map.mp htold
    exact hnone t ht
  refine ⟨?_, ?_⟩
  · rw [runRecords, length_records, Machine.length_turnEnds hends, taken_of_no_obstacle h]
  · rw [(play_of_scheme console m script hname).2, WindowSettings.failure?, h]
    cases hstray : (m.turns console [] (taken c script)).stray? with
    | none => rfl
    | some f =>
      obtain ⟨told, htold, hf⟩ := Machine.exists_stray_of_turns hstray
      cases (hends told htold).symm.trans hf

end Play

/-- What holds of the turns of a run, as they are seen from outside. -/
structure EffectDiscipline (c : WindowSettings) (scheme : ColorScheme) (console : Console)
    (m : Machine) (script : List (List Event)) (turns : List TurnRecord) : Prop where
  /-- After the set-up the turns ask for what they record, and then everything is closed. -/
  effects : (play c console m script).effects =
    c.setup ++ turns.flatMap (·.effects m.settings.fps) ++ [.close]
  /-- It is closed only then. -/
  closed : (play c console m script).effects.count .close = 1
  /-- A turn takes the machine where the turns of the script up to it take it. -/
  courses : ∀ i t, turns[i]? = some t →
    t.course = m.turns console [] ((turnsOf script).take (i + 1))
  /-- After a turn the tone plays exactly if it can and the machine wants it to. -/
  playing : ∀ i t, turns[i]? = some t → t.course.stray? = none →
    isPlaying (turns.take (i + 1)) = (c.hasTone && t.course.machine.soundActive)
  /-- Starts and stops follow each other in turn, and the first is a start. -/
  alternating : (false :: turns.filterMap (·.tone)).IsChain (· ≠ ·)
  /-- Without a tone to play, nothing is started or stopped. -/
  silent : c.hasTone = false → ∀ t ∈ turns, t.tone = none
  /-- With nothing in the way, a turn shows the screen in the size of the window. -/
  shown : c.obstacle? = none → ∀ t ∈ turns, t.course.stray? = none →
    ∃ p, t.picture = some p ∧
      t.course.machine.state.screen.enlarge c.room c.scale scheme.on scheme.off = .ok p ∧
      (p.width : Int) = 64 * c.scale ∧ (p.height : Int) = 32 * c.scale
  /-- And no turn is left out. -/
  complete : c.obstacle? = none → (∀ t ∈ turns, t.course.stray? = none) →
    turns.length = (turnsOf script).length ∧ (play c console m script).failure = none
  /-- With something in the way, the first turn is the last and ends without a picture. -/
  hindered : ∀ e, c.obstacle? = some e →
    ∃ t, turns = [t] ∧ t.tone ≠ some false ∧ t.picture = none ∧
      (t.course.stray? = none → (play c console m script).failure = some (.picture e))
  /-- A turn whose frame goes astray is the last and ends before the tone and the picture. -/
  astray : ∀ t ∈ turns, ∀ f, t.course.stray? = some f →
    turns.getLast? = some t ∧ t.tone = none ∧ t.picture = none ∧
      (play c console m script).failure = some (.astray f)

/-- **What a window is asked for.**

After the set-up, every turn waits for its time, starts or stops the tone at most once, and shows
the screen in the size of the window; and then everything is closed, once and last, however the
run ends.  If there is a tone to play, it is playing after a turn exactly if the machine that the
turn leaves wants it to; starts and stops follow each other in turn, and the first is a start.
Without one, nothing is started or stopped.

If no screen can be shown, then the first turn is the last and ends without a picture.  This is so
with no points to a pixel, and otherwise exactly where there is no room for the picture.  A run
also ends with a frame that goes astray, which none does if the stack pointer is in reach. -/
theorem play_effects {scheme : ColorScheme} (m : Machine) (script : List (List Event))
    (hname : ColorScheme.ofName? c.scheme = some scheme) :
    (∃ turns, EffectDiscipline c scheme console m script turns ∧
      (m.state.stack.InReach → ∀ t ∈ turns, t.course.stray? = none)) ∧
    (c.scale < 1 → c.obstacle? = some (.scale c.scale)) ∧
    (1 ≤ c.scale → Bitmap.HasRoom c.room 64 32 c.scale → c.obstacle? = none) ∧
    (1 ≤ c.scale → ¬Bitmap.HasRoom c.room 64 32 c.scale →
      c.obstacle? = some (.noRoom (c.room.shortage ⟨64, 32, c.scale⟩))) := by
  obtain ⟨heffects, hclosed⟩ := play_closes console m script hname
  refine ⟨⟨runRecords console c scheme m script, ?_, fun hreach t ht => ?_⟩,
    WindowSettings.obstacle?_of_lt_one, WindowSettings.obstacle?_of_hasRoom,
    WindowSettings.obstacle?_of_not_hasRoom⟩
  · exact {
      effects := heffects
      closed := hclosed
      courses := fun i t => course_of_record console m script
      playing := fun i t => isPlaying_of_record console m script
      alternating := isChain_tones c scheme false _
      silent := fun hno t => tone_of_mem_records c scheme hno
      shown := fun h t ht => picture_of_no_obstacle console m script h ht
      complete := length_runRecords_of_no_obstacle console m script hname
      hindered := fun e => runRecords_of_obstacle console m script hname
      astray := fun t ht f => runRecords_of_stray console m script hname ht }
  · exact Machine.stray?_of_mem_turnEnds hreach (exists_record_of_mem c scheme ht).1

/-- A program that wants the tone all the time, in a window that resets and pauses the machine in
the second turn and lets it go on in the third. -/
theorem play_effects_sample :
    let image : List UInt8 := [0x60, 0x05, 0xF0, 0x18, 0x12, 0x00]
    let s : State := { State.initial (.ofSeed 0) .classic with
      memory := Memory.initial.store programStart image }
    let m : Machine := {
      settings := { program := image, frequency := 180 }
      origin := s
      started := rfl
      state := s }
    let c : WindowSettings := { scale := 2, room := .counted }
    let script : List (List Event) := [[], [.down .f5, .down .pause], [.down .pause, .quit]]
    ColorScheme.ofName? c.scheme = some .classic ∧
      ∃ t u v : TurnRecord,
        (play c {} m script).effects =
          [.openWindow 128 64, .caption "CHIP-8", .mixer 44100 (-16) 1] ++
            [t, u, v].flatMap (·.effects 60) ++ [.close] ∧
        isPlaying [t] = true ∧ isPlaying [t, u] = false ∧ isPlaying [t, u, v] = true ∧
        ∃ p, v.picture = some p ∧ (p.width : Int) = 128 ∧ (p.height : Int) = 64 := by
  intro image s m c script
  have hname : ColorScheme.ofName? c.scheme = some .classic := by decide
  obtain ⟨⟨turns, hturns, hreach⟩, -, hroom, -⟩ := play_effects {} m script hname
  have hnone := hreach m.inReach_origin
  have hshown := hroom (by decide) (by decide)
  obtain ⟨hlength, -⟩ := hturns.complete hshown hnone
  obtain ⟨t, u, v, rfl⟩ := List.length_eq_three.mp hlength
  have hwants : (m.turns {} [] ((turnsOf script).take 1)).machine.soundActive = true ∧
      (m.turns {} [] ((turnsOf script).take 2)).machine.soundActive = false ∧
      (m.turns {} [] ((turnsOf script).take 3)).machine.soundActive = true := by decide +kernel
  have hv : v.course.stray? = none := hnone v (by simp)
  obtain ⟨p, hp, -, hsize⟩ := hturns.shown hshown v (by simp) hv
  refine ⟨hname, t, u, v, hturns.effects, ?_, ?_, ?_, p, hp, hsize⟩
  · refine (hturns.playing 0 t rfl (hnone t (by simp))).trans ?_
    rw [hturns.courses 0 t rfl, hwants.1]
    rfl
  · refine (hturns.playing 1 u rfl (hnone u (by simp))).trans ?_
    rw [hturns.courses 1 u rfl, hwants.2.1]
    rfl
  · refine (hturns.playing 2 v rfl hv).trans ?_
    rw [hturns.courses 2 v rfl, hwants.2.2]
    rfl

/-- A scale of two to the 63 leaves no room for a picture, so there is none in the one turn that is
taken.  Nor is there one if the stack pointer was set out of reach and the program returns. -/
theorem play_shows_nothing_without_room :
    let image : List UInt8 := [0x12, 0x00, 0x00, 0xEE]
    let s : State := { State.initial (.ofSeed 0) .classic with
      memory := Memory.initial.store programStart image }
    let m : Machine := {
      settings := { program := image, frequency := 60 }
      origin := s
      started := rfl
      state := s }
    let stray : Machine := { m with
      state := { s with pc := 0x202, stack := { s.stack with pointer := 2147483649 } } }
    let c : WindowSettings := {
      scale := 9223372036854775808
      audio := false
      room := .counted }
    1 ≤ c.scale ∧ ColorScheme.ofName? c.scheme = some .classic ∧
      (play c {} m [[]]).effects =
        [.openWindow 590295810358705651712 295147905179352825856, .caption "CHIP-8", .tick 60,
          .close] ∧
      (play c {} m [[]]).status = .error (.picture (.noRoom (c.room.shortage ⟨64, 32, c.scale⟩))) ∧
      (play { room := .counted } {} stray [[]]).effects =
        [.openWindow 640 320, .caption "CHIP-8", .mixer 44100 (-16) 1, .tick 60, .close] ∧
      (play { room := .counted } {} stray [[]]).status =
        .error (.astray { cause := .strayPointer 2147483648 }) := by
  intro image s m stray c
  have hplayed : (play c {} m [[]]).effects =
        [.openWindow 590295810358705651712 295147905179352825856, .caption "CHIP-8", .tick 60,
          .close] ∧
      (play c {} m [[]]).status =
        .error (.picture (.noRoom (c.room.shortage ⟨64, 32, c.scale⟩))) := by decide +kernel
  have hstray : (play { room := .counted } {} stray [[]]).effects =
        [.openWindow 640 320, .caption "CHIP-8", .mixer 44100 (-16) 1, .tick 60, .close] ∧
      (play { room := .counted } {} stray [[]]).status =
        .error (.astray { cause := .strayPointer 2147483648 }) := by decide +kernel
  exact ⟨by decide, by decide, hplayed.1, hplayed.2, hstray⟩

end Window

end Host

end ChipEight
