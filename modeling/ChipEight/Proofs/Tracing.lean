import ChipEight.Logger
import ChipEight.Proofs.FetchExecute
import ChipEight.Proofs.FrameRun
import ChipEight.Proofs.Listing

/-! # Following a frame

A frame runs the same whether a trace follows it or not.  What differs is what is printed:
`Taken.shown` is the line of a step, and `Logger.Reports` says what a logger prints of a fault,
one line if the host is given a frame with a fault in it and nothing otherwise.

The lines are printed while the frame runs.  `followFrame_eq` reads them off the account of the
frame instead, and the account names the steps that the frame has taken, so that no second
induction over the run is needed here (`followFrame_observes`).
-/
namespace ChipEight

/-! ## Messages that are printed -/

namespace Level

theorem ofText_label (level : Level) : ofText level.label = level := by
  cases level <;> decide

end Level

namespace Logger

variable (l : Logger) (console : Console)

/-- A message under the heading of a logger. -/
def headed (level : Level) (message : String) : String :=
  l.stamp console.now ++ l.levelMark console.terminal level.label ++ "[" ++ l.name ++ "] "
    ++ message

/-- A message that is important enough is printed in one piece. -/
theorem print_of_le {level : Level} (message : String) (h : l.threshold.rank ≤ level.rank) :
    l.print console level message = [l.headed console level message] := by
  rw [print, log, level.ofText_label, if_pos h]
  rfl

end Logger

/-! ## Faults -/

/-- The host is given the account of this frame, and a fault ended it. -/
def Frame.Faulted (frame : Frame) (f : Fault) : Prop :=
  frame.valid = .ok frame ∧ frame.ending = .fault f

/-- What a logger prints of the fault in a frame. -/
inductive Logger.Reports (l : Logger) (console : Console) (frame : Frame) : List String → Prop where
  /-- One line names the fault. -/
  | fault {f : Fault} (h : frame.Faulted f) :
    Reports l console frame [l.headed console .error f.report]
  /-- There is nothing to report. -/
  | silent (h : ∀ f, ¬frame.Faulted f) : Reports l console frame []

namespace Frame

variable (frame : Frame) (console : Console)

theorem programFault?_eq_some_iff {f : Fault} :
    frame.ending.programFault? = some f ↔ frame.Faulted f := by
  rw [Ending.programFault?, Option.filter_eq_some_iff, Ending.fault?_eq_some_iff, Faulted, valid]
  constructor
  · rintro ⟨hf, hp⟩
    simp only [hf, Ending.fault?, hp, if_true, and_self]
  · rintro ⟨hv, hf⟩
    refine ⟨hf, Decidable.byContradiction fun hp => ?_⟩
    simp only [hf, Ending.fault?, if_neg hp] at hv
    cases hv

/-- A logger that prints errors reports the fault of a frame. -/
theorem reports (l : Logger) (hl : l.threshold.rank ≤ Level.error.rank) :
    l.Reports console frame
      ((frame.ending.programFault?.map fun f => l.print console .error f.report).getD []) := by
  cases hf : frame.ending.programFault? with
  | none =>
    refine .silent fun f h => ?_
    rw [frame.programFault?_eq_some_iff.mpr h] at hf
    cases hf
  | some f =>
    show l.Reports console frame (l.print console .error f.report)
    rw [l.print_of_le console _ hl]
    exact .fault (frame.programFault?_eq_some_iff.mp hf)

end Frame

/-! ## Instructions -/

/-- What a trace shows of a step: the address it was taken at, the word that ran, and that word
as assembly. -/
def Taken.shown (u : Taken) : String :=
  "0x" ++ Text.hex 3 u.before.pc.toNat ++ "  " ++ Text.hex 4 u.word.toNat ++ "  "
    ++ disassemble u.word

/-- A trace that prints everything prints one line for each step. -/
theorem Trace.instructionsOf_entries (console : Console) {t : Trace}
    (ht : t.logger.threshold = .debug) (steps : List Taken) :
    (t.instructionsOf console (steps.map Taken.entry)).2 =
      steps.map fun u => t.logger.headed console .debug u.shown := by
  induction steps generalizing t with
  | nil => rfl
  | cons u steps ih =>
    have hline : (t.instruction console u.before.pc.toNat u.word).2 =
        [t.logger.headed console .debug u.shown] :=
      t.logger.print_of_le console u.shown (ht ▸ Nat.le_refl Level.debug.rank)
    have hrest := ih (t := (t.instruction console u.before.pc.toNat u.word).1) ht
    show (t.instruction console u.before.pc.toNat u.word).2 ++
      (((t.instruction console u.before.pc.toNat u.word).1).instructionsOf console
        (steps.map Taken.entry)).2 = _
    rw [hline, hrest]
    rfl

/-- What is printed of a frame that a trace follows: its steps, and a report at the end. -/
theorem Frame.log_followed (frame : Frame) (console : Console) {t : Trace}
    (ht : t.logger.threshold = .debug) {steps : List Taken}
    (hexec : frame.executed = steps.map Taken.entry) :
    frame.log console (some t) =
      (some { t with instructions := t.instructions + frame.count },
        steps.map (fun u => t.logger.headed console .debug u.shown) ++
          (frame.ending.programFault?.map
            fun f => t.logger.print console .error f.report).getD []) := by
  have hlines : t.instructionsOf console frame.executed =
      ({ t with instructions := t.instructions + frame.count },
        steps.map fun u => t.logger.headed console .debug u.shown) :=
    Prod.ext (t.instructionsOf_fst console frame.executed)
      (hexec ▸ Trace.instructionsOf_entries console ht steps)
  simp only [log, hlines]
  rfl

/-- **A step runs the word that its own word lands on**, and no such word is listed as data. -/
theorem Run.listed {s t : State} {steps : List Taken} (h : Run s steps t) {u : Taken}
    (hu : u ∈ steps) :
    u.before.memory.LandsOn u.before.word u.word ∧ ∀ text, disassemble u.word ≠ "DW" ++ text := by
  obtain ⟨-, ⟨op, hsettle⟩, -⟩ := State.step_eq_ok_iff_execute.mp (h.step_of_mem u hu)
  obtain ⟨hlands, hop⟩ := State.settle_eq_ok_iff_landsOn.mp hsettle
  exact ⟨hlands, disassemble_ne_data hop⟩

namespace State

/-- The host is given the account of a frame, unless it has set up a stack pointer that is out of
reach. -/
theorem valid_runFrame_or (s : State) (keys : Option Keypad) (budget : Int) :
    (s.runFrame keys budget).valid = .ok (s.runFrame keys budget) ∨
      ¬s.stack.InReach ∧ ∃ e, (s.runFrame keys budget).valid = .error e := by
  rcases (s.runFrame keys budget).valid_cases with hvalid | ⟨e, herror⟩
  · exact Or.inl hvalid
  · refine Or.inr ⟨fun hs => ?_, e, herror⟩
    cases herror.symm.trans (valid_runFrame_of_inReach hs keys budget)

/-- **A trace observes and does not interfere.**

A frame that a trace follows and one that nobody follows are the same, also in the one case in
which the host is given an error instead of an account.  A trace that prints everything prints one
line for each step in order: the address it was taken at, the word that ran, which is the last of
its chain, and that word as assembly, never as data.  A line for the fault comes last, if there is
one, and the trace has counted the steps.  Of a frame that nobody follows only the fault is
printed. -/
theorem followFrame_observes (s : State) (console : Console) {t : Trace}
    (ht : t.logger.threshold = .debug) (keys : Option Keypad) (budget : Int) :
    ∃ frame steps report unfollowed,
      s.followFrame console (some t) keys budget =
        (frame, some { t with instructions := t.instructions + frame.count },
          steps.map (fun u => t.logger.headed console .debug u.shown) ++ report) ∧
      s.followFrame console none keys budget = (frame, none, unfollowed) ∧
      (frame.valid = .ok frame ∨ ¬s.stack.InReach ∧ ∃ e, frame.valid = .error e) ∧
      Run (s.beginFrame keys) steps frame.state ∧
      frame.executed = steps.map Taken.entry ∧ frame.count = steps.length ∧
      (∀ u ∈ steps, u.before.memory.LandsOn u.before.word u.word ∧
        ∀ text, disassemble u.word ≠ "DW" ++ text) ∧
      t.logger.Reports console frame report ∧
      Logger.machine.Reports console frame unfollowed := by
  obtain ⟨steps, hrun, hexec, -, -⟩ := s.runFrame_closes keys budget
  have hcount : (s.runFrame keys budget).count = steps.length := by
    rw [Frame.count, hexec, List.length_map]
  have hle : t.logger.threshold.rank ≤ Level.error.rank := ht ▸ Nat.zero_le _
  refine ⟨s.runFrame keys budget, steps, _, _, ?_, s.followFrame_eq console none keys budget,
    s.valid_runFrame_or keys budget, hrun, hexec, hcount, fun u hu => hrun.listed hu,
    (s.runFrame keys budget).reports console _ hle,
    (s.runFrame keys budget).reports console _ (by decide)⟩
  rw [followFrame_eq, Frame.log_followed _ console ht hexec]

/-- A program that calls its second word as machine code, which puts `2A` into `V0`, runs that
word once more where it stands, and comes to an end. -/
theorem followFrame_observes_sample :
    let s : State := { State.initial (.ofSeed 0) .classic with
      memory := Memory.initial.store programStart [0x02, 0x02, 0x60, 0x2A] }
    let t : Trace := {}
    t.logger.threshold = .debug ∧
      (s.followFrame {} (some t) none 3).2.2 = [
        "[    0.00s][   DEBUG][CHIP8] 0x200  602A  LD V0, 0x2A",
        "[    0.00s][   DEBUG][CHIP8] 0x202  602A  LD V0, 0x2A",
        "[    0.00s][   ERROR][CHIP8] InvalidOpcode: Invalid opcode F090. (pc=0x204)"] ∧
      (s.followFrame {} none none 3).2.2 = [
        "[    0.00s][   ERROR][chip8core] InvalidOpcode: Invalid opcode F090. (pc=0x204)"] ∧
      ∃ frame, ∃ steps : List Taken, ∃ report unfollowed,
        s.followFrame {} (some t) none 3 =
          (frame, some { t with instructions := t.instructions + frame.count },
            steps.map (fun u => t.logger.headed {} .debug u.shown) ++ report) ∧
        s.followFrame {} none none 3 = (frame, none, unfollowed) ∧
        t.logger.Reports {} frame report ∧ Logger.machine.Reports {} frame unfollowed := by
  intro s t
  obtain ⟨frame, steps, report, unfollowed, hfollowed, hun, -, -, -, -, -, hreport, hunreport⟩ :=
    s.followFrame_observes {} (t := t) rfl none 3
  exact ⟨rfl, by decide +kernel, by decide +kernel, frame, steps, report, unfollowed, hfollowed,
    hun, hreport, hunreport⟩

end State

end ChipEight
