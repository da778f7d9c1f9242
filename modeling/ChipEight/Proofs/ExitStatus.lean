import ChipEight.CommandLine
import ChipEight.Proofs.HeadlessRuns
import ChipEight.Proofs.OptionReading
import ChipEight.Proofs.Tracing

/-! # How the program ends

Wrong arguments end the program with the exit status 2.  With arguments that make sense there are
two ways to end: an image that cannot be read, or that does not fit into memory, is reported in one
line; and a machine that could be started runs, and the exit status says whether it ends halted.

The program does not always come to an end of its own (`Reports`).  The path may be no path, the
seed may take more than 64 bits, the frames may be too many to count, and there may be no room for
the screen; and, by the earlier convention only (`Options.parse_later`), a value may be missing
where the separator was attached to a flag.  None of this is noticed with the arguments, and none
of it is reported.
-/
namespace ChipEight

namespace CommandLine

/-! ## What is asked for and what is left -/

/-- Whether a seed was given, and one of at most 64 bits. -/
def HasSeed (o : Options) : Prop :=
  ∃ seed, o.seed = .value seed ∧ -9223372036854775808 ≤ seed ∧ seed < 9223372036854775808

/-- Whether a machine can be run as it is asked for: the frames can be counted, or there is a color
scheme and room for the screen. -/
def CanDrive (room : Room Enlargement) (o : Options) : Prop :=
  match o.headless with
  | some given => ∃ n, given = .value n ∧ n < 9223372036854775808
  | none => (∃ scheme, o.colors = .value scheme) ∧ Bitmap.HasRoom room 64 32 o.scale

/-- Whether the program comes to an end of its own. -/
def Reports (room : Room Enlargement) (o : Options) : Except FileError (List UInt8) → Prop
  | .error e => e ≠ .nullCharacter
  | .ok program => HasSeed o ∧ (program.length ≤ 3584 → CanDrive room o)

/-- The course of a machine that is run as it is asked for. -/
def driven (console : Console) (o : Options) (m : Machine) (script : List (List Host.Event)) :
    Course :=
  match o.headless with
  | some (.value n) => m.afterFrames console n.toNat
  | some .nothing => { machine := m }
  | none => m.turns console [] (Host.turnsOf script)

variable (console : Console) {room : Room Enlargement} {o : Options}
  (script : List (List Host.Event)) (mixerError : Option String)

/-! ## Running a machine -/

theorem drive_of_headless {n : Int} (h : o.headless = some (.value n)) (m : Machine) :
    drive console room o m script mixerError =
      let r := Host.runHeadless console m n true
      (r.status.mapError .host >>= fun status =>
        .ok (r.machine, { status := status, printed := r.printed })) := by
  rw [drive, h]
  rfl

/-- The window that options ask for. -/
def windowSettings (room : Room Enlargement) (o : Options) (scheme : ColorScheme)
    (mixerError : Option String) : Host.WindowSettings where
  scale := o.scale
  audio := !o.noAudio
  scheme := scheme.name
  mixerError := mixerError
  room := room

theorem drive_of_window {scheme : ColorScheme} (h : o.headless = none)
    (hcolors : o.colors = .value scheme) (m : Machine) :
    drive console room o m script mixerError =
      let a := Host.Window.play (windowSettings room o scheme mixerError) console m script
      (a.status.mapError .host >>= fun status =>
        .ok (a.window.machine,
          { status := status, printed := a.printed, effects := a.effects })) := by
  rw [drive, h]
  simp only
  rw [hcolors]
  rfl

/-- No frame of a machine goes astray whose stack is in reach. -/
theorem status_driven {m : Machine} (hreach : m.state.stack.InReach) :
    (driven console o m script).status =
      .ok (if (driven console o m script).machine.halted then 1 else 0) := by
  refine Course.status_of_none ?_
  unfold driven
  cases o.headless with
  | none => exact (Machine.turns_inReach hreach console [] _).none
  | some given =>
    cases given with
    | nothing => rfl
    | value n =>
      simp only
      rw [Machine.afterFrames_of_inReach console hreach]

theorem drive_of_canDrive (h : CanDrive room o) (hscale : 0 < o.scale) {m : Machine}
    (hreach : m.state.stack.InReach) :
    ∃ report,
      drive console room o m script mixerError = .ok ((driven console o m script).machine, report) ∧
      report.status = if (driven console o m script).machine.halted then 1 else 0 := by
  have hends := status_driven console script (o := o) hreach
  unfold CanDrive at h
  unfold driven at hends ⊢
  cases hheadless : o.headless with
  | some given =>
    rw [hheadless] at h hends
    obtain ⟨n, rfl, hn⟩ := h
    obtain ⟨hmachine, hstatus⟩ := Host.runHeadless_of_lt console m hn true
    rw [drive_of_headless console script mixerError hheadless]
    simp only [hmachine, hstatus, hends]
    exact ⟨_, rfl, rfl⟩
  | none =>
    rw [hheadless] at h hends
    obtain ⟨⟨scheme, hcolors⟩, hroom⟩ := h
    obtain ⟨hmachine, hstatus⟩ := Host.Window.play_of_room
      (c := windowSettings room o scheme mixerError) console m script scheme.ofName?_name hscale
        hroom
    rw [drive_of_window console script mixerError hheadless hcolors]
    simp only [hmachine, hstatus, hends]
    exact ⟨_, rfl, rfl⟩

theorem drive_of_not_canDrive (h : ¬CanDrive room o) (hscale : 0 < o.scale) (m : Machine) :
    ∃ stop, drive console room o m script mixerError = .error stop := by
  unfold CanDrive at h
  cases hheadless : o.headless with
  | some given =>
    rw [hheadless] at h
    cases given with
    | nothing =>
      refine ⟨.usage (.nothingGiven .headless), ?_⟩
      rw [drive, hheadless]
      rfl
    | value n =>
      have hmany : 9223372036854775808 ≤ n := Int.not_lt.mp fun hn => h ⟨n, rfl, hn⟩
      have hrefused : Host.runHeadless console m n true = ⟨m, [], .error (.frames n)⟩ :=
        if_pos hmany
      rw [drive_of_headless console script mixerError hheadless, hrefused]
      exact ⟨_, rfl⟩
  | none =>
    rw [hheadless] at h
    cases hcolors : o.colors with
    | nothing =>
      refine ⟨.usage (.nothingGiven .colors), ?_⟩
      rw [drive, hheadless]
      simp only
      rw [hcolors]
      rfl
    | value scheme =>
      have hroom : ¬Bitmap.HasRoom room 64 32 o.scale := fun hroom => h ⟨⟨scheme, hcolors⟩, hroom⟩
      obtain ⟨-, hstatus⟩ := Host.Window.play_of_no_room
        (c := windowSettings room o scheme mixerError) console m script scheme.ofName?_name hscale
          hroom
      rw [drive_of_window console script mixerError hheadless hcolors]
      simp only [hstatus]
      exact ⟨_, rfl⟩

/-! ## Starting a machine -/

section Start

variable (hipf : ∀ n, o.ipf = some n → 0 < n) (seed : Int) (program : List UInt8)
  (trace : Option Trace)

include hipf

/-- There is an instruction in every frame. -/
theorem rate_of_positive : ¬((settings o seed program).fps ≤ 0 ∨
    (settings o seed program).frequency < (settings o seed program).fps) := by
  have hfps : (settings o seed program).fps = 60 := rfl
  have hfrequency : 60 ≤ (settings o seed program).frequency := by
    unfold settings
    cases hn : o.ipf with
    | none =>
      show (60 : Int) ≤ 660
      decide
    | some n =>
      show 60 ≤ n * 60
      have hpos := hipf n hn
      omega
  omega

theorem start_of_seed (h : ¬(-9223372036854775808 ≤ seed ∧ seed < 9223372036854775808)) :
    Machine.start (settings o seed program) trace = .error .seed := by
  have hkey : RandomKey.ofSeed? (settings o seed program).seed = .error .seed := if_neg h
  refine Machine.start_eq_error_iff.mpr ?_
  unfold Settings.start
  rw [if_neg (rate_of_positive hipf seed program), hkey]
  rfl

variable (hseed : -9223372036854775808 ≤ seed ∧ seed < 9223372036854775808)

include hseed

/-- The image is the last thing to be looked at. -/
theorem start_eq_load : (settings o seed program).start =
    ((State.initial (.ofSeed seed) (settings o seed program).dialect).load program).mapError
      .fault := by
  have hkey : RandomKey.ofSeed? (settings o seed program).seed = .ok (.ofSeed seed) :=
    if_pos hseed
  unfold Settings.start
  rw [if_neg (rate_of_positive hipf seed program), hkey]
  rfl

theorem start_of_lt (h : 3584 < program.length) :
    ∃ f, Machine.start (settings o seed program) trace = .error (.fault f) := by
  have hload := start_eq_load hipf seed program hseed
  rw [State.load_of_lt h] at hload
  exact ⟨_, Machine.start_eq_error_iff.mpr hload⟩

theorem start_of_le (h : program.length ≤ 3584) :
    ∃ m, Machine.start (settings o seed program) trace = .ok m := by
  obtain ⟨s, hs, -⟩ :=
    (State.initial (.ofSeed seed) (settings o seed program).dialect).exists_load_of_le h
  have hload := start_eq_load hipf seed program hseed
  rw [hs] at hload
  exact ⟨_, Machine.start_eq_ok_iff.mpr ⟨s, hload, rfl⟩⟩

end Start

/-! ## Running the program -/

theorem ok_bind {ε α β : Type} (a : α) (f : α → Except ε β) : (Except.ok a >>= f) = f a := rfl

/-- A report that an image cannot be loaded is one line, and nothing is asked of a window. -/
def Report.SaysNotLoaded (console : Console) (o : Options) (r : Report) : Prop :=
  r.status = 1 ∧ r.effects = [] ∧ ∃ reason, r.printed =
    [Logger.host.headed console .error ("Cannot load " ++ o.rom ++ ": " ++ reason)]

theorem saysNotLoaded (o : Options) (reason : String) :
    (notLoaded console o reason).SaysNotLoaded console o := by
  have hrank : Logger.host.threshold.rank ≤ Level.error.rank := by decide
  exact ⟨rfl, rfl, reason, Logger.host.print_of_le console _ hrank⟩

theorem run_of_error {e : FileError} (h : e ≠ .nullCharacter) :
    run console room o (.error e) script mixerError = .ok (notLoaded console o e.message) := by
  cases e with
  | nullCharacter => exact absurd rfl h
  | missing | notDirectory | isDirectory | tooLong => rfl

section Image

variable (program : List UInt8) (hscale : 0 < o.scale) (hipf : ∀ n, o.ipf = some n → 0 < n)

include hipf

theorem run_of_no_seed (h : ¬HasSeed o) :
    ∃ stop, run console room o (.ok program) script mixerError = .error stop := by
  cases hgiven : o.seed with
  | nothing =>
    refine ⟨.usage (.nothingGiven .seed), ?_⟩
    simp only [run, hgiven]
    rfl
  | value seed =>
    have hlarge : ¬(-9223372036854775808 ≤ seed ∧ seed < 9223372036854775808) :=
      fun hfits => h ⟨seed, hgiven, hfits⟩
    refine ⟨.start .seed, ?_⟩
    simp only [run, hgiven, needed, ok_bind, start_of_seed hipf seed program _ hlarge]

theorem run_of_lt (h : HasSeed o) (hlength : 3584 < program.length) :
    ∃ reason, run console room o (.ok program) script mixerError =
      .ok (notLoaded console o reason) := by
  obtain ⟨seed, hgiven, hseed⟩ := h
  obtain ⟨f, hstart⟩ :=
    start_of_lt hipf seed program (if o.debug then some {} else none) hseed hlength
  refine ⟨f.message, ?_⟩
  simp only [run, hgiven, needed, ok_bind, hstart]

include hscale

theorem run_of_le {seed : Int} (hgiven : o.seed = .value seed)
    (hseed : -9223372036854775808 ≤ seed ∧ seed < 9223372036854775808)
    (hlength : program.length ≤ 3584) :
    ∃ m, Machine.start (settings o seed program) (if o.debug then some {} else none) = .ok m ∧
      (CanDrive room o → ∃ r, run console room o (.ok program) script mixerError = .ok r ∧
        r.status = if (driven console o m script).machine.halted then 1 else 0) ∧
      (¬CanDrive room o →
        ∃ stop, run console room o (.ok program) script mixerError = .error stop) := by
  obtain ⟨m, hstart⟩ :=
    start_of_le hipf seed program (if o.debug then some {} else none) hseed hlength
  refine ⟨m, hstart, fun hcan => ?_, fun hcannot => ?_⟩
  · obtain ⟨report, hdrive, hstatus⟩ :=
      drive_of_canDrive console script mixerError hcan hscale (Machine.inReach_of_start hstart)
    simp only [run, hgiven, needed, ok_bind, hstart, hdrive]
    exact ⟨_, rfl, hstatus⟩
  · obtain ⟨stop, hdrive⟩ := drive_of_not_canDrive console script mixerError hcannot hscale m
    refine ⟨stop, ?_⟩
    simp only [run, hgiven, needed, ok_bind, hstart, hdrive]
    rfl

/-- What happens to an image that can be read. -/
theorem run_of_ok :
    ((∃ r, run console room o (.ok program) script mixerError = .ok r) ↔
        Reports room o (.ok program)) ∧
      ∀ r, run console room o (.ok program) script mixerError = .ok r →
        (3584 < program.length → r.SaysNotLoaded console o) ∧
        (program.length ≤ 3584 → ∃ seed m, o.seed = .value seed ∧
          Machine.start (settings o seed program) (if o.debug then some {} else none) = .ok m ∧
          r.status = if (driven console o m script).machine.halted then 1 else 0) := by
  by_cases hasSeed : HasSeed o
  · rcases Nat.lt_or_ge 3584 program.length with hlong | hshort
    · obtain ⟨reason, hrun⟩ := run_of_lt console script mixerError program hipf hasSeed hlong
      refine ⟨⟨fun _ => ⟨hasSeed, fun hle => absurd hlong (Nat.not_lt.mpr hle)⟩,
        fun _ => ⟨_, hrun⟩⟩, fun r hr => ⟨fun _ => ?_, fun hle => ?_⟩⟩
      · obtain rfl := Except.ok.inj (hrun.symm.trans hr)
        exact saysNotLoaded console o reason
      · exact absurd hlong (Nat.not_lt.mpr hle)
    · obtain ⟨seed, hgiven, hseed⟩ := hasSeed
      obtain ⟨m, hstart, hruns, hstops⟩ :=
        run_of_le console script mixerError program hscale hipf hgiven hseed hshort
      by_cases hcan : CanDrive room o
      · obtain ⟨r, hrun, hstatus⟩ := hruns hcan
        refine ⟨⟨fun _ => ⟨⟨seed, hgiven, hseed⟩, fun _ => hcan⟩, fun _ => ⟨r, hrun⟩⟩,
          fun r' hr => ⟨fun hlt => absurd hlt (Nat.not_lt.mpr hshort), fun _ => ?_⟩⟩
        rw [← Except.ok.inj (hrun.symm.trans hr)]
        exact ⟨seed, m, hgiven, hstart, hstatus⟩
      · obtain ⟨stop, hrun⟩ := hstops hcan
        rw [hrun]
        exact ⟨⟨nofun, fun h => absurd (h.2 hshort) hcan⟩, nofun⟩
  · obtain ⟨stop, hrun⟩ := run_of_no_seed console script mixerError program hipf hasSeed
    rw [hrun]
    exact ⟨⟨nofun, fun h => absurd h.1 hasSeed⟩, nofun⟩

end Image

/-- What happens to any image. -/
theorem run_ends (hscale : 0 < o.scale) (hipf : ∀ n, o.ipf = some n → 0 < n)
    (image : Except FileError (List UInt8)) :
    let ends := run console room o image script mixerError
    ((∃ r, ends = .ok r) ↔ Reports room o image) ∧
    ∀ r, ends = .ok r →
      (∀ e, image = .error e → r.SaysNotLoaded console o) ∧
      ∀ program, image = .ok program →
        (3584 < program.length → r.SaysNotLoaded console o) ∧
        (program.length ≤ 3584 → ∃ seed m, o.seed = .value seed ∧
          Machine.start (settings o seed program) (if o.debug then some {} else none) = .ok m ∧
          r.status = if (driven console o m script).machine.halted then 1 else 0) := by
  cases image with
  | error e =>
    by_cases hpath : e = .nullCharacter
    · subst hpath
      exact ⟨⟨nofun, fun h => absurd rfl h⟩, nofun⟩
    · have hrun : run console room o (.error e) script mixerError =
          .ok (notLoaded console o e.message) := run_of_error console script mixerError hpath
      refine ⟨⟨fun _ => hpath, fun _ => ⟨_, hrun⟩⟩, fun r hr => ⟨fun _ _ => ?_, nofun⟩⟩
      obtain rfl := Except.ok.inj (hrun.symm.trans hr)
      exact saysNotLoaded console o e.message
  | ok program =>
    obtain ⟨hiff, hends⟩ := run_of_ok console script mixerError program hscale hipf
    refine ⟨hiff, fun r hr => ⟨nofun, fun program' hsame => ?_⟩⟩
    obtain rfl := Except.ok.inj hsame
    exact hends r hr

/-- **How the program ends.**

Arguments that are wrong end it with the exit status 2.  Otherwise it comes to an end of its own
exactly if `Reports` holds.  It then has one line to say of an image that cannot be read or is
longer than 3584 bytes, asks nothing of a window, and ends with the exit status 1; and with any
other image a machine is started and run, and the exit status is 1 exactly if that ends halted.

A value is missing by the earlier convention only. -/
theorem invoke_ends (convention : Convention) (room : Room Enlargement) (folder : Folder)
    (arguments : List String) :
    let ends := invoke console convention room folder arguments script mixerError
    (∀ e, Options.parse convention arguments = .error (.wrong e) →
      ends = .error (.usage (.wrong e)) ∧ (Stop.usage (.wrong e)).status = 2) ∧
    (∀ f, Options.parse convention arguments = .error (.nothingGiven f) →
      convention = .earlier ∧ ends = .error (.usage (.nothingGiven f))) ∧
    ∀ o, Options.parse convention arguments = .ok o →
      (convention = .later → o.Filled) ∧
      ((∃ r, ends = .ok r) ↔ Reports room o (folder.read o.rom)) ∧
      ∀ r, ends = .ok r →
        (∀ e, folder.read o.rom = .error e → r.SaysNotLoaded console o) ∧
        ∀ program, folder.read o.rom = .ok program →
          (3584 < program.length → r.SaysNotLoaded console o) ∧
          (program.length ≤ 3584 → ∃ seed m, o.seed = .value seed ∧
            Machine.start (settings o seed program) (if o.debug then some {} else none) = .ok m ∧
            r.status = if (driven console o m script).machine.halted then 1 else 0) := by
  intro ends
  have hlater := Options.parse_later arguments
  refine ⟨fun e he => ⟨?_, rfl⟩, fun f hf => ?_, fun o ho => ?_⟩
  · show invoke console convention room folder arguments script mixerError = _
    rw [invoke, he]
    rfl
  · refine ⟨?_, ?_⟩
    · cases convention with
      | earlier => rfl
      | later =>
        rw [hf] at hlater
        exact absurd rfl (hlater f)
    · show invoke console convention room folder arguments script mixerError = _
      rw [invoke, hf]
      rfl
  · refine ⟨?_, ?_⟩
    · rintro rfl
      rwa [ho] at hlater
    · have hinvoke : ends = run console room o (folder.read o.rom) script mixerError := by
        show invoke console convention room folder arguments script mixerError = _
        rw [invoke, ho]
        rfl
      obtain ⟨hscale, hipf⟩ := Options.parse_positive ho
      rw [hinvoke]
      exact run_ends console script mixerError hscale hipf (folder.read o.rom)

/-- A seed of two to the 63 is taken from the command line, and then ends the program. -/
theorem invoke_fails_on_large_seed :
    let folder : Folder := ⟨[("rom.ch8", [0x12, 0x00])]⟩
    let arguments := ["rom.ch8", "--seed", "9223372036854775808", "--headless", "1"]
    ∀ convention,
      (∃ o, Options.parse convention arguments = .ok o ∧ folder.read o.rom = .ok [0x12, 0x00]) ∧
      invoke {} convention .counted folder arguments [] none = .error (.start .seed) := by
  intro folder arguments convention
  obtain ⟨o, ho⟩ : ∃ o : Options, o = {
      rom := "rom.ch8"
      debug := false
      scale := 10
      noAudio := false
      ipf := none
      modern := false
      colors := .value .classic
      headless := some (.value 1)
      seed := .value 9223372036854775808 } := ⟨_, rfl⟩
  have hparse : Options.parse convention arguments = .ok o := by
    rw [ho]
    cases convention with
    | earlier => decide +kernel
    | later => decide +kernel
  have hsteps : "rom.ch8".splitOn "/" = ["rom.ch8"] := by
    rw [String.splitOn, if_neg (by decide)]
    repeat rw [String.splitOnAux, if_neg (by decide), if_neg (by decide)]
    rw [String.splitOnAux, if_pos (by decide)]
    decide +kernel
  have hread : folder.read o.rom = .ok [0x12, 0x00] := by
    rw [ho]
    simp only [Folder.read, Folder.steps, hsteps]
    decide +kernel
  refine ⟨⟨o, hparse, hread⟩, ?_⟩
  rw [invoke, hparse]
  show run {} .counted o (folder.read o.rom) [] none = _
  rw [hread, ho]
  rfl

end CommandLine

end ChipEight
