import ChipEight.Options

/-! # What the options of a command line can be

The numbers of options that have been read are positive (`Options.parse_positive`).  And by the
later convention a flag that is there has a value: every value that a `Draft` is given is one
(`Draft.set_later`), and so arguments never leave one out (`Options.parse_later`).

`NoneMissing` is what is kept from one step of the reading to the next, whether it goes on or stops.
-/
namespace ChipEight

/-! ## Numbers -/

namespace Draft

theorem positive_eq_ok_iff {f : Flag} {given : Given Int} {v : Int} :
    positive f given = .ok v ↔ given = .value v ∧ 0 < v := by
  cases given with
  | nothing => simp [positive]
  | value u =>
    by_cases hu : u ≤ 0
    · simp only [positive, if_pos hu]
      constructor
      · nofun
      · rintro ⟨h, hv⟩
        obtain rfl := Given.value.inj h
        exact absurd hu (Int.not_le.mpr hv)
    · simp only [positive, if_neg hu]
      constructor
      · intro h
        obtain rfl := Except.ok.inj h
        exact ⟨rfl, Int.not_le.mp hu⟩
      · rintro ⟨h, -⟩
        rw [Given.value.inj h]

/-- The numbers of options are positive. -/
theorem finish_positive {d : Draft} {o : Options} (h : d.finish = .ok o) :
    0 < o.scale ∧ ∀ n, o.ipf = some n → 0 < n := by
  unfold finish at h
  split at h
  · cases h
  · split at h
    · cases h
    · cases hscale : positive .scale d.scale with
      | error e =>
        rw [hscale] at h
        cases h
      | ok scale =>
        rw [hscale] at h
        obtain ⟨-, hpos⟩ := positive_eq_ok_iff.mp hscale
        cases hipf : d.ipf with
        | none =>
          rw [hipf] at h
          obtain rfl := Except.ok.inj h
          exact ⟨hpos, nofun⟩
        | some given =>
          rw [hipf, Option.mapM_some] at h
          cases hn : positive .ipf given with
          | error e =>
            rw [hn] at h
            cases h
          | ok n =>
            rw [hn] at h
            obtain rfl := Except.ok.inj h
            refine ⟨hpos, fun n' hn' => ?_⟩
            rw [← Option.some.inj hn']
            exact (positive_eq_ok_iff.mp hn).2

end Draft

/-- **The numbers of options are positive.** -/
theorem Options.parse_positive {convention : Convention} {arguments : List String} {o : Options}
    (h : Options.parse convention arguments = .ok o) :
    0 < o.scale ∧ ∀ n, o.ipf = some n → 0 < n := by
  unfold Options.parse at h
  cases hpieces : Piece.ofTexts convention arguments with
  | error e =>
    rw [hpieces] at h
    cases h
  | ok pieces =>
    rw [hpieces] at h
    have hrest : (Draft.take convention {} pieces >>= Draft.finish) = .ok o := h
    cases hdraft : Draft.take convention {} pieces with
    | error e =>
      rw [hdraft] at hrest
      cases hrest
    | ok d =>
      rw [hdraft] at hrest
      exact Draft.finish_positive hrest

/-! ## Readings in which no value is missing -/

/-- A reading that has a result with some property, or stops for another reason than that a value is
missing. -/
def NoneMissing {α : Type} (P : α → Prop) : Except UsageStop α → Prop
  | .ok a => P a
  | .error stop => ∀ f, stop ≠ .nothingGiven f

namespace NoneMissing

variable {α β : Type} {P : α → Prop} {Q : β → Prop} {x : Except UsageStop α}

theorem wrong (e : UsageError) : NoneMissing P (.error (.wrong e)) := nofun

theorem bind {f : α → Except UsageStop β} (h : NoneMissing P x)
    (hf : ∀ a, P a → NoneMissing Q (f a)) : NoneMissing Q (x >>= f) := by
  cases x with
  | error stop => exact h
  | ok a => exact hf a h

theorem map {f : α → β} (h : NoneMissing P x) (hf : ∀ a, P a → Q (f a)) :
    NoneMissing Q (x.map f) := by
  cases x with
  | error stop => exact h
  | ok a => exact hf a h

theorem foldlM {step : α → β → Except UsageStop α}
    (hstep : ∀ a b, P a → NoneMissing P (step a b)) (bs : List β) {a : α} (h : P a) :
    NoneMissing P (bs.foldlM step a) := by
  induction bs generalizing a with
  | nil => exact h
  | cons b bs ih =>
    rw [List.foldlM_cons]
    exact (hstep a b h).bind fun a' h' => ih h'

end NoneMissing

/-! ## Values by the later convention -/

/-- Whatever has been given is a value. -/
structure Options.Filled (o : Options) : Prop where
  colors : o.colors ≠ .nothing
  headless : o.headless ≠ some .nothing
  seed : o.seed ≠ .nothing

namespace Draft

/-- Whatever has been given so far is a value. -/
structure Filled (d : Draft) : Prop where
  scale : d.scale ≠ .nothing
  ipf : d.ipf ≠ some .nothing
  colors : d.colors ≠ .nothing
  headless : d.headless ≠ some .nothing
  seed : d.seed ≠ .nothing

variable {d : Draft}

theorem filled_empty : Filled {} where
  scale := nofun
  ipf := nofun
  colors := nofun
  headless := nofun
  seed := nofun

theorem Filled.leave (h : d.Filled) (text : String) : (d.leave text).Filled := { h with }

theorem Filled.plain (h : d.Filled) (text : String) (asWritten : List String) :
    (d.plain text asWritten).Filled := by
  unfold Draft.plain
  cases d.rom with
  | none => exact { h with }
  | some _ => exact { h with }

/-- By the later convention two hyphens are text as any other. -/
theorem readValue_later {α : Type} (read? : String → Option α) (e : UsageError) (text : String) :
    NoneMissing (· ≠ .nothing) (readValue .later read? e text) := by
  rw [readValue, if_neg fun h => nomatch h.1]
  cases read? text with
  | none => exact .wrong e
  | some v => exact nofun

theorem set_later (h : d.Filled) (f : Flag) (text : String) :
    NoneMissing Filled (d.set .later f text) := by
  cases f with
  | help => exact nofun
  | debug | noAudio | modern => exact { h with }
  | scale => exact (readValue_later ..).map fun v hv => { h with scale := hv }
  | ipf =>
    exact (readValue_later ..).map fun v hv => { h with ipf := fun heq => hv (Option.some.inj heq) }
  | colors => exact (readValue_later ..).map fun v hv => { h with colors := hv }
  | headless =>
    exact (readValue_later ..).map fun v hv =>
      { h with headless := fun heq => hv (Option.some.inj heq) }
  | seed => exact (readValue_later ..).map fun v hv => { h with seed := hv }

theorem apply_later (h : d.Filled) (b : Bundle) (text : String) :
    NoneMissing Filled (d.apply .later b text) := by
  have hready : ((b.leftover.map d.leave).getD d).Filled := by
    cases b.leftover with
    | none => exact h
    | some left => exact h.leave left
  exact (NoneMissing.foldlM (fun _ f h => set_later h f "") b.before hready).bind
    fun _ h => set_later h b.last text

theorem take_later (h : d.Filled) (pieces : List Piece) :
    NoneMissing Filled (d.take .later pieces) := by
  fun_induction Draft.take Convention.later d pieces with
  | case1 d => exact h
  | case2 d text rest ih => exact ih (h.plain ..)
  | case3 d text rest _ ih => exact ih (h.plain ..)
  | case4 d text rest ih => exact ih (h.plain ..)
  | case5 d rest _ ih => exact ih (h.leave ..)
  | case6 d text rest ih => exact ih (h.leave ..)
  | case7 d f attached rest e _ => exact .wrong e
  | case8 d f attached b _ _ text rest ih => exact (apply_later h b text).bind ih
  | case9 d f attached rest b _ _ _ => exact .wrong _
  | case10 d f attached rest b _ _ ih => exact (apply_later h b _).bind ih

theorem positive_noneMissing {given : Given Int} (h : given ≠ .nothing) (f : Flag) :
    NoneMissing (fun _ => True) (positive f given) := by
  cases given with
  | nothing => exact absurd rfl h
  | value v =>
    rw [positive]
    split
    · exact .wrong _
    · trivial

theorem finish_noneMissing (h : d.Filled) : NoneMissing Options.Filled d.finish := by
  have hipf : NoneMissing (fun _ => True) (d.ipf.mapM (positive .ipf)) := by
    cases hgiven : d.ipf with
    | none => trivial
    | some given =>
      refine (positive_noneMissing ?_ .ipf).map fun _ _ => trivial
      rintro rfl
      exact h.ipf hgiven
  unfold finish
  split
  · exact .wrong _
  · split
    · exact .wrong _
    · exact (positive_noneMissing h.scale .scale).bind fun _ _ => hipf.bind fun _ _ =>
        { colors := h.colors, headless := h.headless, seed := h.seed }

end Draft

/-- **By the later convention no value is ever missing.** -/
theorem Options.parse_later (arguments : List String) :
    NoneMissing Options.Filled (Options.parse .later arguments) := by
  unfold Options.parse
  cases Piece.ofTexts .later arguments with
  | error e => exact .wrong e
  | ok pieces =>
    exact (Draft.take_later Draft.filled_empty pieces).bind fun d h => d.finish_noneMissing h

end ChipEight
