import ChipEight.Text.Lengths
import ChipEight.Word

/-! # The keypad

Sixteen keys, one for each hexadecimal digit.  A `Keypad` says which of them are down, and
`Keypad.released?` finds the lowest one released between two moments
(`Keypad.released?_eq_some_iff`).

What a host hands over may be any nesting of truth values, a `KeyVector`; it is a
keypad only if it is one flat row of sixteen, and the refusal of any other names its
**shape**: the lengths of the nested rows, from the outermost in, as far as they agree.
-/
namespace ChipEight

/-- Which keys are down. -/
abbrev Keypad := Vector Bool 16

namespace Keypad

/-- Every key is up. -/
def allUp : Keypad := Vector.replicate 16 false

/-- The keypad with exactly these keys down. -/
def ofKeys (keys : List Nat) : Keypad := Vector.ofFn fun k => keys.contains k.val

/-- The keys that are down, in ascending order. -/
def down (p : Keypad) : List (Fin 16) := (List.finRange 16).filter p.get

/-- The lowest key released between two moments: down before and up now. -/
def released? (before now : Keypad) : Option (Fin 16) :=
  (List.finRange 16).find? fun k => before.get k && !now.get k

/-- The key released is the lowest of those that were down and are up. -/
theorem released?_eq_some_iff {before now : Keypad} {k : Fin 16} :
    released? before now = some k ↔
      (before.get k && !now.get k) = true ∧ ∀ j < k, (before.get j && !now.get j) = false := by
  rw [released?, List.find?_eq_some_iff_getElem]
  constructor
  · rintro ⟨hk, i, hi, rfl, hmin⟩
    refine ⟨hk, fun j hj => ?_⟩
    have h := hmin j.val (by simpa [Fin.lt_def] using hj)
    rw [List.getElem_finRange] at h
    exact (Bool.not_eq_true' _).mp h
  · rintro ⟨hk, hmin⟩
    refine ⟨hk, k.val, by simp, by simp, fun j hj => ?_⟩
    rw [List.getElem_finRange]
    exact (Bool.not_eq_true' _).mpr (hmin ⟨j, by omega⟩ hj)

theorem released?_eq_none_iff {before now : Keypad} :
    released? before now = none ↔ ∀ k : Fin 16, (before.get k && !now.get k) = false := by
  simp [released?]

end Keypad

/-- Key states as a host hands them over: one truth value, or a row of further key
vectors. -/
inductive KeyVector where
  /-- The state of one key. -/
  | key (isDown : Bool)
  /-- A key without a state. -/
  | unknown
  /-- Several key vectors in a row. -/
  | row (entries : List KeyVector)
  deriving Inhabited

/-! ## Shapes -/

/-- What the entries of nested rows have in common. -/
@[ext] structure Shape where
  /-- The lengths of the rows, from the outermost in, as far as they agree. -/
  lengths : List Nat
  /-- Whether they agree everywhere. -/
  regular : Bool
  deriving DecidableEq, Repr

namespace Shape

/-- What two lists begin with. -/
def commonPart : List Nat → List Nat → List Nat
  | m :: ms, n :: ns => if m = n then m :: commonPart ms ns else []
  | _, _ => []

/-- What has no rows in it. -/
def single : Shape := ⟨[], true⟩

/-- The shape of a row with entries of these shapes.  A row without entries has a length of
zero. -/
def ofEntries : List Shape → Shape
  | [] => ⟨[0], true⟩
  | s :: ss => {
      lengths := (ss.length + 1) :: (ss.map lengths).foldl commonPart s.lengths
      regular := s.regular && ss.all fun t => t.regular && t.lengths == s.lengths }

theorem commonPart_self (ms : List Nat) : commonPart ms ms = ms := by
  induction ms with
  | nil => rfl
  | cons m ms ih => rw [commonPart, if_pos rfl, ih]

theorem foldl_commonPart_self {ls : List (List Nat)} {ms : List Nat} (h : ∀ l ∈ ls, l = ms) :
    ls.foldl commonPart ms = ms := by
  induction ls with
  | nil => rfl
  | cons l ls ih =>
    obtain ⟨rfl, hrest⟩ := List.forall_mem_cons.mp h
    rw [List.foldl_cons, commonPart_self]
    exact ih hrest

theorem foldl_commonPart_nil (ls : List (List Nat)) : ls.foldl commonPart [] = [] := by
  induction ls with
  | nil => rfl
  | cons l ls ih => simpa [commonPart] using ih

/-- Entries without rows make a shape of one length. -/
theorem ofEntries_replicate (n : Nat) : ofEntries (List.replicate n single) = ⟨[n], true⟩ := by
  cases n with
  | zero => rfl
  | succ n => simp [List.replicate_succ, ofEntries, single, foldl_commonPart_nil]

/-- No others do. -/
theorem eq_replicate_of_ofEntries {ss : List Shape} {n : Nat} (h : ofEntries ss = ⟨[n], true⟩) :
    ss = List.replicate n single := by
  cases ss with
  | nil =>
    obtain rfl : 0 = n := (List.cons.inj (congrArg lengths h)).1
    rfl
  | cons s ss =>
    have hregular : (s.regular && ss.all fun t => t.regular && t.lengths == s.lengths) = true :=
      congrArg regular h
    simp only [Bool.and_eq_true, List.all_eq_true, beq_iff_eq] at hregular
    obtain ⟨hs, hss⟩ := hregular
    have hagree : (ss.map lengths).foldl commonPart s.lengths = s.lengths :=
      foldl_commonPart_self fun l hl => by
        obtain ⟨t, ht, rfl⟩ := List.mem_map.mp hl
        exact (hss t ht).2
    have hlengths : (ss.length + 1) :: (ss.map lengths).foldl commonPart s.lengths = [n] :=
      congrArg lengths h
    rw [hagree] at hlengths
    obtain ⟨hn, hnil⟩ := List.cons.inj hlengths
    refine List.eq_replicate_of_mem ?_ |>.trans (congrArg (List.replicate · single) hn)
    refine List.forall_mem_cons.mpr ⟨?_, fun t ht => ?_⟩
    · exact Shape.ext hnil hs
    · exact Shape.ext ((hss t ht).2.trans hnil) (hss t ht).1

end Shape

namespace KeyVector

/-- The depth to which rows can be nested. -/
def maxDepth : Nat := 64

mutual

/-- The shape of a key vector, with rows allowed to a further depth.  A row below that stands
for no more than one key, and not for a regular one. -/
def shapeWithin (depth : Nat) : KeyVector → Shape
  | key _ | unknown => .single
  | row es =>
    match depth with
    | 0 => ⟨[], false⟩
    | depth + 1 => .ofEntries (shapesWithin depth es)

/-- The shapes of several key vectors. -/
def shapesWithin (depth : Nat) : List KeyVector → List Shape
  | [] => []
  | v :: vs => shapeWithin depth v :: shapesWithin depth vs

end

/-- The shape of a key vector. -/
def shape (v : KeyVector) : Shape := v.shapeWithin maxDepth

theorem shapesWithin_keys (depth : Nat) (bs : List Bool) :
    shapesWithin depth (bs.map key) = List.replicate bs.length .single := by
  induction bs with
  | nil => rw [List.map_nil, shapesWithin]; rfl
  | cons b bs ih =>
    rw [List.map_cons, shapesWithin, ih, shapeWithin]
    rfl

/-- A single key has no rows in it, and nothing else that is known has none. -/
theorem exists_key_of_shapeWithin {depth : Nat} {v : KeyVector}
    (h : shapeWithin depth v = .single) : v = unknown ∨ ∃ b, v = key b := by
  cases v with
  | key b => exact Or.inr ⟨b, rfl⟩
  | unknown => exact Or.inl rfl
  | row es =>
    exfalso
    cases depth with
    | zero =>
      rw [shapeWithin] at h
      exact Bool.false_ne_true (congrArg Shape.regular h)
    | succ depth =>
      rw [shapeWithin] at h
      cases hss : shapesWithin depth es with
      | nil =>
        rw [hss] at h
        cases h
      | cons s ss =>
        rw [hss] at h
        cases h

/-- The shape of a row of keys is its length. -/
theorem shape_row_keys (bs : List Bool) : (row (bs.map key)).shape = ⟨[bs.length], true⟩ := by
  rw [shape, maxDepth, shapeWithin, shapesWithin_keys, Shape.ofEntries_replicate]

/-! ## Keypads -/

mutual

/-- Whether the state of every key is known. -/
def isKnown : KeyVector → Bool
  | key _ => true
  | unknown => false
  | row es => allKnown es

/-- Whether the state of every key in several key vectors is known. -/
def allKnown : List KeyVector → Bool
  | [] => true
  | v :: vs => isKnown v && allKnown vs

end

theorem allKnown_keys (bs : List Bool) : allKnown (bs.map key) = true := by
  induction bs with
  | nil => rw [List.map_nil, allKnown]
  | cons b bs ih => rw [List.map_cons, allKnown, isKnown, ih]; rfl

/-- A row of single entries, all of them known, is a row of keys. -/
theorem exists_keys {depth n : Nat} {es : List KeyVector}
    (h : shapesWithin depth es = List.replicate n .single) (hknown : allKnown es = true) :
    ∃ bs : List Bool, bs.length = n ∧ es = bs.map key := by
  induction es generalizing n with
  | nil =>
    rw [shapesWithin] at h
    have hn : 0 = n := by simpa using congrArg List.length h
    exact ⟨[], hn, rfl⟩
  | cons e es ih =>
    rw [shapesWithin] at h
    rw [allKnown, Bool.and_eq_true] at hknown
    cases n with
    | zero => cases h
    | succ n =>
      rw [List.replicate_succ] at h
      obtain ⟨he, hes⟩ := List.cons.inj h
      obtain ⟨bs, rfl, rfl⟩ := ih hes hknown.2
      rcases exists_key_of_shapeWithin he with rfl | ⟨b, rfl⟩
      · rw [isKnown] at hknown
        exact absurd hknown.1 Bool.false_ne_true
      · exact ⟨b :: bs, rfl, rfl⟩

/-- The shape of a row tells that it is one of keys, if they are known. -/
theorem exists_row_of_shape {v : KeyVector} {n : Nat} (h : v.shape = ⟨[n], true⟩)
    (hknown : v.isKnown = true) : ∃ bs : List Bool, bs.length = n ∧ v = row (bs.map key) := by
  cases v with
  | key b =>
    rw [shape, shapeWithin] at h
    cases h
  | unknown =>
    rw [shape, shapeWithin] at h
    cases h
  | row es =>
    rw [shape, maxDepth, shapeWithin] at h
    rw [isKnown] at hknown
    obtain ⟨bs, hlen, rfl⟩ := exists_keys (Shape.eq_replicate_of_ofEntries h) hknown
    exact ⟨bs, hlen, rfl⟩

/-- Why a key vector is not a keypad. -/
inductive Refusal where
  /-- It has a key without a state. -/
  | unknown
  /-- It has another shape than one row of sixteen. -/
  | shape (lengths : List Nat)
  /-- Its rows differ in length below the depths named. -/
  | ragged (lengths : List Nat)
  /-- Its rows are nested too deep. -/
  | deep
  deriving DecidableEq, Repr

/-- The sentence for a refusal. -/
def Refusal.message : Refusal → String
  | .unknown => "a key has no state"
  | .shape ls =>
    "Expected a key vector of shape " ++ Text.lengths [16] ++ ", got " ++ Text.lengths ls
  | .ragged ls =>
    "setting an array element with a sequence. The requested array has an inhomogeneous shape "
      ++ "after " ++ toString ls.length ++ " dimensions. The detected shape was "
      ++ Text.lengths ls ++ " + inhomogeneous part."
  | .deep =>
    "setting an array element with a sequence. The requested array would exceed the maximum "
      ++ "number of dimension of " ++ toString maxDepth ++ "."

/-- The state of an entry that is a single key; any other counts as up. -/
def isDown : KeyVector → Bool
  | key b => b
  | unknown | row _ => false

/-- The row of a keypad. -/
def ofKeypad (p : Keypad) : KeyVector := row (p.toList.map key)

/-- The keypad a key vector describes, if it is one row of sixteen keys.  Keys without a
state are refused first, then rows that disagree, and then any other shape. -/
def toKeypad (v : KeyVector) : Except Refusal Keypad :=
  let s := v.shape
  if !v.isKnown then .error .unknown
  else if !s.regular then
    .error (if s.lengths.length = maxDepth then .deep else .ragged s.lengths)
  else
    match v, s.lengths with
    | row es, [n] =>
      if n = 16 then .ok (Vector.ofFn fun k => (es.map isDown).getD k false)
      else .error (.shape [n])
    | _, ls => .error (.shape ls)

/-- A row of sixteen keys is a keypad. -/
theorem toKeypad_row_keys {bs : List Bool} (h : bs.length = 16) :
    (row (bs.map key)).toKeypad = .ok (Vector.ofFn fun k => bs.getD k false) := by
  have hknown : (row (bs.map key)).isKnown = true := by rw [isKnown, allKnown_keys]
  have hdown : isDown ∘ key = id := rfl
  simp [toKeypad, hknown, shape_row_keys, h, hdown]

/-- What a keypad is handed over as describes it again. -/
theorem toKeypad_ofKeypad (p : Keypad) : (ofKeypad p).toKeypad = .ok p := by
  rw [ofKeypad, toKeypad_row_keys (by simp)]
  congr 1
  ext i hi
  simp

theorem known_flat_of_toKeypad {v : KeyVector} {p : Keypad} (h : v.toKeypad = .ok p) :
    v.isKnown = true ∧ v.shape = ⟨[16], true⟩ := by
  unfold toKeypad at h
  by_cases hknown : v.isKnown = true
  · by_cases hregular : v.shape.regular = true
    · simp only [hknown, hregular, Bool.not_true, Bool.false_eq_true, if_false] at h
      split at h
      · rename_i n hlengths
        split at h
        · rename_i hn
          subst hn
          exact ⟨hknown, Shape.ext hlengths hregular⟩
        · cases h
      · cases h
    · simp only [hknown, hregular, Bool.not_true, Bool.not_false, Bool.false_eq_true, if_false,
        if_true] at h
      cases h
  · simp only [hknown, Bool.not_false, if_true] at h
    cases h

/-- **The key vectors that are keypads**: one row of sixteen keys, each with a state. -/
theorem toKeypad_eq_ok_iff {v : KeyVector} {p : Keypad} : v.toKeypad = .ok p ↔ v = ofKeypad p := by
  constructor
  · intro h
    obtain ⟨hknown, hshape⟩ := known_flat_of_toKeypad h
    obtain ⟨bs, hbs, rfl⟩ := exists_row_of_shape hshape hknown
    rw [toKeypad_row_keys hbs] at h
    obtain rfl := Except.ok.inj h
    rw [ofKeypad]
    congr 2
    refine List.ext_getElem (by simp [hbs]) fun i hi _ => ?_
    simp [hi]
  · rintro rfl
    exact toKeypad_ofKeypad p

end KeyVector

end ChipEight
