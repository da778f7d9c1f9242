import ChipEight.CallStack

/-! # The pending calls of a stack

A tidy stack is no more than the list of its pending calls, the oldest first: `push` puts one at
the end of the list (`Tidy.push_calls`), `pop` takes it from there (`Tidy.pop_calls`), and two
tidy stacks with the same list are equal, free entries included (`Tidy.eq_of_calls`).  Every list
that fits is the list of a tidy stack (`tidy_ofEntries`, `calls_ofEntries`).
-/
namespace ChipEight

namespace CallStack

variable {capacity : Nat}

/-- The addresses of the pending calls, the oldest first. -/
def calls (s : CallStack capacity) : List UInt16 := s.entries.toList.take s.pointer.toNat

/-- The twelve bits that a push keeps of an address. -/
def kept (address : Int) : UInt16 := UInt16.ofNat (address % 4096).toNat

variable {s t : CallStack capacity}

theorem intCast_toNat_kept (address : Int) : ((kept address).toNat : Int) = address % 4096 := by
  rw [kept, UInt16.toNat_ofNat']
  omega

theorem toNat_kept (a : Nat) : (kept a).toNat = a % 4096 := by
  have h := intCast_toNat_kept a
  omega

theorem kept_lt (address : Int) : (kept address).toNat < 4096 := by
  have h := intCast_toNat_kept address
  omega

theorem Tidy.length_calls (hs : s.Tidy) : (s.calls.length : Int) = s.depth := by
  have hn := hs.nonneg
  have hc := hs.le_capacity
  rw [calls, List.length_take, Vector.length_toList, depth]
  omega

theorem getElem?_calls (s : CallStack capacity) {i : Nat} (hi : i < capacity)
    (hp : i < s.pointer.toNat) : s.calls[i]? = some s.entries[i] := by
  rw [calls, List.getElem?_take_of_lt hp]
  simp [hi]

/-- Push puts a call at the end. -/
theorem Tidy.push_calls (hs : s.Tidy) {address : Int} (h : s.push address = .ok t) :
    t.calls = s.calls ++ [kept address] := by
  have hn := hs.nonneg
  obtain ⟨hlt, -⟩ := push_pointer h
  rw [push_of_lt hn hlt] at h
  obtain rfl := Except.ok.inj h
  have htop : (s.pointer + 1).toNat = s.pointer.toNat + 1 := by omega
  have hlen : s.pointer.toNat < s.entries.toList.length := by
    rw [Vector.length_toList]
    omega
  simp only [calls, htop, Vector.toList_setIfInBounds]
  rw [List.take_add_one, List.take_set_of_le (Nat.le_refl _), List.getElem?_set_self hlen]
  rfl

/-- Pop takes a call from the end. -/
theorem Tidy.pop_calls (hs : s.Tidy) {a : UInt16} (h : s.pop = .ok (t, a)) :
    s.calls = t.calls ++ [a] := by
  have hc := hs.le_capacity
  obtain ⟨hpos, -⟩ := pop_pointer h
  rw [pop_of_pos hpos hc] at h
  obtain ⟨rfl, rfl⟩ := Prod.mk.inj (Except.ok.inj h)
  obtain ⟨n, hn⟩ : ∃ n, s.pointer.toNat = n + 1 := ⟨s.pointer.toNat - 1, by omega⟩
  have htop : (s.pointer - 1).toNat = n := by omega
  have hlt : n < capacity := by omega
  simp only [calls, htop, hn, Vector.toList_setIfInBounds, getD_of_lt _ hlt]
  rw [List.take_add_one, List.take_set_of_le (Nat.le_refl _)]
  simp [hlt]

/-- Nothing else of a tidy stack matters. -/
theorem Tidy.eq_of_calls (hs : s.Tidy) (ht : t.Tidy) (h : s.calls = t.calls) : s = t := by
  have hp : s.pointer = t.pointer := by
    show s.depth = t.depth
    rw [← hs.length_calls, ← ht.length_calls, h]
  have hentries : s.entries = t.entries := by
    refine Vector.ext fun i hi => ?_
    by_cases hlt : i < s.pointer.toNat
    · have hget := s.getElem?_calls hi hlt
      rw [h, t.getElem?_calls hi (hp ▸ hlt)] at hget
      exact (Option.some.inj hget).symm
    · have hn := hs.nonneg
      rw [hs.free i hi (by omega), ht.free i hi (by omega)]
  cases s
  cases t
  congr

/-! ## Stacks that hold a list -/

theorem getElem_ofEntries (l : List UInt16) {i : Nat} (hi : i < capacity) :
    (ofEntries capacity l).entries[i] = if h : i < l.length then l[i] else 0 := by
  simp only [ofEntries, Vector.getElem_ofFn, List.getD_eq_getElem?_getD]
  split
  · rename_i hlt
    rw [List.getElem?_eq_getElem hlt, Option.getD_some]
  · rename_i hle
    rw [List.getElem?_eq_none (Nat.not_lt.mp hle), Option.getD_none]

theorem tidy_ofEntries {l : List UInt16} (hlength : l.length ≤ capacity)
    (hlt : ∀ a ∈ l, a.toNat < 4096) : (ofEntries capacity l).Tidy where
  nonneg := Int.natCast_nonneg l.length
  le_capacity := Int.ofNat_le.mpr hlength
  lt_entry i hi := by
    rw [getElem_ofEntries l hi]
    split
    · exact hlt _ (List.getElem_mem _)
    · decide
  free i hi hfree := by
    rw [getElem_ofEntries l hi, dif_neg (Nat.not_lt.mpr (Int.ofNat_le.mp hfree))]

theorem calls_ofEntries {l : List UInt16} (hlength : l.length ≤ capacity) :
    (ofEntries capacity l).calls = l := by
  have hp : (ofEntries capacity l).pointer.toNat = l.length := Int.toNat_natCast l.length
  refine List.ext_getElem? fun i => ?_
  by_cases hi : i < l.length
  · rw [getElem?_calls _ (Nat.lt_of_lt_of_le hi hlength) (hp ▸ hi), getElem_ofEntries l _,
      dif_pos hi, List.getElem?_eq_getElem hi]
  · rw [List.getElem?_eq_none (Nat.not_lt.mp hi), List.getElem?_eq_none]
    rw [calls, List.length_take, hp]
    omega

end CallStack

end ChipEight
