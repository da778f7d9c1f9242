import ChipEight.Proofs.StackContents

/-! # The stack as a bounded list

To its callers a stack is a list that has only so much room.  `Pending` is that list: it takes an
address as long as there is room for one, and gives back the last.  `Pending.toStack` lays it out
in the entries of a stack, where a push and a pop do just what they do to the list
(`toStack_push`, `toStack_pop`).

The list and the stack are both a `Keeper` of addresses, and `Keeper.serve` answers any number of
uses of one; a use that is refused leaves everything as it was.  If one keeper `Represents` another
in every single use, it does so in a row of them (`Represents.serve`).
-/
namespace ChipEight

/-! ## Uses in a row -/

/-- A use of a stack. -/
inductive Use where
  /-- To remember an address. -/
  | push (address : Int)
  /-- To take the newest address. -/
  | pop
  deriving DecidableEq, Repr

/-- Something that keeps return addresses. -/
structure Keeper (σ : Type) where
  /-- How it remembers one more. -/
  push : σ → Int → Except Fault σ
  /-- How it gives back the newest. -/
  pop : σ → Except Fault (σ × UInt16)

namespace Keeper

variable {σ τ : Type}

/-- The answer to a use, with the address if one was taken, and what is kept afterwards.  If the
use is refused, that is what was kept before. -/
def answer (k : Keeper σ) (s : σ) : Use → Except Fault (Option UInt16) × σ
  | .push address =>
    match k.push s address with
    | .ok t => (.ok none, t)
    | .error f => (.error f, s)
  | .pop =>
    match k.pop s with
    | .ok (t, a) => (.ok (some a), t)
    | .error f => (.error f, s)

/-- The answers to uses, one after the other, and what is kept at the end. -/
def serve (k : Keeper σ) (s : σ) : List Use → List (Except Fault (Option UInt16)) × σ
  | [] => ([], s)
  | use :: uses =>
    let rest := k.serve (k.answer s use).2 uses
    ((k.answer s use).1 :: rest.1, rest.2)

/-- Whatever `j` keeps has an image that `k` keeps, and there `k` does what `j` does. -/
structure Represents (k : Keeper σ) (j : Keeper τ) (image : τ → σ) : Prop where
  push : ∀ t address, k.push (image t) address = (j.push t address).map image
  pop : ∀ t, k.pop (image t) = (j.pop t).map fun popped => (image popped.1, popped.2)

variable {k : Keeper σ} {j : Keeper τ} {image : τ → σ}

theorem Represents.answer (h : k.Represents j image) (t : τ) (use : Use) :
    k.answer (image t) use = ((j.answer t use).1, image (j.answer t use).2) := by
  cases use with
  | push address =>
    simp only [Keeper.answer, h.push]
    cases j.push t address with
    | ok _ => rfl
    | error _ => rfl
  | pop =>
    simp only [Keeper.answer, h.pop]
    cases j.pop t with
    | ok _ => rfl
    | error _ => rfl

/-- A row of uses gets the same answers, and leaves the image of what it leaves. -/
theorem Represents.serve (h : k.Represents j image) (t : τ) (uses : List Use) :
    k.serve (image t) uses = ((j.serve t uses).1, image (j.serve t uses).2) := by
  induction uses generalizing t with
  | nil => rfl
  | cons use uses ih => simp only [Keeper.serve, h.answer, ih]

end Keeper

/-! ## The list -/

/-- The pending calls: so many addresses of twelve bits at most, the oldest first. -/
structure Pending (capacity : Nat) where
  /-- The addresses to return to. -/
  addresses : List UInt16
  length_le : addresses.length ≤ capacity
  lt_address : ∀ a ∈ addresses, a.toNat < 4096

namespace Pending

variable {capacity : Nat}

/-- No pending call. -/
def empty (capacity : Nat) : Pending capacity := ⟨[], Nat.zero_le capacity, nofun⟩

/-- The list with one more address, of which twelve bits are kept. -/
def append (l : Pending capacity) (address : Int) (room : l.addresses.length < capacity) :
    Pending capacity where
  addresses := l.addresses ++ [CallStack.kept address]
  length_le := by
    rw [List.length_append]
    exact room
  lt_address a ha := by
    rcases List.mem_append.mp ha with ha | ha
    · exact l.lt_address a ha
    · rw [List.mem_singleton.mp ha]
      exact CallStack.kept_lt address

/-- The list without its last address. -/
def dropLast (l : Pending capacity) : Pending capacity where
  addresses := l.addresses.dropLast
  length_le := Nat.le_trans (List.dropLast_sublist l.addresses).length_le l.length_le
  lt_address a ha := l.lt_address a ((List.dropLast_sublist l.addresses).mem ha)

/-- Take an address, if there is room. -/
def push (l : Pending capacity) (address : Int) : Except Fault (Pending capacity) :=
  if room : l.addresses.length < capacity then .ok (l.append address room)
  else .error { cause := .fullStack capacity }

/-- Give back the last address, if there is one. -/
def pop (l : Pending capacity) : Except Fault (Pending capacity × UInt16) :=
  match l.addresses.getLast? with
  | none => .error { cause := .emptyStack }
  | some a => .ok (l.dropLast, a)

/-- The list as a keeper of addresses. -/
def keeper (capacity : Nat) : Keeper (Pending capacity) := ⟨push, pop⟩

/-! ## The list laid out in a stack -/

/-- The stack that holds a list. -/
def toStack (l : Pending capacity) : CallStack capacity := .ofEntries capacity l.addresses

theorem tidy_toStack (l : Pending capacity) : l.toStack.Tidy :=
  CallStack.tidy_ofEntries l.length_le l.lt_address

theorem calls_toStack (l : Pending capacity) : l.toStack.calls = l.addresses :=
  CallStack.calls_ofEntries l.length_le

/-- A tidy stack is the one that holds its pending calls. -/
theorem eq_toStack {s : CallStack capacity} {l : Pending capacity} (hs : s.Tidy)
    (h : s.calls = l.addresses) : s = l.toStack :=
  hs.eq_of_calls l.tidy_toStack (h.trans l.calls_toStack.symm)

theorem toStack_empty (capacity : Nat) : (empty capacity).toStack = CallStack.empty capacity := by
  have hcalls : (CallStack.empty capacity).calls = (empty capacity).addresses := List.take_zero
  exact (eq_toStack CallStack.tidy_empty hcalls).symm

/-- A push does to the stack what it does to the list. -/
theorem toStack_push (l : Pending capacity) (address : Int) :
    l.toStack.push address = (l.push address).map toStack := by
  have hs := l.tidy_toStack
  by_cases room : l.addresses.length < capacity
  · obtain ⟨t, ht⟩ : ∃ t, l.toStack.push address = .ok t :=
      ⟨_, CallStack.push_of_lt hs.nonneg (Int.ofNat_lt.mpr room) address⟩
    -- what a push leaves is tidy, so its pending calls say which stack it is
    have hcalls : t.calls = (l.append address room).addresses := by
      rw [hs.push_calls ht, l.calls_toStack]
      rfl
    rw [ht, eq_toStack (hs.push ht) hcalls, Pending.push, dif_pos room]
    rfl
  · have hfull : (capacity : Int) ≤ l.toStack.pointer := Int.ofNat_le.mpr (Nat.not_lt.mp room)
    rw [CallStack.push_of_le hfull, Pending.push, dif_neg room]
    rfl

/-- A pop does to the stack what it does to the list. -/
theorem toStack_pop (l : Pending capacity) :
    l.toStack.pop = l.pop.map fun popped => (popped.1.toStack, popped.2) := by
  have hs := l.tidy_toStack
  rcases Int.lt_or_le 0 l.toStack.pointer with hpos | hzero
  · obtain ⟨⟨t, a⟩, ht⟩ : ∃ popped, l.toStack.pop = .ok popped :=
      ⟨_, CallStack.pop_of_pos hpos hs.le_capacity⟩
    have hlast : l.addresses = t.calls ++ [a] := l.calls_toStack.symm.trans (hs.pop_calls ht)
    have hcalls : t.calls = l.dropLast.addresses := by
      show t.calls = l.addresses.dropLast
      rw [hlast, List.dropLast_concat]
    rw [ht, eq_toStack (hs.pop ht) hcalls, Pending.pop, hlast, List.getLast?_concat]
    rfl
  · have hnil : l.addresses = [] :=
      List.eq_nil_of_length_eq_zero (Nat.le_zero.mp (Int.ofNat_le.mp hzero))
    rw [CallStack.pop_of_le hzero, Pending.pop, hnil]
    rfl

theorem toStack_push_eq (l : Pending capacity) (address : Int) :
    l.toStack.push address =
      if l.addresses.length = capacity then .error { cause := .fullStack capacity }
      else .ok (.ofEntries capacity (l.addresses ++ [CallStack.kept address])) := by
  have hle := l.length_le
  rw [toStack_push, Pending.push]
  split
  · rename_i room
    rw [if_neg (Nat.ne_of_lt room)]
    rfl
  · rename_i hfull
    rw [if_pos (Nat.le_antisymm hle (Nat.not_lt.mp hfull))]
    rfl

theorem toStack_pop_eq (l : Pending capacity) :
    l.toStack.pop =
      match l.addresses.getLast? with
      | none => .error { cause := .emptyStack }
      | some a => .ok (.ofEntries capacity l.addresses.dropLast, a) := by
  rw [toStack_pop, Pending.pop]
  cases l.addresses.getLast? with
  | none => rfl
  | some _ => rfl

end Pending

/-! ## The stack in use -/

namespace CallStack

/-- The stack as a keeper of addresses. -/
def keeper (capacity : Nat) : Keeper (CallStack capacity) := ⟨push, pop⟩

theorem keeper_represents (capacity : Nat) :
    (keeper capacity).Represents (Pending.keeper capacity) Pending.toStack where
  push := Pending.toStack_push
  pop := Pending.toStack_pop

/-- **A stack in use is a bounded list.**

Whatever it is used for, an empty stack of any capacity gives the answers of the list, and holds
the list that is left: the pointer is its length, which is at most the capacity, the entries before
the pointer are its addresses, all of twelve bits, and the others are zero.  The next push is
refused for want of room exactly if the list is as long as the capacity, and else puts the twelve
bits at its end; the next pop is refused exactly if the list has no last address, and else takes
that.  A pop right after a push takes what was kept of the address, and leaves the very stack of
before, free entries included. -/
theorem refines_bounded_list (capacity : Nat) (uses : List Use) :
    let served := (keeper capacity).serve (empty capacity) uses
    let listed := (Pending.keeper capacity).serve (Pending.empty capacity) uses
    let s := served.2
    let l := listed.2.addresses
    served.1 = listed.1 ∧
    (s.pointer = l.length ∧ s.depth = l.length ∧ l.length ≤ capacity ∧
      (∀ a ∈ l, a.toNat < 4096) ∧
      ∀ (i : Nat) (hi : i < capacity), s.entries[i] = if h : i < l.length then l[i] else 0) ∧
    (∀ address : Int, ((kept address).toNat : Int) = address % 4096 ∧
      s.push address =
        if l.length = capacity then .error { cause := .fullStack capacity }
        else .ok (ofEntries capacity (l ++ [kept address]))) ∧
    (s.pop =
      match l.getLast? with
      | none => .error { cause := .emptyStack }
      | some a => .ok (ofEntries capacity l.dropLast, a)) ∧
    ∀ (address : Int) (t : CallStack capacity), s.push address = .ok t →
      t.pop = .ok (s, kept address) := by
  rw [← Pending.toStack_empty, (keeper_represents capacity).serve]
  intro served listed s l
  refine ⟨rfl, ⟨rfl, rfl, listed.2.length_le, listed.2.lt_address, fun i hi => ?_⟩,
    fun address => ⟨intCast_toNat_kept address, ?_⟩, ?_, fun address t h => ?_⟩
  · exact getElem_ofEntries l hi
  · exact listed.2.toStack_push_eq address
  · exact listed.2.toStack_pop_eq
  · exact pop_of_push listed.2.tidy_toStack h

example :
    (keeper 1).serve (empty 1) [.push 0xF234, .push 2, .pop, .pop] =
      ([.ok none, .error { cause := .fullStack 1 }, .ok (some 0x234),
        .error { cause := .emptyStack }], empty 1) := by
  rfl

end CallStack

end ChipEight
