import ChipEight.Proofs.MachineCodeChain
import ChipEight.Proofs.WriteFootprint

/-! # Program images

A program is a list of words, and its image in memory has two bytes for each of them, the more
significant one first (`Word.image`).  `Word.ofBytes` puts a word together again, so a word that was
loaded is found at its place among the bytes (`Memory.word_store_image`), and its digits are those
of the word that was written.

Loading writes the image from `programStart` on and leaves all other bytes, among them those of an
older image that went further.  It is refused exactly if the image does not fit, and the empty image
changes nothing, not even the program counter.
-/
namespace ChipEight

namespace Word

/-- The two bytes of a word, the more significant one first. -/
def bytes (w : Word) : List UInt8 := [UInt8.ofNat (w.toNat / 256), w.nn]

/-- The image of a program. -/
def image (words : List Word) : List UInt8 := words.flatMap bytes

theorem ofBytes_bytes (w : Word) : ofBytes (UInt8.ofNat (w.toNat / 256)) w.nn = w := by
  have hw := w.toNat_lt
  refine UInt16.toNat_inj.mp ?_
  rw [toNat_ofBytes, toNat_nn, UInt8.toNat_ofNat']
  omega

/-- A word is what it is read as. -/
theorem ofInt_toNat (w : Word) : ofInt w.toNat = w := by
  have hw := w.toNat_lt
  have hv := toNat_ofInt w.toNat
  refine UInt16.toNat_inj.mp ?_
  omega

theorem length_image (words : List Word) : (image words).length = 2 * words.length := by
  induction words with
  | nil => rfl
  | cons w words ih =>
    show (image words).length + 2 = _
    rw [ih, List.length_cons, Nat.mul_succ]

theorem length_image_le {words : List Word} (h : words.length ≤ 1792) :
    (image words).length ≤ 3584 := by
  rw [length_image]
  omega

/-- Where the two bytes of a word are in the image. -/
theorem getElem?_image {words : List Word} {i : Nat} {w : Word} (h : words[i]? = some w) :
    (image words)[2 * i]? = some (UInt8.ofNat (w.toNat / 256)) ∧
      (image words)[2 * i + 1]? = some w.nn := by
  induction words generalizing i with
  | nil => cases h
  | cons v words ih =>
    cases i with
    | zero =>
      obtain rfl := Option.some.inj h
      exact ⟨rfl, rfl⟩
    | succ i => exact ih h

end Word

namespace Memory

variable (m : Memory)

/-- **A word of a stored image is found at its place.** -/
theorem word_store_image {start i : Nat} {words : List Word} {w : Word}
    (h : words[i]? = some w) (hfit : start + 2 * i + 1 < 4096) :
    (m.store start (Word.image words)).word (start + 2 * i) = w := by
  obtain ⟨hhigh, hlow⟩ := Word.getElem?_image h
  rw [word, Nat.add_assoc, m.byteAt_store hhigh (by omega), m.byteAt_store hlow (by omega)]
  exact w.ofBytes_bytes

end Memory

namespace State

variable {s s' : State} {words : List Word}

/-- The words of a program that was loaded are where they belong. -/
theorem wordAt_of_load (hlen : words.length ≤ 1792) (h : s.load (Word.image words) = .ok s')
    {i : Nat} {w : Word} (hw : words[i]? = some w) :
    s'.memory.wordAt (programStart + 2 * i : Nat) = .ok w := by
  obtain ⟨hi, -⟩ := List.getElem?_eq_some_iff.mp hw
  have hne : Word.image words ≠ [] := by
    refine List.ne_nil_of_length_pos ?_
    rw [Word.length_image]
    omega
  have hfit : programStart + 2 * i + 1 < 4096 := by
    show 512 + 2 * i + 1 < 4096
    omega
  obtain rfl := Except.ok.inj ((load_of_le (Word.length_image_le hlen) hne).symm.trans h)
  rw [Memory.wordAt_eq_word _ hfit]
  exact congrArg Except.ok (s.memory.word_store_image hw hfit)

/-- **Loading a program.**

An image is refused, by the address of its last byte, exactly if it has more than 3584 bytes.  Any
other image that is not empty is put into memory from address `0x200` on, and the program counter is
set to its beginning; the other bytes of memory and the rest of the state stay.  The empty image
changes nothing.  So every word of a program of at most 1792 words is fetched from its place, and
what is fetched has the digits of the word: the opcode and `NNN`, `X` and `NN`, `Y` and `N` are its
value taken apart. -/
theorem load_image (s : State) :
    (∀ (image : List UInt8) (f : Fault), s.load image = .error f ↔
      3584 < image.length ∧
        f = { cause := .outOfBoundsAddress (0x200 + image.length - 1 : Nat) }) ∧
    (∀ image : List UInt8, image.length ≤ 3584 → image ≠ [] → ∃ s', s.load image = .ok s' ∧
      (∀ i b, image[i]? = some b → s'.memory.byteAt (0x200 + i) = b) ∧
      (∀ a : Fin 4096, ¬(0x200 ≤ a.val ∧ a.val < 0x200 + image.length) →
        s'.memory.get a = s.memory.get a) ∧
      s'.pc = 0x200 ∧ s' = { s with memory := s'.memory, pc := s'.pc }) ∧
    s.load [] = .ok s ∧
    (∀ words : List Word, words.length ≤ 1792 → ∃ s', s.load (Word.image words) = .ok s' ∧
      ∀ i w, words[i]? = some w → s'.memory.wordAt (0x200 + 2 * i : Nat) = .ok w ∧
        Word.ofInt w.toNat = w ∧ w.toNat = 4096 * w.opcode.val + w.nnn.toNat ∧
        w.nnn.toNat = 256 * w.x.val + w.nn.toNat ∧ w.nn.toNat = 16 * w.y.val + w.n.val) := by
  refine ⟨fun image f => load_eq_error_iff, fun image hle hne => ?_, s.load_nil, ?_⟩
  · refine ⟨_, load_of_le hle hne, fun i b hb => ?_, fun a ha => ?_, rfl, rfl⟩
    · obtain ⟨hi, -⟩ := List.getElem?_eq_some_iff.mp hb
      exact s.memory.byteAt_store hb (by show 512 + i < 4096; omega)
    · refine s.memory.get_store_of_outside fun hin => ha ⟨hin.1, ?_⟩
      have hlt : a.val - 0x200 < image.length := hin.2
      omega
  · intro words hlen
    obtain ⟨s', h, -⟩ := s.exists_load_of_le (Word.length_image_le hlen)
    exact ⟨s', h, fun i w hw => ⟨wordAt_of_load hlen h hw, w.ofInt_toNat, w.toNat_eq_opcode_nnn,
      w.nnn_eq_x_nn, w.nn_eq_y_n⟩⟩

/-- A program of one word, an image that ends within a word of an older one, and an image that is
one byte too long. -/
theorem load_image_sample :
    let s : State := { State.initial (.ofSeed 0) .classic with
      memory := Memory.initial.store programStart [0x12, 0x00, 0x60, 0x2A]
      pc := 0x0FFE }
    (∃ s', s.load (Word.image [0x00E0]) = .ok s' ∧ s'.memory.wordAt 0x200 = .ok 0x00E0) ∧
      (∃ s', s.load [0xA2] = .ok s' ∧ s'.pc = 0x200 ∧ s'.memory.byteAt 0x200 = 0xA2 ∧
        s'.memory.get 0x201 = s.memory.get 0x201) ∧
      s.load (List.replicate 3585 0) = .error { cause := .outOfBoundsAddress 0x1000 } := by
  intro s
  obtain ⟨hrefused, hstored, -, hwords⟩ := s.load_image
  obtain ⟨s', hload, hread⟩ := hwords [0x00E0] (by decide)
  obtain ⟨t, hodd, hbytes, hrest, hpc, -⟩ := hstored [0xA2] (by decide) (List.cons_ne_nil _ _)
  refine ⟨⟨s', hload, (hread 0 0x00E0 rfl).1⟩,
    ⟨t, hodd, hpc, hbytes 0 0xA2 rfl, hrest 0x201 fun hin => ?_⟩, ?_⟩
  · have hlt : 0x201 < 0x200 + 1 := hin.2
    omega
  · refine (hrefused (List.replicate 3585 0) _).mpr ?_
    rw [List.length_replicate]
    exact ⟨by decide, rfl⟩

end State

end ChipEight
