import ChipEight.Proofs.MachineCodeChain
import ChipEight.Proofs.WriteFootprint

/-! # Drawing a sprite, pixel by pixel

A sprite is drawn by rows, as a picture that is cut to the screen.  This module says what that
means for a single pixel.  `State.Covers s w x y` holds if the sprite that `w` draws has a bit at
column `x` and row `y`: no column and no row comes around to the other side, and a row below the
screen has no pixel there.  The picture is exactly this (`pixel_spriteMask`), so drawing flips the
pixels that are covered, and the flag tells whether one of them was lit.

Rows that are not shown are not read either: what is drawn depends on the bytes of the others
alone (`drawSprite_congr`).
-/
namespace ChipEight

namespace State

/-! ## What a sprite covers -/

/-- The column of the corner of a sprite. -/
def spriteColumn (s : State) (w : Word) : Nat := (s.registers.get w.x).toNat % 64

/-- The row of the corner of a sprite. -/
def spriteRow (s : State) (w : Word) : Nat := (s.registers.get w.y).toNat % 32

/-- Whether the sprite that a word draws has a bit at a pixel: the bit `7 - c` of its row `r`, if
the pixel lies `c` columns and `r` rows from the corner. -/
def Covers (s : State) (w : Word) (x y : Nat) : Prop :=
  ∃ c r, c < 8 ∧ r < w.n.val ∧ x = s.spriteColumn w + c ∧ y = s.spriteRow w + r ∧
    (s.memory.byteAt (s.index.toNat + r)).toNat.testBit (7 - c) = true

/-- The picture that a word draws. -/
def spriteMask (s : State) (w : Word) : Screen :=
  Sprite.mask (s.spriteColumn w) (s.spriteRow w)
    (s.memory.block s.index.toNat (s.shownRows w.y w.n))

variable {s s' : State} {w : Word}

/-- The rows that are shown are those on the screen. -/
theorem lt_shownRows_iff {r : Nat} :
    r < s.shownRows w.y w.n ↔ r < w.n.val ∧ s.spriteRow w + r < 32 := by
  have hrow : s.spriteRow w < 32 := Nat.mod_lt _ (by decide)
  show r < min w.n.val (32 - s.spriteRow w) ↔ _
  omega

/-- The bits of a byte, from left to right. -/
theorem getMsbD_eq_testBit (b : UInt8) {c : Nat} (hc : c < 8) :
    b.toBitVec.getMsbD c = b.toNat.testBit (7 - c) := by
  rw [BitVec.getMsbD, decide_eq_true hc, Bool.true_and]
  rfl

/-- **The picture of a sprite is what the sprite covers**, as far as the screen goes. -/
theorem pixel_spriteMask {x y : Nat} (hx : x < 64) (hy : y < 32) :
    (s.spriteMask w).pixel x y = true ↔ s.Covers w x y := by
  rw [spriteMask, Sprite.pixel_mask _ _ _ hx hy, Bool.and_eq_true, decide_eq_true_iff]
  constructor
  · rintro ⟨⟨hrow, hcolumn, hwidth⟩, hbit⟩
    -- a bit comes from a row that is shown
    have hshown : y - s.spriteRow w < s.shownRows w.y w.n := by
      refine Nat.lt_of_not_le fun hle => ?_
      rw [List.getElem?_eq_none (by rwa [Memory.length_block])] at hbit
      cases hbit
    rw [Memory.getElem?_block _ _ hshown, Option.map_some, Option.getD_some,
      getMsbD_eq_testBit _ (by omega)] at hbit
    exact ⟨x - s.spriteColumn w, y - s.spriteRow w, by omega, (lt_shownRows_iff.mp hshown).1,
      by omega, by omega, hbit⟩
  · rintro ⟨c, r, hc, hr, rfl, rfl, hbit⟩
    have hshown : r < s.shownRows w.y w.n := lt_shownRows_iff.mpr ⟨hr, hy⟩
    refine ⟨by omega, ?_⟩
    rw [Nat.add_sub_cancel_left, Nat.add_sub_cancel_left, Memory.getElem?_block _ _ hshown,
      Option.map_some, Option.getD_some, getMsbD_eq_testBit _ hc]
    exact hbit

/-- The flag tells whether a pixel that is lit is covered. -/
theorem overlaps_spriteMask_iff :
    s.screen.overlaps (s.spriteMask w) = true ↔
      ∃ x y, x < 64 ∧ y < 32 ∧ s.screen.pixel x y = true ∧ s.Covers w x y := by
  rw [Bitmap.overlaps_eq_true_iff]
  constructor
  · rintro ⟨x, y, hx, hy, hlit, hmask⟩
    exact ⟨x, y, hx, hy, hlit, (pixel_spriteMask hx hy).mp hmask⟩
  · rintro ⟨x, y, hx, hy, hlit, hcovers⟩
    exact ⟨x, y, hx, hy, hlit, (pixel_spriteMask hx hy).mpr hcovers⟩

theorem withSprite_eq (s : State) (w : Word) :
    s.withSprite w.x w.y w.n = {
      s.setRegister flagRegister (Alu.Op.flagByte (s.screen.overlaps (s.spriteMask w))) with
      screen := s.screen.xor (s.spriteMask w) } := rfl

/-! ## What is read -/

/-- A sprite is drawn if memory has the rows that are shown. -/
theorem drawSprite_eq_ok_iff :
    s.drawSprite w.x w.y w.n = .ok s' ↔
      (∀ r, r < w.n.val → s.spriteRow w + r < 32 → s.index.toNat + r < 4096) ∧
        s' = s.withSprite w.x w.y w.n := by
  constructor
  · intro h
    refine ⟨fun r hr hrow => Nat.lt_of_not_le fun hle => ?_, drawSprite_eq_ok h⟩
    have hlast := lt_shownRows_iff.mpr ⟨hr, hrow⟩
    have hfar : 0xFFF < s.index.toNat + s.shownRows w.y w.n - 1 := by omega
    cases h.symm.trans (drawSprite_eq_error_iff.mpr ⟨⟨Nat.zero_lt_of_lt hr, hfar⟩, rfl⟩)
  · rintro ⟨hrows, rfl⟩
    rcases Nat.eq_zero_or_pos (s.shownRows w.y w.n) with hz | hp
    · exact drawSprite_of_zero hz
    · -- the last of the rows that are shown
      obtain ⟨hr, hrow⟩ := lt_shownRows_iff.mp (Nat.sub_lt hp Nat.one_pos)
      have hlast : s.index.toNat + s.shownRows w.y w.n - 1 < 4096 := by
        have hin := hrows _ hr hrow
        omega
      rw [drawSprite_of_pos hp, checkAddress_of_lt hlast]
      rfl

/-- A sprite is drawn from the bytes of the rows that are shown, and from no others. -/
theorem drawSprite_congr {m : Memory}
    (hm : ∀ r, r < w.n.val → s.spriteRow w + r < 32 →
      m.byteAt (s.index.toNat + r) = s.memory.byteAt (s.index.toNat + r))
    (h : s.drawSprite w.x w.y w.n = .ok s') :
    ({ s with memory := m } : State).drawSprite w.x w.y w.n = .ok { s' with memory := m } := by
  obtain ⟨hrows, rfl⟩ := drawSprite_eq_ok_iff.mp h
  have hblock : m.block s.index.toNat (s.shownRows w.y w.n) =
      s.memory.block s.index.toNat (s.shownRows w.y w.n) := by
    refine List.map_congr_left fun r hr => ?_
    obtain ⟨hn, hrow⟩ := lt_shownRows_iff.mp (List.mem_range.mp hr)
    exact hm r hn hrow
  have hmask : ({ s with memory := m } : State).spriteMask w = s.spriteMask w := by
    show Sprite.mask (s.spriteColumn w) (s.spriteRow w)
      (m.block s.index.toNat (s.shownRows w.y w.n)) = _
    rw [hblock, spriteMask]
  refine drawSprite_eq_ok_iff.mpr ⟨hrows, ?_⟩
  rw [withSprite_eq, withSprite_eq, hmask]
  rfl

/-- **Drawing a sprite.**

A sprite is drawn exactly if memory has every row of it that is shown.  Then a pixel of the screen
is flipped if the sprite covers it, and else stays as it is.  The flag is 1 if a pixel that was lit
is covered, and 0 if there is none, as for a sprite without rows.  Nothing else changes.  The rows
below the screen need not be in memory, and with any other bytes in their place, or anywhere else,
the outcome is the same. -/
theorem execute_draw (s : State) {w : Word} (hw : Operation.draw.Matches w) :
    ((∃ s', s.execute w = .ok s') ↔
      ∀ r, r < w.n.val → s.spriteRow w + r < 32 → s.index.toNat + r < 4096) ∧
    ∀ s', s.execute w = .ok s' →
      (∀ x y, x < 64 → y < 32 →
        (s.Covers w x y → s'.screen.pixel x y = !s.screen.pixel x y) ∧
        (¬s.Covers w x y → s'.screen.pixel x y = s.screen.pixel x y)) ∧
      ((∃ x y, x < 64 ∧ y < 32 ∧ s.screen.pixel x y = true ∧ s.Covers w x y) →
        s'.registers.get flagRegister = 1) ∧
      ((¬∃ x y, x < 64 ∧ y < 32 ∧ s.screen.pixel x y = true ∧ s.Covers w x y) →
        s'.registers.get flagRegister = 0) ∧
      s' = { s.setRegister flagRegister (s'.registers.get flagRegister) with
        screen := s'.screen } ∧
      ∀ m : Memory,
        (∀ r, r < w.n.val → s.spriteRow w + r < 32 →
          m.byteAt (s.index.toNat + r) = s.memory.byteAt (s.index.toNat + r)) →
        ({ s with memory := m } : State).execute w = .ok { s' with memory := m } := by
  rw [execute_of_matches hw]
  refine ⟨⟨fun ⟨_, h⟩ => (drawSprite_eq_ok_iff.mp h).1,
    fun hrows => ⟨_, drawSprite_eq_ok_iff.mpr ⟨hrows, rfl⟩⟩⟩, fun s' h => ?_⟩
  obtain ⟨-, hdrawn⟩ := drawSprite_eq_ok_iff.mp h
  rw [withSprite_eq] at hdrawn
  have hflag : s'.registers.get flagRegister =
      Alu.Op.flagByte (s.screen.overlaps (s.spriteMask w)) := by
    rw [hdrawn]
    exact Vector.getElem_setIfInBounds_self ..
  refine ⟨fun x y hx hy => ?_, fun hlit => ?_, fun hnone => ?_, ?_, fun m hm => ?_⟩
  · have hpixel : s'.screen.pixel x y = (s.screen.pixel x y ^^ (s.spriteMask w).pixel x y) := by
      rw [hdrawn]
      exact Bitmap.pixel_xor ..
    rw [hpixel]
    constructor
    · intro hcovers
      rw [(pixel_spriteMask hx hy).mpr hcovers, Bool.xor_true]
    · intro hclear
      rw [Bool.eq_false_iff.mpr fun hmask => hclear ((pixel_spriteMask hx hy).mp hmask),
        Bool.xor_false]
  · rw [hflag, overlaps_spriteMask_iff.mpr hlit]
    rfl
  · rw [hflag, Bool.eq_false_iff.mpr fun hover => hnone (overlaps_spriteMask_iff.mp hover)]
    rfl
  · rw [hflag, hdrawn]
  · rw [execute_of_matches hw]
    exact drawSprite_congr hm h

/-- A sprite of three rows in the bottom right corner, with the column of the corner in the flag
register and its third row past the end of memory: the four columns and two rows on the screen are
drawn. -/
theorem execute_draw_sample :
    let s : State := { State.initial (.ofSeed 0) .classic with
      memory := Memory.initial.store 0xFFE [0xFF, 0x81]
      registers := (Vector.replicate 16 0).setIfInBounds 0 30 |>.setIfInBounds 15 60
      index := 0xFFE
      screen := .ofFn 64 32 fun x y => x == 63 && y == 30 }
    Operation.draw.Matches 0xDF03 ∧ ∃ s', s.execute 0xDF03 = .ok s' ∧
      s'.screen.pixel 63 30 = false ∧ s'.screen.pixel 60 31 = true ∧
      s'.screen.pixel 0 30 = false ∧ s'.registers.get flagRegister = 1 := by
  intro s
  have hw : Operation.draw.Matches 0xDF03 := by decide
  have hcorner : s.spriteColumn 0xDF03 = 60 ∧ s.spriteRow 0xDF03 = 30 := by decide
  have hbytes : s.memory.byteAt 0xFFE = 0xFF ∧ s.memory.byteAt 0xFFF = 0x81 := by decide +kernel
  have hlit : s.screen.pixel 63 30 = true ∧ s.screen.pixel 60 31 = false ∧
      s.screen.pixel 0 30 = false := by decide +kernel
  obtain ⟨hroom, hdraw⟩ := s.execute_draw hw
  obtain ⟨s', h⟩ := hroom.mpr fun r _ hr => by
    rw [hcorner.2] at hr
    show 0xFFE + r < 4096
    omega
  obtain ⟨hpixel, hflag, -⟩ := hdraw s' h
  have hcover (c r : Nat) (hc : c < 8) (hr : r < 3)
      (hbit : (s.memory.byteAt (0xFFE + r)).toNat.testBit (7 - c) = true) :
      s.Covers 0xDF03 (60 + c) (30 + r) :=
    ⟨c, r, hc, hr, by rw [hcorner.1], by rw [hcorner.2], hbit⟩
  have hlast : s.Covers 0xDF03 63 30 :=
    hcover 3 0 (by decide) (by decide) (by rw [hbytes.1]; decide)
  have hbelow : s.Covers 0xDF03 60 31 :=
    hcover 0 1 (by decide) (by decide) (by rw [hbytes.2]; decide)
  have hwrapped : ¬s.Covers 0xDF03 0 30 := by
    rintro ⟨c, r, -, -, hc, -⟩
    rw [hcorner.1] at hc
    omega
  refine ⟨hw, s', h, ?_, ?_, ?_, hflag ⟨63, 30, by decide, by decide, hlit.1, hlast⟩⟩
  · rw [(hpixel 63 30 (by decide) (by decide)).1 hlast, hlit.1]
    rfl
  · rw [(hpixel 60 31 (by decide) (by decide)).1 hbelow, hlit.2.1]
    rfl
  · rw [(hpixel 0 30 (by decide) (by decide)).2 hwrapped, hlit.2.2]

end State

end ChipEight
