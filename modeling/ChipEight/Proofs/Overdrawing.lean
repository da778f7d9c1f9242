import ChipEight.Proofs.ReadFootprint
import ChipEight.Proofs.SpriteDrawing

/-! # Drawing over what was drawn

A sprite flips the pixels that it covers.  So the same sprite drawn twice leaves the screen as it
was, and of two sprites either may be drawn first.

For pictures this is the algebra of exclusive or: `imprint_imprint_self` and `imprint_right_comm`
say what a second picture does to a state on whose screen a first one was put (`State.imprint`).
What picture a word draws is another matter, for drawing writes the flag and the next corner may be
read from there.  `SameSprite w s t` says that the state `t` holds all that `w` reads for its sprite
as `s` does.  A word whose corner is read from other registers draws the same sprite after any
drawing as before it (`sameSprite_imprint`), and its rows are still in memory.
-/
namespace ChipEight

namespace Bitmap

variable {width height : Nat}

/-- Laying a picture over another twice changes nothing. -/
theorem xor_xor_cancel_right (a b : Bitmap width height) : (a.xor b).xor b = a := by
  refine ext_row fun y _ => ?_
  rw [row_xor, row_xor, BitVec.xor_assoc, BitVec.xor_self, BitVec.xor_zero]

/-- It does not matter which of two pictures is laid over a third first. -/
theorem xor_right_comm (a b c : Bitmap width height) : (a.xor b).xor c = (a.xor c).xor b := by
  refine ext_row fun y _ => ?_
  rw [row_xor, row_xor, row_xor, row_xor, BitVec.xor_assoc, BitVec.xor_assoc,
    BitVec.xor_comm (b.row y)]

/-- A picture meets what it was laid over at the pixels that were not lit before. -/
theorem overlaps_xor_self_iff (a b : Bitmap width height) :
    (a.xor b).overlaps b = true ↔
      ∃ x y, x < width ∧ y < height ∧ a.pixel x y = false ∧ b.pixel x y = true := by
  rw [overlaps_eq_true_iff]
  constructor
  · rintro ⟨x, y, hx, hy, hxor, hb⟩
    rw [pixel_xor, hb, Bool.xor_true, Bool.not_eq_true'] at hxor
    exact ⟨x, y, hx, hy, hxor, hb⟩
  · rintro ⟨x, y, hx, hy, ha, hb⟩
    refine ⟨x, y, hx, hy, ?_, hb⟩
    rw [pixel_xor, ha, hb]
    rfl

end Bitmap

namespace Alu.Op

theorem flagByte_eq_one_iff {b : Bool} : flagByte b = 1 ↔ b = true := by
  cases b <;> decide

theorem flagByte_eq_zero_iff {b : Bool} : flagByte b = 0 ↔ b = false := by
  cases b <;> decide

end Alu.Op

namespace State

variable {s s' t : State} {w : Word}

/-! ## One picture after another -/

theorem imprint_registers (s : State) (m : Screen) :
    (s.imprint m).registers =
      s.registers.setIfInBounds flagRegister (Alu.Op.flagByte (s.screen.overlaps m)) := rfl

theorem imprint_flag (s : State) (m : Screen) :
    (s.imprint m).registers.get flagRegister = Alu.Op.flagByte (s.screen.overlaps m) := by
  rw [imprint_registers]
  exact s.get_setRegister_self flagRegister _

theorem get_imprint_of_ne (s : State) (m : Screen) {r : Fin 16} (hr : r ≠ flagRegister) :
    (s.imprint m).registers.get r = s.registers.get r := by
  rw [imprint_registers]
  exact s.get_setRegister_of_ne _ hr

/-- Two pictures put on the screen, one after the other. -/
theorem imprint_imprint (s : State) (m n : Screen) :
    (s.imprint m).imprint n = {
      s.setRegister flagRegister (Alu.Op.flagByte ((s.screen.xor m).overlaps n)) with
      screen := (s.screen.xor m).xor n } := by
  unfold imprint setRegister
  simp only [Vector.setIfInBounds_setIfInBounds]

/-- A picture put on the screen a second time is gone again. -/
theorem imprint_imprint_self (s : State) (m : Screen) :
    (s.imprint m).imprint m =
      s.setRegister flagRegister (Alu.Op.flagByte ((s.screen.xor m).overlaps m)) := by
  rw [imprint_imprint, Bitmap.xor_xor_cancel_right]
  rfl

/-- Two pictures may be put on the screen in either order, but for the flag. -/
theorem imprint_right_comm (s : State) (m n : Screen) :
    (s.imprint n).imprint m = ((s.imprint m).imprint n).setRegister flagRegister
      (((s.imprint n).imprint m).registers.get flagRegister) := by
  rw [imprint_flag, imprint_imprint, imprint_imprint, Bitmap.xor_right_comm s.screen n m]
  unfold setRegister
  simp only [Vector.setIfInBounds_setIfInBounds]
  rfl

/-! ## What a word draws in another state -/

/-- Whether a state `t` holds what the word reads for its sprite as the state `s` does. -/
structure SameSprite (w : Word) (s t : State) : Prop where
  memory : t.memory = s.memory
  index : t.index = s.index
  x : t.registers.get w.x = s.registers.get w.x
  y : t.registers.get w.y = s.registers.get w.y

/-- Drawing spoils no sprite whose corner is not read from the flag register. -/
theorem sameSprite_imprint (s : State) (m : Screen) (hx : w.x ≠ flagRegister)
    (hy : w.y ≠ flagRegister) : SameSprite w s (s.imprint m) where
  memory := rfl
  index := rfl
  x := s.get_imprint_of_ne m hx
  y := s.get_imprint_of_ne m hy

theorem SameSprite.spriteMask (h : SameSprite w s t) : t.spriteMask w = s.spriteMask w := by
  unfold State.spriteMask spriteColumn spriteRow shownRows
  rw [h.memory, h.index, h.x, h.y]

/-- A sprite that was drawn in one state can be drawn in the other. -/
theorem SameSprite.drawSprite (h : SameSprite w s t) (hdrawn : s.drawSprite w.x w.y w.n = .ok s') :
    t.drawSprite w.x w.y w.n = .ok (t.imprint (s.spriteMask w)) := by
  obtain ⟨hrows, -⟩ := drawSprite_eq_ok_iff.mp hdrawn
  refine drawSprite_eq_ok_iff.mpr ⟨?_, ?_⟩
  · intro r hr hrow
    rw [spriteRow, h.y] at hrow
    rw [h.index]
    exact hrows r hr hrow
  · rw [← h.spriteMask]
    rfl

theorem execute_draw_eq_ok_iff (hw : Operation.draw.Matches w) :
    s.execute w = .ok s' ↔ s.drawSprite w.x w.y w.n = .ok s' := by
  rw [execute_of_matches hw]
  rfl

/-- A word that draws puts its picture on the screen. -/
theorem eq_imprint_of_execute (hw : Operation.draw.Matches w) (h : s.execute w = .ok s') :
    s' = s.imprint (s.spriteMask w) :=
  drawSprite_eq_ok ((execute_draw_eq_ok_iff hw).mp h)

/-- After any drawing, a word whose corner is not read from the flag register draws what it would
have drawn before. -/
theorem execute_after_imprint (hw : Operation.draw.Matches w) (hx : w.x ≠ flagRegister)
    (hy : w.y ≠ flagRegister) (m : Screen) (h : s.execute w = .ok s') :
    (s.imprint m).execute w = .ok ((s.imprint m).imprint (s.spriteMask w)) :=
  (execute_draw_eq_ok_iff hw).mpr
    ((sameSprite_imprint s m hx hy).drawSprite ((execute_draw_eq_ok_iff hw).mp h))

/-- The flag of a second drawing tells whether the sprite covers a pixel that was not lit before
the first. -/
theorem overlaps_xor_spriteMask_iff :
    (s.screen.xor (s.spriteMask w)).overlaps (s.spriteMask w) = true ↔
      ∃ x y, x < 64 ∧ y < 32 ∧ s.Covers w x y ∧ s.screen.pixel x y = false := by
  rw [Bitmap.overlaps_xor_self_iff]
  constructor
  · rintro ⟨x, y, hx, hy, hclear, hmask⟩
    exact ⟨x, y, hx, hy, (pixel_spriteMask hx hy).mp hmask, hclear⟩
  · rintro ⟨x, y, hx, hy, hcovers, hclear⟩
    exact ⟨x, y, hx, hy, hclear, (pixel_spriteMask hx hy).mpr hcovers⟩

/-- **Drawing over what was drawn.**

Take a word that draws, neither of whose coordinates is read from the flag register, in any state in
which it is not refused.  It can be run once more, and then the whole state is as it was before the
first time but for the flag, which is 1 if the sprite covers a pixel of the screen that was not lit
at first, and else 0.  With a second such word, the two can be run one after the other in either
order, and the states they leave are the same but for the flag. -/
theorem execute_draws_cancel_and_commute (s : State) {w : Word} (hw : Operation.draw.Matches w)
    (hx : w.x ≠ flagRegister) (hy : w.y ≠ flagRegister) {s₁ : State} (h : s.execute w = .ok s₁) :
    (∃ s₂, s₁.execute w = .ok s₂ ∧ s₂.screen = s.screen ∧
      (s₂.registers.get flagRegister = 1 ↔
        ∃ x y, x < 64 ∧ y < 32 ∧ s.Covers w x y ∧ s.screen.pixel x y = false) ∧
      (s₂.registers.get flagRegister = 0 ↔
        ¬∃ x y, x < 64 ∧ y < 32 ∧ s.Covers w x y ∧ s.screen.pixel x y = false) ∧
      s₂ = s.setRegister flagRegister (s₂.registers.get flagRegister)) ∧
    ∀ (w' : Word) (t₁ : State), Operation.draw.Matches w' →
      w'.x ≠ flagRegister → w'.y ≠ flagRegister → s.execute w' = .ok t₁ →
      ∃ s₂ t₂, s₁.execute w' = .ok s₂ ∧ t₁.execute w = .ok t₂ ∧
        t₂ = s₂.setRegister flagRegister (t₂.registers.get flagRegister) := by
  obtain rfl := eq_imprint_of_execute hw h
  constructor
  · refine ⟨_, execute_after_imprint hw hx hy _ h, ?_, ?_, ?_, ?_⟩
    · exact Bitmap.xor_xor_cancel_right _ _
    · rw [imprint_flag, Alu.Op.flagByte_eq_one_iff]
      exact overlaps_xor_spriteMask_iff
    · rw [imprint_flag, Alu.Op.flagByte_eq_zero_iff, ← overlaps_xor_spriteMask_iff,
        Bool.not_eq_true]
      rfl
    · rw [imprint_flag, imprint_imprint_self]
      rfl
  · intro w' t₁ hw' hx' hy' h'
    obtain rfl := eq_imprint_of_execute hw' h'
    exact ⟨_, _, execute_after_imprint hw' hx' hy' _ h', execute_after_imprint hw hx hy _ h,
      imprint_right_comm s _ _⟩

/-- The glyph of 0 drawn in the corner, of which the first pixel is lit, and the same glyph two
columns further right. -/
theorem execute_draws_cancel_and_commute_sample :
    let s : State := { State.initial (.ofSeed 0) .classic with
      registers := (Vector.replicate 16 0).setIfInBounds 2 2
      screen := .ofFn 64 32 fun x y => x == 0 && y == 0 }
    Operation.draw.Matches 0xD015 ∧ Operation.draw.Matches 0xD215 ∧
      ∃ s₁ t₁ s₂ s₃ t₃, s.execute 0xD015 = .ok s₁ ∧ s.execute 0xD215 = .ok t₁ ∧
        s₁.execute 0xD015 = .ok s₂ ∧ s₂.screen = s.screen ∧ s₂.registers.get flagRegister = 1 ∧
        s₁.execute 0xD215 = .ok s₃ ∧ t₁.execute 0xD015 = .ok t₃ ∧ t₃.screen = s₃.screen := by
  intro s
  have hw : Operation.draw.Matches 0xD015 := by decide
  have hw' : Operation.draw.Matches 0xD215 := by decide
  have hrows (r : Nat) (hr : r < 5) : s.index.toNat + r < 4096 := by
    show 0 + r < 4096
    omega
  have h : s.execute 0xD015 = .ok _ :=
    (execute_draw_eq_ok_iff hw).mpr (drawSprite_eq_ok_iff.mpr ⟨fun r hr _ => hrows r hr, rfl⟩)
  have h' : s.execute 0xD215 = .ok _ :=
    (execute_draw_eq_ok_iff hw').mpr (drawSprite_eq_ok_iff.mpr ⟨fun r hr _ => hrows r hr, rfl⟩)
  obtain ⟨⟨s₂, hagain, hscreen, hflag, -⟩, hcomm⟩ :=
    s.execute_draws_cancel_and_commute hw (by decide) (by decide) h
  obtain ⟨s₃, t₃, hfirst, hlast, hsame⟩ := hcomm 0xD215 _ hw' (by decide) (by decide) h'
  -- the second pixel of the first row is covered and was not lit
  have hcovers : s.Covers 0xD015 1 0 := ⟨1, 0, by decide, by decide, rfl, rfl, by decide +kernel⟩
  have hclear : s.screen.pixel 1 0 = false := by decide +kernel
  refine ⟨hw, hw', _, _, s₂, s₃, t₃, h, h', hagain, hscreen, ?_, hfirst, hlast, ?_⟩
  · exact hflag.mpr ⟨1, 0, by decide, by decide, hcovers, hclear⟩
  · rw [hsame]
    rfl

/-- Where the column is read from the flag register, the second sprite stands elsewhere: a pixel in
column 8 and one in column 0 remain. -/
example :
    let s : State := { State.initial (.ofSeed 0) .classic with
      registers := (Vector.replicate 16 0).setIfInBounds 15 8 }
    ((s.execute 0xDF01).bind fun t => t.execute 0xDF01).toOption.map
      (fun t => (t.screen.pixel 8 0, t.screen.pixel 0 0)) = some (true, true) := by
  decide +kernel

end State

end ChipEight
