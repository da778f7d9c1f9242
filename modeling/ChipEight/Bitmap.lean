/-! # Bitmaps and sprites

A picture of single bits, `width` columns by `height` rows.  A row is a bit vector
whose most significant bit is the leftmost pixel, so that two pictures are combined a
row at a time; `pixel` is the view by column and row in which pictures are described.

A **sprite** is a picture eight pixels wide, given as its rows from top to bottom, one
byte each.  `Sprite.mask` places it on an empty screen: whatever does not fit at the
right or at the bottom is cut off (`Sprite.pixel_mask`).
-/
namespace ChipEight

/-- A picture of bits. -/
structure Bitmap (width height : Nat) where
  /-- The rows from top to bottom; the most significant bit of each is leftmost. -/
  rows : Vector (BitVec width) height
  deriving DecidableEq

namespace Bitmap

variable {width height : Nat}

/-- A row of the picture; outside it, a row with no pixel lit. -/
def row (b : Bitmap width height) (y : Nat) : BitVec width := b.rows.getD y 0

/-- Whether the pixel at column `x` and row `y` is lit.  Outside the picture none
is. -/
def pixel (b : Bitmap width height) (x y : Nat) : Bool := (b.row y).getMsbD x

/-- No pixel lit. -/
def blank : Bitmap width height := ⟨Vector.replicate height 0⟩

/-- The pixels lit in exactly one of two pictures. -/
def xor (a b : Bitmap width height) : Bitmap width height :=
  ⟨Vector.ofFn fun y => a.row y ^^^ b.row y⟩

/-- Whether some pixel is lit in both pictures. -/
def overlaps (a b : Bitmap width height) : Bool :=
  (List.range height).any fun y => a.row y &&& b.row y != 0

/-- A row of bits given by a function of the column. -/
def rowOfFn : (width : Nat) → (Nat → Bool) → BitVec width
  | 0, _ => 0#0
  | w + 1, f => BitVec.cons (f 0) (rowOfFn w fun x => f (x + 1))

/-- The picture given by a function of column and row. -/
def ofFn (width height : Nat) (f : Nat → Nat → Bool) : Bitmap width height :=
  ⟨Vector.ofFn fun y => rowOfFn width fun x => f x y⟩

/-! ## Pixels -/

theorem row_ofFn (f : Fin height → BitVec width) {y : Nat} (h : y < height) :
    (⟨Vector.ofFn f⟩ : Bitmap width height).row y = f ⟨y, h⟩ := by
  simp [row, Vector.getD, h]

theorem row_of_le (b : Bitmap width height) {y : Nat} (h : height ≤ y) : b.row y = 0 := by
  simp [row, Vector.getD, Nat.not_lt.mpr h]

@[simp] theorem row_xor (a b : Bitmap width height) (y : Nat) :
    (a.xor b).row y = a.row y ^^^ b.row y := by
  by_cases h : y < height
  · exact row_ofFn _ h
  · rw [row_of_le _ (Nat.le_of_not_lt h), row_of_le a (Nat.le_of_not_lt h),
      row_of_le b (Nat.le_of_not_lt h)]
    simp

@[simp] theorem pixel_xor (a b : Bitmap width height) (x y : Nat) :
    (a.xor b).pixel x y = (a.pixel x y ^^ b.pixel x y) := by
  simp [pixel]

/-- Pictures are equal if their rows are. -/
theorem ext_row {a b : Bitmap width height} (h : ∀ y, y < height → a.row y = b.row y) :
    a = b := by
  cases a with
  | mk as =>
    cases b with
    | mk bs =>
      congr 1
      apply Vector.ext
      intro y hy
      simpa [row, Vector.getD, hy] using h y hy

/-- Pictures are equal if their pixels are. -/
theorem ext_pixel {a b : Bitmap width height}
    (h : ∀ x y, x < width → y < height → a.pixel x y = b.pixel x y) : a = b :=
  ext_row fun y hy => BitVec.eq_of_getMsbD_eq fun x hx => h x y hx hy

/-- Two pictures overlap exactly if some pixel is lit in both. -/
theorem overlaps_eq_true_iff (a b : Bitmap width height) :
    a.overlaps b = true ↔
      ∃ x y, x < width ∧ y < height ∧ a.pixel x y = true ∧ b.pixel x y = true := by
  simp only [overlaps, List.any_eq_true, List.mem_range, bne_iff_ne, ne_eq]
  constructor
  · rintro ⟨y, hy, hne⟩
    refine Classical.byContradiction fun hno => hne (BitVec.eq_of_getMsbD_eq fun x hx => ?_)
    have hlit : ¬(a.pixel x y = true ∧ b.pixel x y = true) :=
      fun h => hno ⟨x, y, hx, hy, h⟩
    rw [BitVec.getMsbD_and]
    simpa [pixel] using hlit
  · rintro ⟨x, y, _, hy, ha, hb⟩
    refine ⟨y, hy, fun h => ?_⟩
    have hxy : (a.row y &&& b.row y).getMsbD x = true := by
      rw [BitVec.getMsbD_and]
      exact Bool.and_eq_true_iff.mpr ⟨ha, hb⟩
    rw [h] at hxy
    simp at hxy

end Bitmap

/-! ## The screen -/

/-- The width of the screen. -/
def screenWidth : Nat := 64

/-- The height of the screen. -/
def screenHeight : Nat := 32

/-- The screen. -/
abbrev Screen := Bitmap 64 32

/-! ## Sprites -/

namespace Sprite

/-- One row of a sprite that begins in column `ox`, cut off at the right edge. -/
def rowAt (ox : Nat) (b : UInt8) : BitVec 64 := (b.toBitVec ++ 0#56) >>> ox

/-- The picture of a sprite whose top left corner is at column `ox` and row `oy`,
cut off at the right and bottom edges. -/
def mask (ox oy : Nat) (rows : List UInt8) : Screen :=
  ⟨Vector.ofFn fun y =>
    if oy ≤ y.val then (rows[y.val - oy]?.map (rowAt ox)).getD 0 else 0⟩

/-- A row of a sprite is lit where its byte is, so many columns further right. -/
theorem getMsbD_rowAt (ox : Nat) (b : UInt8) (x : Nat) :
    (rowAt ox b).getMsbD x =
      (decide (x < 64 ∧ ox ≤ x ∧ x < ox + 8) && b.toBitVec.getMsbD (x - ox)) := by
  -- before it is moved, only the first eight columns can be lit
  have happend : ∀ i, (b.toBitVec ++ 0#56 : BitVec 64).getMsbD i = b.toBitVec.getMsbD i := by
    intro i
    refine BitVec.getMsbD_append.trans ?_
    by_cases h : 8 ≤ i
    · simp [h, BitVec.getMsbD_of_ge]
    · simp [h]
  rw [rowAt, BitVec.getMsbD_ushiftRight, happend]
  by_cases hw : x < ox + 8
  · by_cases hx : x < 64 <;> by_cases ho : ox ≤ x <;> simp [hw, hx, ho]
  · have : b.toBitVec.getMsbD (x - ox) = false := BitVec.getMsbD_of_ge _ _ (by omega)
    simp [hw, this]

/-- A pixel of a placed sprite is the bit of the byte in its row, as far as the sprite
and the screen reach. -/
theorem pixel_mask (ox oy : Nat) (rows : List UInt8) {x y : Nat} (hx : x < 64) (hy : y < 32) :
    (mask ox oy rows).pixel x y =
      (decide (oy ≤ y ∧ ox ≤ x ∧ x < ox + 8) &&
        ((rows[y - oy]?).map fun b => b.toBitVec.getMsbD (x - ox)).getD false) := by
  rw [Bitmap.pixel, mask, Bitmap.row_ofFn _ hy]
  by_cases h : oy ≤ y
  · cases rows[y - oy]? with
    | none => simp [h]
    | some b => simp [h, getMsbD_rowAt, hx]
  · simp [h]

end Sprite

end ChipEight
