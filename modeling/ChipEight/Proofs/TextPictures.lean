import ChipEight.Proofs.ScaledPictures
import Mathlib.Logic.Basic

/-! # Pictures in text

`Bitmap.toText` writes a cell for every pixel, and between the rows a line break.  As long as the
two cells have the same length and no line break in them, the text can be taken apart again:
`Text.lines` finds the rows, and `Text.cell` the cells of a row, by their length alone
(`cell_of_lines`).  So the text determines the bitmap, its size included, and shows what a picture
in two colors shows.
-/
namespace ChipEight

/-! ## Cells of a row -/

/-- Pieces of one length have that length each. -/
theorem length_flatten_of_length {α : Type} {pieces : List (List α)} {n : Nat}
    (h : ∀ piece ∈ pieces, piece.length = n) : pieces.flatten.length = pieces.length * n := by
  induction pieces with
  | nil => simp
  | cons piece pieces ih =>
    have hpiece := h piece (List.mem_cons_self ..)
    have hrest := ih fun p hp => h p (List.mem_cons_of_mem piece hp)
    rw [List.flatten_cons, List.length_append, hpiece, hrest, List.length_cons, Nat.succ_mul,
      Nat.add_comm]

/-- Pieces of one length can be cut out again. -/
theorem take_drop_flatten {α : Type} {pieces : List (List α)} {n : Nat}
    (h : ∀ piece ∈ pieces, piece.length = n) {i : Nat} {piece : List α}
    (hi : pieces[i]? = some piece) : (pieces.flatten.drop (i * n)).take n = piece := by
  induction pieces generalizing i with
  | nil => cases hi
  | cons first pieces ih =>
    have hfirst := h first (List.mem_cons_self ..)
    have hrest : ∀ p ∈ pieces, p.length = n := fun p hp => h p (List.mem_cons_of_mem first hp)
    cases i with
    | zero =>
      obtain rfl := Option.some.inj hi
      rw [Nat.zero_mul, List.drop_zero, List.flatten_cons, List.take_left' hfirst]
    | succ i =>
      have hdrop : (first :: pieces).flatten.drop ((i + 1) * n) = pieces.flatten.drop (i * n) := by
        rw [List.flatten_cons, Nat.succ_mul, Nat.add_comm, ← List.drop_drop, List.drop_left' hfirst]
      rw [hdrop]
      exact ih hrest hi

namespace Text

/-- The lines of a text. -/
def lines (s : String) : List String := (s.split '\n').toList.map (·.copy)

/-- Cell `x` of a line, in which every cell has so many characters. -/
def cell (length : Nat) (line : String) (x : Nat) : String :=
  String.ofList ((line.toList.drop (x * length)).take length)

theorem lines_intercalate {rows : List String} (hne : rows ≠ [])
    (h : ∀ row ∈ rows, '\n' ∉ row.toList) : lines ("\n".intercalate rows) = rows := by
  have hsplit := String.toList_split_intercalate h
  rwa [if_neg hne] at hsplit

end Text

namespace Bitmap

/-- A row of pixels in text. -/
def rowText (on off : String) (row : List Bool) : String :=
  String.join (row.map fun lit => if lit then on else off)

section

variable {on off : String}

theorem toList_rowText (row : List Bool) :
    (rowText on off row).toList =
      (row.map fun lit => (if lit then on else off).toList).flatten := by
  rw [rowText, String.toList_join, List.flatMap_def, List.map_map]
  rfl

/-- With no line break in the cells there is none in a row. -/
theorem newline_notMem_rowText (hon : '\n' ∉ on.toList) (hoff : '\n' ∉ off.toList)
    (row : List Bool) : '\n' ∉ (rowText on off row).toList := by
  intro hmem
  rw [toList_rowText] at hmem
  obtain ⟨piece, hpiece, hmem⟩ := List.mem_flatten.mp hmem
  obtain ⟨lit, -, rfl⟩ := List.mem_map.mp hpiece
  cases lit with
  | true => exact hon hmem
  | false => exact hoff hmem

theorem length_of_mem_cells (hlength : on.length = off.length) {row : List Bool} :
    ∀ piece ∈ row.map fun lit => (if lit then on else off).toList, piece.length = on.length := by
  intro piece hpiece
  obtain ⟨lit, -, rfl⟩ := List.mem_map.mp hpiece
  cases lit with
  | true => exact String.length_toList
  | false => exact String.length_toList.trans hlength.symm

theorem length_rowText (hlength : on.length = off.length) (row : List Bool) :
    (rowText on off row).length = row.length * on.length := by
  rw [← String.length_toList, toList_rowText,
    length_flatten_of_length (length_of_mem_cells hlength), List.length_map]

theorem cell_rowText (hlength : on.length = off.length) {row : List Bool} {x : Nat} {lit : Bool}
    (h : row[x]? = some lit) :
    Text.cell on.length (rowText on off row) x = if lit then on else off := by
  have hpiece : (row.map fun lit => (if lit then on else off).toList)[x]? =
      some (if lit then on else off).toList := by
    rw [List.getElem?_map, h]
    rfl
  rw [Text.cell, toList_rowText, take_drop_flatten (length_of_mem_cells hlength) hpiece,
    String.ofList_toList]

/-! ## The lines of a bitmap -/

variable {width height : Nat} (b : Bitmap width height)

theorem lines_toText (hon : '\n' ∉ on.toList) (hoff : '\n' ∉ off.toList) (hh : 0 < height) :
    Text.lines (b.toText on off) = b.pixelRows.map (rowText on off) := by
  refine Text.lines_intercalate ?_ fun line hline => ?_
  · refine List.ne_nil_of_length_pos ?_
    simpa [pixelRows] using hh
  · obtain ⟨row, -, rfl⟩ := List.mem_map.mp hline
    exact newline_notMem_rowText hon hoff row

theorem length_lines_toText (hon : '\n' ∉ on.toList) (hoff : '\n' ∉ off.toList)
    (hh : 0 < height) : (Text.lines (b.toText on off)).length = height := by
  rw [b.lines_toText hon hoff hh]
  simp [pixelRows]

theorem length_of_mem_lines_toText (hlength : on.length = off.length) (hon : '\n' ∉ on.toList)
    (hoff : '\n' ∉ off.toList) (hh : 0 < height) {line : String}
    (hline : line ∈ Text.lines (b.toText on off)) : line.length = width * on.length := by
  rw [b.lines_toText hon hoff hh] at hline
  obtain ⟨row, hrow, rfl⟩ := List.mem_map.mp hline
  obtain ⟨y, -, rfl⟩ := List.mem_map.mp hrow
  rw [length_rowText hlength]
  simp [rowPixels]

/-- **Every pixel is a cell of the text.** -/
theorem cell_of_lines (hlength : on.length = off.length) (hon : '\n' ∉ on.toList)
    (hoff : '\n' ∉ off.toList) {x y : Nat} (hx : x < width) (hy : y < height) :
    ∃ line, (Text.lines (b.toText on off))[y]? = some line ∧
      Text.cell on.length line x = if b.pixel x y then on else off := by
  refine ⟨rowText on off (b.rowPixels y), ?_, cell_rowText hlength (b.getElem?_rowPixels y hx)⟩
  rw [b.lines_toText hon hoff (by omega), List.getElem?_map, b.getElem?_pixelRows hy]
  rfl

/-! ## What the text determines -/

theorem length_pos_of_ne (hne : on ≠ off) (hlength : on.length = off.length) : 0 < on.length := by
  refine Nat.pos_of_ne_zero fun hzero => hne ?_
  have hon := String.length_eq_zero_iff.mp hzero
  have hoff := String.length_eq_zero_iff.mp (hlength ▸ hzero)
  rw [hon, hoff]

/-- Bitmaps with one text are of one size, and the same. -/
theorem eq_of_toText_eq (hne : on ≠ off) (hlength : on.length = off.length)
    (hon : '\n' ∉ on.toList) (hoff : '\n' ∉ off.toList) (hh : 0 < height)
    {width' height' : Nat} {b' : Bitmap width' height'} (hh' : 0 < height')
    (h : b'.toText on off = b.toText on off) :
    width' = width ∧ height' = height ∧ ∀ x y, b'.pixel x y = b.pixel x y := by
  have hlines := b.length_lines_toText hon hoff hh
  have hlines' := b'.length_lines_toText hon hoff hh'
  rw [h, hlines] at hlines'
  obtain rfl : height' = height := hlines'.symm
  -- a line tells how many cells there are
  obtain ⟨line, hline⟩ := List.exists_mem_of_length_pos (hlines.symm ▸ hh)
  have hwidth := b.length_of_mem_lines_toText hlength hon hoff hh hline
  rw [← h] at hline
  rw [b'.length_of_mem_lines_toText hlength hon hoff hh hline] at hwidth
  obtain rfl : width' = width :=
    Nat.eq_of_mul_eq_mul_right (length_pos_of_ne hne hlength) hwidth
  have hsame : b' = b := by
    refine ext_pixel fun x y hx hy => ?_
    obtain ⟨line, hline, hcell⟩ := b.cell_of_lines hlength hon hoff hx hy
    obtain ⟨line', hline', hcell'⟩ := b'.cell_of_lines hlength hon hoff hx hy
    rw [h, hline] at hline'
    obtain rfl := Option.some.inj hline'
    have hlit : b.pixel x y = true ↔ Text.cell on.length line x = on := by
      rw [hcell, hne.ite_eq_left_iff]
    have hlit' : b'.pixel x y = true ↔ Text.cell on.length line x = on := by
      rw [hcell', hne.ite_eq_left_iff]
    exact Bool.eq_iff_iff.mpr (hlit'.trans hlit.symm)
  exact ⟨rfl, rfl, fun x y => by rw [hsame]⟩

/-- **The text determines the bitmap.**

Of two different cells of one length, without line breaks, the lines are as many as the rows, each
of as many cells as there are columns, and a cell is that of lit pixels exactly if its pixel is lit.
So no other bitmap has the text.  A cell is that of lit pixels exactly if the first point of the
pixel's square has the color of lit pixels, in a picture of any scale at which there is room for
one; and if there is no room, there is no picture, but the shortage. -/
theorem toText_determines (room : Room Enlargement) (hne : on ≠ off)
    (hlength : on.length = off.length) (hon : '\n' ∉ on.toList) (hoff : '\n' ∉ off.toList)
    (hw : 0 < width) (hh : 0 < height) :
    (Text.lines (b.toText on off)).length = height ∧
    (∀ line ∈ Text.lines (b.toText on off), line.length = width * on.length) ∧
    (∀ x y, x < width → y < height → ∃ line, (Text.lines (b.toText on off))[y]? = some line ∧
      (b.pixel x y = true ↔ Text.cell on.length line x = on)) ∧
    (∀ (width' height' : Nat) (b' : Bitmap width' height'), 0 < width' → 0 < height' →
      b'.toText on off = b.toText on off →
      width' = width ∧ height' = height ∧ ∀ x y, b'.pixel x y = b.pixel x y) ∧
    (∀ scale : Nat, 1 ≤ scale → ∀ lit unlit : Color, lit ≠ unlit →
      (HasRoom room width height scale →
        ∃ p, b.render room scale lit.values unlit.values = .ok p ∧
          ∀ x y, x < width → y < height → ∃ line, (Text.lines (b.toText on off))[y]? = some line ∧
            (Text.cell on.length line x = on ↔ p.point? (y * scale) (x * scale) = some lit)) ∧
      (¬HasRoom room width height scale →
        b.render room scale lit.values unlit.values =
          .error (.noRoom (room.shortage ⟨width, height, scale⟩)))) := by
  refine ⟨b.length_lines_toText hon hoff hh,
    fun line hline => b.length_of_mem_lines_toText hlength hon hoff hh hline,
    fun x y hx hy => ?_, fun width' height' b' _ hh' h => ?_,
    fun scale hscale lit unlit hcolors => ⟨fun hroom => ?_,
      fun hfull => b.render_of_not_hasRoom room hscale hw hfull lit unlit⟩⟩
  · obtain ⟨line, hline, hcell⟩ := b.cell_of_lines hlength hon hoff hx hy
    exact ⟨line, hline, by rw [hcell, hne.ite_eq_left_iff]⟩
  · exact b.eq_of_toText_eq hne hlength hon hoff hh hh' h
  · obtain ⟨p, hp, hshows⟩ := b.render_of_hasRoom room hscale hw hroom lit unlit
    refine ⟨p, hp, fun x y hx hy => ?_⟩
    obtain ⟨line, hline, hcell⟩ := b.cell_of_lines hlength hon hoff hx hy
    refine ⟨line, hline, ?_⟩
    have hpoint := hshows.point (y * scale) (x * scale)
      (Nat.mul_lt_mul_of_pos_right hy hscale) (Nat.mul_lt_mul_of_pos_right hx hscale)
    rw [Nat.mul_div_cancel y hscale, Nat.mul_div_cancel x hscale] at hpoint
    rw [hcell, hpoint, hne.ite_eq_left_iff, Option.some.injEq, hcolors.ite_eq_left_iff]

/-- Two pixels, of which the right one is lit, in dots and crosses: one line of text, which no other
bitmap has.  At a scale of three there is a picture, and it agrees. -/
theorem toText_determines_sample :
    let b : Bitmap 2 1 := .ofFn 2 1 fun x _ => x == 1
    b.toText "#" "." = ".#" ∧ (Text.lines (b.toText "#" ".")).length = 1 ∧
      (∃ line, (Text.lines (b.toText "#" "."))[0]? = some line ∧ Text.cell 1 line 1 = "#") ∧
      (∀ (width height : Nat) (b' : Bitmap width height), 0 < width → 0 < height →
        b'.toText "#" "." = b.toText "#" "." →
        width = 2 ∧ height = 1 ∧ ∀ x y, b'.pixel x y = b.pixel x y) ∧
      ∃ p, b.render .counted 3 [0, 255, 0] [0, 0, 0] = .ok p ∧
        p.point? 0 3 = some ⟨0, 255, 0⟩ := by
  intro b
  obtain ⟨hlines, -, hpixels, hunique, hpictures⟩ :=
    b.toText_determines .counted (show "#" ≠ "." by decide) rfl (by decide) (by decide) (by decide)
      (by decide)
  obtain ⟨line, hline, hcell⟩ := hpixels 1 0 (by decide) (by decide)
  have hlit : Text.cell 1 line 1 = "#" := hcell.mp (by decide)
  obtain ⟨p, hp, hpoints⟩ :=
    (hpictures 3 (by decide) ⟨0, 255, 0⟩ ⟨0, 0, 0⟩ (by decide)).1 fun _ => rfl
  obtain ⟨line', hline', hpoint⟩ := hpoints 1 0 (by decide) (by decide)
  obtain rfl := Option.some.inj (hline'.symm.trans hline)
  exact ⟨by decide +kernel, hlines, ⟨line', hline', hlit⟩, hunique, p, hp, hpoint.mp hlit⟩

/-- A scale of two to the 63 is positive, and the cell of the lit pixel is that of lit pixels, but
where such a scale cannot be counted there is no picture to have a point. -/
theorem toText_without_picture :
    let b : Bitmap 1 1 := .ofFn 1 1 fun _ _ => true
    (1 : Int) ≤ 9223372036854775808 ∧ b.toText "#" "." = "#" ∧
      b.render .counted 9223372036854775808 [0, 255, 0] [0, 0, 0] =
        .error (.noRoom (Room.counted.shortage ⟨1, 1, 9223372036854775808⟩)) ∧
      ¬∃ p, b.render .counted 9223372036854775808 [0, 255, 0] [0, 0, 0] = .ok p ∧
        p.point? 0 0 = some ⟨0, 255, 0⟩ := by
  intro b
  have hrefused : b.render .counted 9223372036854775808 [0, 255, 0] [0, 0, 0] =
      .error (.noRoom (Room.counted.shortage ⟨1, 1, 9223372036854775808⟩)) := rfl
  refine ⟨by decide, by decide +kernel, hrefused, ?_⟩
  rintro ⟨p, hp, -⟩
  rw [hrefused] at hp
  cases hp

end

end Bitmap

end ChipEight
