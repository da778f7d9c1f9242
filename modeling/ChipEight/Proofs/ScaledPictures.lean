import ChipEight.Picture

/-! # Scaled pictures

`Bitmap.render` makes a picture of a bitmap, with a scale and colors as they were given.
`Picture.Shows` says what the picture is: every pixel is a square of `scale` points a side in one
of two colors, and nothing else is in it.  There is such a picture exactly at the scales at which
there is room for its points (`render_of_hasRoom`, `render_of_not_hasRoom`), and at a scale of one
there always is.

Before there is a picture, the scale has to be positive, and then every part of the colors has to be
a byte, those of the lit pixels first.  Whether a color is used does not matter, nor does how much
room there is.
-/
namespace ChipEight

/-! ## Colors given by their parts -/

namespace Color

/-- The parts of a color as numbers. -/
def values (c : Color) : List Int := c.parts.map fun part => (part.toNat : Int)

theorem part_toNat (p : UInt8) : part (p.toNat : Int) = .ok p := by
  have hp : (0 : Int) ≤ p.toNat ∧ (p.toNat : Int) < 256 := by
    have := p.toNat_lt
    omega
  rw [part, if_pos hp, Int.toNat_natCast, UInt8.ofNat_toNat]

theorem part_of_not_byte {v : Int} (h : ¬(0 ≤ v ∧ v < 256)) : part v = .error (.component v) :=
  if_neg h

theorem ofParts_values (c : Color) (pixels : Nat) : ofParts c.values pixels = .ok c := by
  have hparts : c.values.mapM part = .ok c.parts := by
    simp only [values, parts, List.map_cons, List.map_nil, List.mapM_cons, List.mapM_nil,
      part_toNat]
    rfl
  rw [ofParts, hparts]
  rfl

/-- Three bytes are the parts of a color. -/
theorem exists_values {vs : List Int} (hlength : vs.length = 3) (h : ∀ v ∈ vs, 0 ≤ v ∧ v < 256) :
    ∃ c : Color, c.values = vs := by
  have hbyte : ∀ v ∈ vs, ((UInt8.ofNat v.toNat).toNat : Int) = v := by
    intro v hv
    have hv := h v hv
    rw [UInt8.toNat_ofNat']
    omega
  match vs, hlength with
  | [r, g, b], _ =>
    refine ⟨⟨UInt8.ofNat r.toNat, UInt8.ofNat g.toNat, UInt8.ofNat b.toNat⟩, ?_⟩
    simp only [values, parts, List.map_cons, List.map_nil, hbyte r (by simp), hbyte g (by simp),
      hbyte b (by simp)]

/-- The first part that is not a byte is refused, however many parts there are. -/
theorem ofParts_of_not_byte {before : List Int} (h : ∀ u ∈ before, 0 ≤ u ∧ u < 256) {v : Int}
    (hv : ¬(0 ≤ v ∧ v < 256)) (after : List Int) (pixels : Nat) :
    ofParts (before ++ v :: after) pixels = .error (.component v) := by
  have hparts : (before ++ v :: after).mapM part = .error (.component v) := by
    induction before with
    | nil =>
      rw [List.nil_append, List.mapM_cons, part_of_not_byte hv]
      rfl
    | cons u before ih =>
      have hrest := ih fun u' hu' => h u' (List.mem_cons_of_mem u hu')
      have hu : part u = .ok (UInt8.ofNat u.toNat) := if_pos (h u (List.mem_cons_self ..))
      rw [List.cons_append, List.mapM_cons, hu, hrest]
      rfl
  rw [ofParts, hparts]
  rfl

end Color

/-! ## What a picture shows -/

theorem mem_of_mem_stretch {α : Type} {times : Nat} {xs : List α} {x : α}
    (h : x ∈ stretch times xs) : x ∈ xs := by
  obtain ⟨y, hy, hx⟩ := List.mem_flatMap.mp h
  rw [(List.mem_replicate.mp hx).2]
  exact hy

/-- A picture of a bitmap in two colors, with a square of points for every pixel. -/
structure Picture.Shows {width height : Nat} (p : Picture) (b : Bitmap width height) (scale : Nat)
    (on off : Color) : Prop where
  /-- The number of rows. -/
  height_eq : p.height = height * scale
  /-- The number of points in a row. -/
  width_eq : p.width = width * scale
  /-- There are as many rows. -/
  length_rows : p.rows.length = height * scale
  /-- There are as many points in every row. -/
  length_of_mem_rows : ∀ row ∈ p.rows, row.length = width * scale
  /-- A point has the color of the pixel whose square it lies in. -/
  point : ∀ r c, r < height * scale → c < width * scale →
    p.point? r c = some (if b.pixel (c / scale) (r / scale) then on else off)

namespace Bitmap

variable {width height : Nat} (room : Room Enlargement) (b : Bitmap width height)

theorem paint_shows (scale : Nat) (on off : Color) :
    (b.paint scale on off).Shows b scale on off := by
  refine ⟨rfl, rfl, ?_, fun row hrow => ?_, fun r c hr hc => b.point?_paint on off hr hc⟩
  · simp [Picture.rows, paint, length_stretch, pixelRows]
  · obtain ⟨pixels, hpixels, rfl⟩ := List.mem_map.mp (mem_of_mem_stretch hrow)
    obtain ⟨lit, hlit, rfl⟩ := List.mem_map.mp hpixels
    obtain ⟨y, -, rfl⟩ := List.mem_map.mp hlit
    simp [paint, length_stretch, rowPixels]

/-! ## Whether there is a picture -/

theorem render_of_lt_one {scale : Int} (h : scale < 1) (on off : List Int) :
    b.render room scale on off = .error (.scale scale) := by
  rw [render, if_pos h]
  rfl

theorem render_of_one_le {scale : Int} (h : 1 ≤ scale) (hw : 0 < width) (on off : List Int) :
    b.render room scale on off = (do
      let on ← Color.ofParts on (b.count true)
      let off ← Color.ofParts off (b.count false)
      b.enlarge room scale on off) := by
  rw [render, if_neg (Int.not_lt.mpr h), if_neg (Nat.pos_iff_ne_zero.mp hw)]

theorem render_values {scale : Int} (h : 1 ≤ scale) (hw : 0 < width) (on off : Color) :
    b.render room scale on.values off.values = b.enlarge room scale on off := by
  rw [b.render_of_one_le room h hw, on.ofParts_values, off.ofParts_values]
  rfl

/-- The first part of a color that is not a byte is refused, whatever the bitmap holds and however
large the scale is. -/
theorem render_of_not_byte {scale : Int} (hscale : 1 ≤ scale) (hw : 0 < width)
    {on off before after : List Int} {v : Int} (hon : on.length = 3)
    (hsplit : on ++ off = before ++ v :: after) (h : ∀ u ∈ before, 0 ≤ u ∧ u < 256)
    (hv : ¬(0 ≤ v ∧ v < 256)) : b.render room scale on off = .error (.component v) := by
  rw [b.render_of_one_le room hscale hw]
  rcases List.append_eq_append_iff.mp hsplit with ⟨rest, hbefore, hoff⟩ | ⟨rest, hon', hrest⟩
  · -- all parts of the first color come before
    obtain ⟨c, rfl⟩ := Color.exists_values hon fun u hu => h u (hbefore ▸ List.mem_append_left _ hu)
    have hbytes : ∀ u ∈ rest, 0 ≤ u ∧ u < 256 := fun u hu =>
      h u (hbefore ▸ List.mem_append_right _ hu)
    rw [c.ofParts_values, hoff, Color.ofParts_of_not_byte hbytes hv]
    rfl
  · cases rest with
    | nil =>
      rw [List.append_nil] at hon'
      obtain ⟨c, rfl⟩ := Color.exists_values hon fun u hu => h u (hon' ▸ hu)
      have hoff : off = [] ++ v :: after := hrest.symm
      rw [c.ofParts_values, hoff, Color.ofParts_of_not_byte (fun u hu => by cases hu) hv]
      rfl
    | cons u rest =>
      obtain ⟨rfl, -⟩ := List.cons.inj hrest
      rw [hon', Color.ofParts_of_not_byte h hv]
      rfl

/-- With room for its points, there is a picture. -/
theorem render_of_hasRoom {scale : Nat} (hscale : 1 ≤ scale) (hw : 0 < width)
    (h : HasRoom room width height scale) (on off : Color) :
    ∃ p, b.render room scale on.values off.values = .ok p ∧ p.Shows b scale on off := by
  refine ⟨b.paint scale on off, ?_, b.paint_shows scale on off⟩
  rw [b.render_values room (by omega) hw, b.enlarge_of_hasRoom h, Int.toNat_natCast]

/-- Without room, there is the shortage instead. -/
theorem render_of_not_hasRoom {scale : Nat} (hscale : 1 ≤ scale) (hw : 0 < width)
    (h : ¬HasRoom room width height scale) (on off : Color) :
    b.render room scale on.values off.values =
      .error (.noRoom (room.shortage ⟨width, height, scale⟩)) := by
  rw [b.render_values room (by omega) hw, b.enlarge_of_not_hasRoom h]

/-- **Every pixel is a square of its color.**

A scale below one is refused, whatever else is given.  At any other scale the first part of the
colors that is not a byte is refused, whatever the bitmap holds.  With colors that are colors, there
is a picture of the bitmap if there is room for it, as there always is at a scale of one; and if
there is no room, the shortage is named. -/
theorem render_squares (room : Room Enlargement) (b : Bitmap width height) :
    (∀ scale : Int, scale < 1 → ∀ on off : List Int,
      b.render room scale on off = .error (.scale scale)) ∧
    (0 < width → ∀ scale : Int, 1 ≤ scale →
      ∀ (on off before after : List Int) (v : Int), on.length = 3 →
        on ++ off = before ++ v :: after → (∀ u ∈ before, 0 ≤ u ∧ u < 256) →
        ¬(0 ≤ v ∧ v < 256) → b.render room scale on off = .error (.component v)) ∧
    (0 < width → 0 < height → ∀ scale : Nat, 1 ≤ scale → ∀ on off : Color,
      (HasRoom room width height scale →
        ∃ p, b.render room scale on.values off.values = .ok p ∧ p.Shows b scale on off) ∧
      (¬HasRoom room width height scale →
        b.render room scale on.values off.values =
          .error (.noRoom (room.shortage ⟨width, height, scale⟩)))) ∧
    HasRoom room width height 1 := by
  refine ⟨fun scale h => b.render_of_lt_one room h, ?_, ?_, fun h => absurd h (by decide)⟩
  · intro hw scale hscale on off before after v hon hsplit hbytes hv
    exact b.render_of_not_byte room hscale hw hon hsplit hbytes hv
  · intro hw hh scale hscale on off
    exact ⟨fun h => b.render_of_hasRoom room hscale hw h on off,
      fun h => b.render_of_not_hasRoom room hscale hw h on off⟩

/-- Two pixels at a scale of three.  A color with a part too large is refused at any scale, and at a
scale of two to the 63 there is no room. -/
theorem render_squares_sample :
    let b : Bitmap 2 1 := .ofFn 2 1 fun x _ => x == 1
    b.render .counted 0 [300] [] = .error (.scale 0) ∧
      b.render .counted 9223372036854775808 [0, 255, 0] [0, 256, -1] = .error (.component 256) ∧
      (∃ p, b.render .counted 3 [0, 255, 0] [0, 0, 0] = .ok p ∧
        p.Shows b 3 ⟨0, 255, 0⟩ ⟨0, 0, 0⟩) ∧
      b.render .counted 9223372036854775808 [0, 255, 0] [0, 0, 0] =
        .error (.noRoom (Room.counted.shortage ⟨2, 1, 9223372036854775808⟩)) := by
  intro b
  obtain ⟨hscale, hpart, hpicture, -⟩ := b.render_squares .counted
  obtain ⟨hshows, -⟩ :=
    hpicture (by decide) (by decide) 3 (by decide) ⟨0, 255, 0⟩ ⟨0, 0, 0⟩
  obtain ⟨-, hnone⟩ :=
    hpicture (by decide) (by decide) 9223372036854775808 (by decide) ⟨0, 255, 0⟩ ⟨0, 0, 0⟩
  have hfull : ¬HasRoom .counted 2 1 (9223372036854775808 : Nat) := fun h =>
    absurd (h (by decide)) (by decide)
  refine ⟨hscale 0 (by decide) [300] [], ?_, hshows fun _ => rfl, hnone hfull⟩
  exact hpart (by decide) 9223372036854775808 (by decide) [0, 255, 0] [0, 256, -1] [0, 255, 0, 0]
    [-1] 256 rfl rfl (by decide) (by decide)

/-- A scale of two to the 63 is positive, and where such a scale cannot be counted there is no
picture. -/
theorem render_nothing_without_room :
    let b : Bitmap 1 1 := .ofFn 1 1 fun _ _ => true
    (1 : Int) ≤ 9223372036854775808 ∧
      b.render .counted 9223372036854775808 [0, 255, 0] [0, 0, 0] =
        .error (.noRoom (Room.counted.shortage ⟨1, 1, 9223372036854775808⟩)) ∧
      ¬∃ p, b.render .counted 9223372036854775808 [0, 255, 0] [0, 0, 0] = .ok p ∧
        p.Shows b 9223372036854775808 ⟨0, 255, 0⟩ ⟨0, 0, 0⟩ := by
  intro b
  have hrefused : b.render .counted 9223372036854775808 [0, 255, 0] [0, 0, 0] =
      .error (.noRoom (Room.counted.shortage ⟨1, 1, 9223372036854775808⟩)) := rfl
  refine ⟨by decide, hrefused, ?_⟩
  rintro ⟨p, hp, -⟩
  rw [hrefused] at hp
  cases hp

end Bitmap

end ChipEight
