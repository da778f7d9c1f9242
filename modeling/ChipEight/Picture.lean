import ChipEight.Bitmap
import ChipEight.Room
import ChipEight.Text.Lengths
import ChipEight.Text.Quoted

/-! # Showing a bitmap

A bitmap is shown in two ways: as a picture in two colors, in which every pixel becomes a
square of `scale` by `scale` points, and as lines of text, in which every pixel becomes a
cell.  Both go row by row.

A picture keeps the colors of the pixels and the scale, so that a large one is no more work
than a small one.  Its points are the view `Picture.rows`, in which `stretch` repeats what has
to be repeated, so that every point has the color of the pixel whose square it lies in
(`Bitmap.point?_paint`).
-/
namespace ChipEight

/-! ## Colors -/

/-- A color. -/
structure Color where
  /-- The red part. -/
  red : UInt8
  /-- The green part. -/
  green : UInt8
  /-- The blue part. -/
  blue : UInt8
  deriving DecidableEq, Repr

namespace Color

/-- The parts of a color. -/
def parts (c : Color) : List UInt8 := [c.red, c.green, c.blue]

end Color

/-- The named pairs of colors. -/
inductive ColorScheme where
  /-- Green on black. -/
  | classic
  /-- Amber on black. -/
  | amber
  /-- White on black. -/
  | white
  /-- Cyan on dark blue. -/
  | blue
  /-- Yellow on purple. -/
  | retro
  deriving DecidableEq, Repr

namespace ColorScheme

/-- The schemes, in the order in which they are listed. -/
def all : List ColorScheme := [classic, amber, white, blue, retro]

/-- The name of a scheme. -/
def name : ColorScheme → String
  | classic => "classic"
  | amber => "amber"
  | white => "white"
  | blue => "blue"
  | retro => "retro"

/-- The color of lit pixels. -/
def on : ColorScheme → Color
  | classic => ⟨0, 255, 0⟩
  | amber => ⟨255, 176, 0⟩
  | white => ⟨255, 255, 255⟩
  | blue => ⟨0, 255, 255⟩
  | retro => ⟨255, 255, 0⟩

/-- The color of all other pixels. -/
def off : ColorScheme → Color
  | blue => ⟨0, 0, 64⟩
  | retro => ⟨64, 0, 64⟩
  | _ => ⟨0, 0, 0⟩

/-- The scheme of a given name. -/
def ofName? (name : String) : Option ColorScheme := all.find? fun s => s.name == name

theorem ofName?_name (s : ColorScheme) : ofName? s.name = some s := by
  cases s <;> decide

/-- The names of the schemes, quoted and separated by commas. -/
def names : String := ", ".intercalate (all.map fun s => Text.quote s.name)

end ColorScheme

/-! ## Pictures -/

/-- Why a bitmap cannot be shown as asked. -/
inductive PictureError where
  /-- There is no scheme of this name. -/
  | unknownScheme (name : String)
  /-- A pixel would have no points. -/
  | scale (scale : Int)
  /-- There are no columns, and so no telling how many rows there are. -/
  | noColumns
  /-- A part of a color is not a byte. -/
  | component (value : Int)
  /-- So many pixels were to have a color with neither one part nor three. -/
  | parts (count pixels : Nat)
  /-- There is no room for the points. -/
  | noRoom (why : Shortage)
  deriving DecidableEq, Repr

/-- The sentence for why a bitmap cannot be shown. -/
def PictureError.message : PictureError → String
  | unknownScheme name =>
    "Unknown color scheme '" ++ name ++ "'. Available: [" ++ ColorScheme.names ++ "]"
  | scale s => "scale must be a positive integer, got " ++ toString s
  | noColumns => "a picture needs at least one column"
  | component v => "color component " ++ toString v ++ " is not a byte"
  | parts n pixels =>
    "shape mismatch: value array of shape " ++ Text.lengths [n]
      ++ " could not be broadcast to indexing result of shape (" ++ toString pixels ++ ",3)"
  | noRoom why => why.text

/-- The scheme of a given name, or the refusal of the name. -/
def ColorScheme.ofName (name : String) : Except PictureError ColorScheme :=
  match ofName? name with
  | some s => .ok s
  | none => .error (.unknownScheme name)

/-- A part of a color, if it is a byte. -/
def Color.part (v : Int) : Except PictureError UInt8 :=
  if 0 ≤ v ∧ v < 256 then .ok (UInt8.ofNat v.toNat) else .error (.component v)

/-- The color with the given parts, for a number of pixels; one part alone makes a gray.  The
first part that is not a byte is refused, and only then the number of parts. -/
def Color.ofParts (parts : List Int) (pixels : Nat) : Except PictureError Color := do
  match ← parts.mapM part with
  | [r, g, b] => return ⟨r, g, b⟩
  | [gray] => return ⟨gray, gray, gray⟩
  | bytes => .error (.parts bytes.length pixels)

/-- Every element `times` times in a row. -/
def stretch {α : Type} (times : Nat) (xs : List α) : List α := xs.flatMap (List.replicate times)

theorem stretch_cons {α : Type} (times : Nat) (x : α) (xs : List α) :
    stretch times (x :: xs) = List.replicate times x ++ stretch times xs := rfl

theorem length_stretch {α : Type} (times : Nat) (xs : List α) :
    (stretch times xs).length = xs.length * times := by
  induction xs with
  | nil => simp [stretch]
  | cons x xs ih =>
    rw [stretch_cons, List.length_append, List.length_replicate, ih, List.length_cons,
      Nat.succ_mul, Nat.add_comm]

/-- Place `i` of a stretched list holds what was at place `i / times`. -/
theorem getElem?_stretch {α : Type} {times : Nat} (h : 0 < times) (xs : List α) (i : Nat) :
    (stretch times xs)[i]? = xs[i / times]? := by
  induction xs generalizing i with
  | nil => simp [stretch]
  | cons x xs ih =>
    rw [stretch_cons]
    by_cases hi : i < times
    · rw [List.getElem?_append_left (by simpa using hi), Nat.div_eq_of_lt hi]
      simp [hi]
    · have hle : times ≤ i := Nat.le_of_not_lt hi
      rw [List.getElem?_append_right (by simpa using hle), List.length_replicate, ih,
        Nat.div_eq_sub_div h hle]
      rfl

/-- The sum of some numbers. -/
def addUp (ns : List Nat) : Nat := ns.foldr Nat.add 0

/-- A picture: pixels in colors, each a square of points. -/
structure Picture where
  /-- The number of points in a row. -/
  width : Nat
  /-- The number of rows of points. -/
  height : Nat
  /-- The number of points along the side of a pixel. -/
  scale : Nat
  /-- The rows of pixels, from top to bottom and from left to right. -/
  pixels : List (List Color)
  deriving DecidableEq, Repr

namespace Picture

/-- The rows of points, from top to bottom and from left to right. -/
def rows (p : Picture) : List (List Color) := stretch p.scale (p.pixels.map (stretch p.scale))

/-- The point in row `r` and column `c`. -/
def point? (p : Picture) (r c : Nat) : Option Color := (p.rows[r]?).bind fun row => row[c]?

end Picture

/-- Squares of points that are asked for in the place of pixels. -/
structure Enlargement where
  /-- The number of pixels in a row. -/
  width : Nat
  /-- The number of rows of pixels. -/
  height : Nat
  /-- The number of points along the side of a square. -/
  scale : Int
  deriving DecidableEq, Repr

/-- Room for squares whose sides can be counted in 64 bits, the sign included. -/
def Room.counted : Room Enlargement where
  fits e := e.scale < 9223372036854775808
  shortage _ := ⟨"Overflow", "the scale does not fit into 64 bits"⟩

namespace Bitmap

variable {width height : Nat}

/-- The pixels of a row from left to right. -/
def rowPixels (b : Bitmap width height) (y : Nat) : List Bool :=
  (List.range width).map fun x => b.pixel x y

/-- The rows of pixels from top to bottom. -/
def pixelRows (b : Bitmap width height) : List (List Bool) := (List.range height).map b.rowPixels

/-- The bitmap in two colors, every pixel as a square of `scale` points a side. -/
def paint (b : Bitmap width height) (scale : Nat) (on off : Color) : Picture where
  width := width * scale
  height := height * scale
  scale := scale
  pixels := b.pixelRows.map fun row => row.map fun lit => if lit then on else off

theorem getElem?_rowPixels (b : Bitmap width height) (y : Nat) {x : Nat} (h : x < width) :
    (b.rowPixels y)[x]? = some (b.pixel x y) := by
  simp [rowPixels, h]

theorem getElem?_pixelRows (b : Bitmap width height) {y : Nat} (h : y < height) :
    b.pixelRows[y]? = some (b.rowPixels y) := by
  simp [pixelRows, h]

/-- A point of the picture has the color of the pixel whose square it lies in. -/
theorem point?_paint (b : Bitmap width height) {scale : Nat} (on off : Color) {r c : Nat}
    (hr : r < height * scale) (hc : c < width * scale) :
    (b.paint scale on off).point? r c =
      some (if b.pixel (c / scale) (r / scale) then on else off) := by
  -- with a scale of zero the picture has no points
  have hs : 0 < scale := by
    rcases Nat.eq_zero_or_pos scale with h | h
    · simp [h] at hr
    · exact h
  have hr' : r / scale < height := Nat.div_lt_of_lt_mul (by rwa [Nat.mul_comm])
  have hc' : c / scale < width := Nat.div_lt_of_lt_mul (by rwa [Nat.mul_comm])
  simp [Picture.point?, Picture.rows, paint, getElem?_stretch hs, getElem?_pixelRows b hr',
    getElem?_rowPixels b _ hc']

/-- The bitmap in two colors, if there is room for its points.  To take every pixel once asks for
none. -/
def enlarge (room : Room Enlargement) (b : Bitmap width height) (scale : Int) (on off : Color) :
    Except PictureError Picture := do
  if 1 < scale then (room.find ⟨width, height, scale⟩).mapError .noRoom
  return b.paint scale.toNat on off

/-- There is room for the points of a bitmap of this size. -/
def HasRoom (room : Room Enlargement) (width height : Nat) (scale : Int) : Prop :=
  1 < scale → room.fits ⟨width, height, scale⟩ = true

instance (room : Room Enlargement) (width height : Nat) (scale : Int) :
    Decidable (HasRoom room width height scale) := inferInstanceAs (Decidable (_ → _))

theorem enlarge_of_hasRoom {room : Room Enlargement} {scale : Int} (b : Bitmap width height)
    (h : HasRoom room width height scale) (on off : Color) :
    b.enlarge room scale on off = .ok (b.paint scale.toNat on off) := by
  unfold enlarge
  by_cases hscale : 1 < scale
  · rw [if_pos hscale, Room.find_of_fits (h hscale)]
    rfl
  · rw [if_neg hscale]
    rfl

theorem enlarge_of_not_hasRoom {room : Room Enlargement} {scale : Int} (b : Bitmap width height)
    (h : ¬HasRoom room width height scale) (on off : Color) :
    b.enlarge room scale on off = .error (.noRoom (room.shortage ⟨width, height, scale⟩)) := by
  obtain ⟨hscale, hfull⟩ := Classical.not_imp.mp h
  rw [enlarge, if_pos hscale, Room.find_of_not_fits hfull]
  rfl

/-- The number of pixels that are lit, or of those that are not. -/
def count (b : Bitmap width height) (lit : Bool) : Nat := addUp (b.pixelRows.map (·.count lit))

/-- The bitmap in two colors given by their parts.  The scale is checked first, then whether
there are any columns, then the color of lit pixels, then the other, and last whether there is
room for the points. -/
def render (room : Room Enlargement) (b : Bitmap width height) (scale : Int) (on off : List Int) :
    Except PictureError Picture := do
  if scale < 1 then .error (.scale scale)
  if width = 0 then .error .noColumns
  let on ← Color.ofParts on (b.count true)
  let off ← Color.ofParts off (b.count false)
  b.enlarge room scale on off

/-- The bitmap as lines of text, one for each row, with a cell for each pixel. -/
def toText (b : Bitmap width height) (on off : String) : String :=
  "\n".intercalate (b.pixelRows.map fun row =>
    String.join (row.map fun lit => if lit then on else off))

end Bitmap

/-- How a lit pixel is shown in text. -/
def litCell : String := "██"

/-- How a pixel that is not lit is shown in text. -/
def unlitCell : String := "  "

end ChipEight
