/-!
# Canvases

A canvas is a rectangle of colored pixels, kept row by row.  Setting a pixel outside of it
is refused.
-/

namespace FrameCourier.Picture

/-- A color by its channels. -/
structure Color where
  red : UInt8
  green : UInt8
  blue : UInt8
  deriving DecidableEq, Repr, Inhabited

/-- The channels in base sixteen, two digits each. -/
def Color.hex (color : Color) : String :=
  String.ofList ([color.red, color.green, color.blue].flatMap fun channel =>
    Nat.toDigits 16 (channel.toNat / 16) ++ Nat.toDigits 16 (channel.toNat % 16))

/-- A rectangle of pixels, the rows from top to bottom. -/
structure Canvas where
  width : Nat
  height : Nat
  pixels : Array Color
  size_eq : pixels.size = width * height

namespace Canvas

/-- A canvas of one color. -/
def filled (width height : Nat) (color : Color) : Canvas :=
  ⟨width, height, Array.replicate (width * height) color, Array.size_replicate⟩

/-- The canvas of the given pixels, if they fill it. -/
def ofPixels? (width height : Nat) (pixels : Array Color) : Option Canvas :=
  if h : pixels.size = width * height then some ⟨width, height, pixels, h⟩ else none

/-- The color of a pixel; none outside of the canvas. -/
def pixel? (canvas : Canvas) (x y : Nat) : Option Color :=
  if x < canvas.width ∧ y < canvas.height then canvas.pixels[y * canvas.width + x]? else none

/-- The canvas with one pixel set; none if the pixel lies outside of it. -/
def set? (canvas : Canvas) (x y : Nat) (color : Color) : Option Canvas :=
  if x < canvas.width ∧ y < canvas.height then
    some { canvas with
      pixels := canvas.pixels.setIfInBounds (y * canvas.width + x) color
      size_eq := by rw [Array.size_setIfInBounds, canvas.size_eq] }
  else none

/-- Setting a pixel is refused exactly outside of the canvas. -/
theorem set?_eq_none_iff {canvas : Canvas} {x y : Nat} {color : Color} :
    canvas.set? x y color = none ↔ ¬(x < canvas.width ∧ y < canvas.height) := by
  unfold set?
  split <;> simp [*]

theorem width_set? {canvas next : Canvas} {x y : Nat} {color : Color}
    (success : canvas.set? x y color = some next) : next.width = canvas.width := by
  unfold set? at success
  split at success
  · cases success
    rfl
  · cases success

theorem height_set? {canvas next : Canvas} {x y : Nat} {color : Color}
    (success : canvas.set? x y color = some next) : next.height = canvas.height := by
  unfold set? at success
  split at success
  · cases success
    rfl
  · cases success

/-- The place of a pixel is inside of the pixels. -/
theorem place_lt {width height x y : Nat} (hx : x < width) (hy : y < height) :
    y * width + x < width * height :=
  calc y * width + x < y * width + width := Nat.add_lt_add_left hx _
    _ = (y + 1) * width := (Nat.succ_mul y width).symm
    _ ≤ height * width := Nat.mul_le_mul_right width hy
    _ = width * height := Nat.mul_comm height width

/-- The row of the pixel in a place. -/
theorem place_div {width x : Nat} (hx : x < width) (y : Nat) : (y * width + x) / width = y := by
  rw [Nat.mul_comm, Nat.mul_add_div (by omega), Nat.div_eq_of_lt hx, Nat.add_zero]

/-- The column of the pixel in a place. -/
theorem place_mod {width x : Nat} (hx : x < width) (y : Nat) : (y * width + x) % width = x := by
  rw [Nat.mul_comm, Nat.mul_add_mod, Nat.mod_eq_of_lt hx]

/-- Two pixels in one place are the same. -/
theorem place_inj {width x y x' y' : Nat} (hx : x < width) (hx' : x' < width)
    (same : y * width + x = y' * width + x') : x = x' ∧ y = y' :=
  ⟨by rw [← place_mod hx y, same, place_mod hx' y'],
    by rw [← place_div hx y, same, place_div hx' y']⟩

/-- The pixel that was set has the new color. -/
theorem pixel?_set?_self {canvas next : Canvas} {x y : Nat} {color : Color}
    (success : canvas.set? x y color = some next) : next.pixel? x y = some color := by
  unfold set? at success
  split at success
  · next inside =>
    cases success
    have place := place_lt inside.1 inside.2
    simp only [pixel?, inside, and_self, if_true]
    rw [Array.getElem?_setIfInBounds_self_of_lt (by rw [canvas.size_eq]; exact place)]
  · cases success

/-- All other pixels keep their colors. -/
theorem pixel?_set?_of_ne {canvas next : Canvas} {x y : Nat} {color : Color}
    (success : canvas.set? x y color = some next) {x' y' : Nat} (apart : ¬(x = x' ∧ y = y')) :
    next.pixel? x' y' = canvas.pixel? x' y' := by
  unfold set? at success
  split at success
  · next inside =>
    cases success
    simp only [pixel?]
    split
    · next inside' =>
      have places : y * canvas.width + x ≠ y' * canvas.width + x' := fun same =>
        apart (place_inj inside.1 inside'.1 same)
      rw [Array.getElem?_setIfInBounds_ne places]
    · rfl
  · cases success

/-- The canvas with pixels set one after the other. -/
def setAll? (canvas : Canvas) (color : Color) : List (Nat × Nat) → Option Canvas
  | [] => some canvas
  | (x, y) :: rest =>
    match canvas.set? x y color with
    | none => none
    | some canvas => setAll? canvas color rest

/-- The rows of a canvas from top to bottom. -/
def rows (canvas : Canvas) : List (List Color) :=
  (List.range canvas.height).map fun y =>
    (canvas.pixels.extract (y * canvas.width) ((y + 1) * canvas.width)).toList

end Canvas

end FrameCourier.Picture
