import FrameCourier.Proofs.Number.Edges
import FrameCourier.Proofs.Number.Whole
import FrameCourier.Proofs.Picture.Drawing

/-!
# Boxes are cut to the canvas

Coordinates are cut to the last pixel of a canvas as numbers of 32 bits, which have no number for
every extent.  Where the last pixel is rounded up, a box that reaches it is drawn outside of the
canvas; nowhere else is any box drawn outside, whatever its coordinates are.
-/

namespace FrameCourier.Picture

open Number

/-! ## Pixels of coordinates -/

/-- The greatest number that a coordinate is cut to. -/
def cutAt (extent : Nat) : Single := .ofInt _ (extent - 1 : Nat)

/-- The last pixel that a coordinate is cut to. -/
def lastPixel (extent : Nat) : Nat := ((cutAt extent).toIntWithin 0 greatestWord32).toNat

variable {extent : Nat}

theorem cutAt_eq (extent : Nat) : cutAt extent =
    ⟨false, Format.single.nearestCode (extent - 1 : Nat), Format.nearestCode_lt_codes _ _⟩ :=
  ofInt_natCast (extent - 1)

theorem isWithin_cutAt (extent : Nat) : (cutAt extent).IsWithin (cutAt extent).code :=
  ⟨Nat.le_refl _, fun negative => by
    rw [cutAt_eq] at negative
    cases negative⟩

section

variable (word : extent < 2 ^ 32)

include word

theorem code_cutAt_lt : (cutAt extent).code < Format.single.infinityCode := by
  rw [cutAt_eq]
  exact nearestCode_natCast_lt (by omega)

/-- No coordinate is cut to a later pixel. -/
theorem nearestPixel_le_lastPixel (coordinate : Single) :
    nearestPixel coordinate extent ≤ lastPixel extent := by
  have finite := code_cutAt_lt word
  have within := isWithin_cutAt extent
  show ((coordinate.round.clamp (.zero _ false) (cutAt extent)).toIntWithin 0
    greatestWord32).toNat ≤ lastPixel extent
  cases number : coordinate.round.isNotANumber with
  | true =>
    -- What is no number stays none, and has the first pixel.
    have stays : coordinate.round.clamp (.zero _ false) (cutAt extent) = coordinate.round := by
      simp [Binary.clamp, Binary.lt, number]
    rw [stays, Binary.toIntWithin, if_pos number]
    exact Nat.zero_le _
  | false =>
    have cut := Binary.isWithin_clamp number (within.isNotANumber_eq finite)
      (by rw [cutAt_eq] : (cutAt extent).negative = false)
    have magnitudes := Rat.floor_monotone (Format.magnitude_mono (F := .single) cut.bound)
    have last : (0 : Int) ≤ greatestWord32 := by decide
    rw [lastPixel, cut.toIntWithin finite last, within.toIntWithin finite last]
    omega

/-- A coordinate beyond all numbers is cut to the last pixel. -/
theorem nearestPixel_infinite :
    nearestPixel (.infinite _ false) extent = lastPixel extent := by
  have finite := code_cutAt_lt word
  have number := (isWithin_cutAt extent).isNotANumber_eq finite
  have notBelow : (Binary.infinite Format.single false).lt (.zero _ false) = false := by
    decide +kernel
  have above : (cutAt extent).lt (.infinite _ false) = true := by
    rw [Binary.lt_iff]
    refine ⟨number, by decide +kernel, ?_⟩
    rw [cutAt_eq] at finite ⊢
    simpa [Binary.key, Binary.infinite] using finite
  have whole : (Binary.infinite Format.single false).round = .infinite _ false := by decide +kernel
  show (((Binary.infinite Format.single false).round.clamp (.zero _ false)
    (cutAt extent)).toIntWithin 0 greatestWord32).toNat = lastPixel extent
  rw [whole, Binary.clamp, notBelow, above]
  rfl

/-- The last pixel is outside exactly if it is rounded up. -/
theorem lastPixel_lt_iff (some : 0 < extent) :
    lastPixel extent < extent ↔ ¬RoundsUp (extent - 1) := by
  have finite := code_cutAt_lt word
  have below : extent - 1 < 2 ^ 32 := by omega
  obtain ⟨whole, magnitude⟩ :=
    Format.exists_magnitude_nearestCode (nearestCode_natCast_lt below)
  have last : lastPixel extent = min greatestWord32 whole := by
    have floor : (whole : Rat).floor = whole := by
      rw [← Int.cast_natCast, Rat.floor_intCast]
    rw [lastPixel, (isWithin_cutAt extent).toIntWithin finite (by decide), cutAt_eq, magnitude,
      floor]
    omega
  have word32 : greatestWord32 = 2 ^ 32 - 1 := by decide
  rw [RoundsUp, value_ofInt below, magnitude, Nat.cast_lt, last]
  omega

end

/-! ## Boxes on a canvas -/

namespace Canvas

/-- Neither the last column nor the last row is rounded up. -/
structure CutsInside (canvas : Canvas) : Prop where
  columns : ¬RoundsUp (canvas.width - 1)
  rows : ¬RoundsUp (canvas.height - 1)

/-- A canvas of at least one pixel, with extents of 32 bits. -/
structure IsSized (canvas : Canvas) : Prop where
  width_pos : 0 < canvas.width
  width_lt : canvas.width < 2 ^ 32
  height_pos : 0 < canvas.height
  height_lt : canvas.height < 2 ^ 32

variable {canvas : Canvas}

theorem cutsInside_iff_lastPixel (sized : canvas.IsSized) : canvas.CutsInside ↔
    canvas.Holds (lastPixel canvas.width, lastPixel canvas.height) := by
  rw [Holds, lastPixel_lt_iff sized.width_lt sized.width_pos,
    lastPixel_lt_iff sized.height_lt sized.height_pos]
  exact ⟨fun inside => ⟨inside.columns, inside.rows⟩, fun inside => ⟨inside.1, inside.2⟩⟩

end Canvas

/-- The outline of a box stays between its corners, in whatever order they are. -/
theorem Corners.outline_lt {corners : Corners} {width height : Nat} (left : corners.left < width)
    (right : corners.right < width) (top : corners.top < height) (bottom : corners.bottom < height) :
    ∀ pixel ∈ corners.outline, pixel.1 < width ∧ pixel.2 < height := by
  rintro ⟨x, y⟩ member
  rw [mem_outline, mem_ring, mem_ring] at member
  show x < width ∧ y < height
  omega

/-- A box beyond all numbers in both directions. -/
def farBox : Wire.SingleBox := ⟨.infinite _ false, .infinite _ false, .zero _ false, .zero _ false⟩

/-- A detection of a box. -/
def boxed (box : Wire.SingleBox) : Detection := ⟨"", .zero _ false, box, none⟩

/-- A codec to which everything is a picture of one canvas. -/
def ImageCodec.always (canvas : Canvas) : ImageCodec := ⟨fun _ => .ok canvas, fun _ _ => []⟩

section

variable {canvas : Canvas} (sized : canvas.IsSized)

include sized

theorem holds_of_mem_boxPixels (inside : canvas.CutsInside) (box : Wire.SingleBox) :
    ∀ pixel ∈ boxPixels canvas.width canvas.height box, canvas.Holds pixel := by
  obtain ⟨columns, rows⟩ := (Canvas.cutsInside_iff_lastPixel sized).mp inside
  have column (coordinate : Single) : nearestPixel coordinate canvas.width < canvas.width :=
    Nat.lt_of_le_of_lt (nearestPixel_le_lastPixel sized.width_lt coordinate) columns
  have row (coordinate : Single) : nearestPixel coordinate canvas.height < canvas.height :=
    Nat.lt_of_le_of_lt (nearestPixel_le_lastPixel sized.height_lt coordinate) rows
  rw [boxPixels_of_pos sized.width_pos sized.height_pos]
  exact Corners.outline_lt (column _) (column _) (row _) (row _)

/-- The box beyond all numbers is drawn on the last pixel. -/
theorem lastPixel_mem_boxPixels : (lastPixel canvas.width, lastPixel canvas.height) ∈
    boxPixels canvas.width canvas.height farBox := by
  have sum : Binary.infinite Format.single false + .zero _ false = .infinite _ false := by
    decide +kernel
  have corners : Corners.ofBox canvas.width canvas.height farBox =
      ⟨lastPixel canvas.width, lastPixel canvas.height, lastPixel canvas.width,
        lastPixel canvas.height⟩ := by
    simp only [Corners.ofBox, farBox, sum, nearestPixel_infinite sized.width_lt,
      nearestPixel_infinite sized.height_lt]
  rw [boxPixels_of_pos sized.width_pos sized.height_pos, corners,
    Corners.mem_outline_iff (Nat.le_refl _) (Nat.le_refl _)]
  constructor
  · exact ⟨Nat.le_refl _, Nat.le_refl _, Nat.le_refl _, Nat.le_refl _⟩
  · exact .inl (Nat.le_succ _)

/-- A canvas that cuts boxes inside takes one after the other. -/
theorem exists_drawAll?_of_cutsInside (inside : canvas.CutsInside) (detections : List Detection) :
    ∃ after, drawAll? canvas detections = some after := by
  induction detections generalizing canvas with
  | nil => exact ⟨canvas, rfl⟩
  | cons detection rest ih =>
    obtain ⟨next, success, painted⟩ := Canvas.exists_setAll? (drawingColor detection)
      (holds_of_mem_boxPixels sized inside detection.box)
    have nextSized : next.IsSized := by
      constructor <;> simp only [painted.width, painted.height]
      · exact sized.width_pos
      · exact sized.width_lt
      · exact sized.height_pos
      · exact sized.height_lt
    have nextInside : next.CutsInside := by
      constructor <;> simp only [painted.width, painted.height]
      · exact inside.columns
      · exact inside.rows
    obtain ⟨after, drawn⟩ := ih nextSized nextInside
    refine ⟨after, ?_⟩
    rw [drawAll?, drawBox?, success]
    exact drawn

end

/-- An annotation ends in the middle exactly if the drawing leaves the canvas. -/
theorem annotate?_eq_none_iff {codec : ImageCodec} {image : Bytes} {canvas : Canvas}
    (decoded : codec.decode image = .ok canvas) (detections : List Detection) (quality : UInt8) :
    annotate? codec image detections quality = none ↔ drawAll? canvas detections = none := by
  simp only [annotate?, decoded]
  cases drawAll? canvas detections with
  | none => simp
  | some after =>
    simp only [reduceCtorEq, iff_false]
    split <;> exact Option.some_ne_none _

theorem drawAll?_singleton_eq_none {canvas : Canvas} {detection : Detection}
    (refused : drawBox? canvas detection.box (drawingColor detection) = none) :
    drawAll? canvas [detection] = none := by
  simp only [drawAll?, refused]

theorem drawBox?_eq_none {canvas : Canvas} {box : Wire.SingleBox} {pixel : Nat × Nat}
    (member : pixel ∈ boxPixels canvas.width canvas.height box) (outside : ¬canvas.Holds pixel)
    (color : Color) : drawBox? canvas box color = none := by
  cases drawn : drawBox? canvas box color with
  | none => rfl
  | some after => exact absurd (Canvas.inside_of_setAll? drawn pixel member) outside

/-- A canvas keeps every pixel of every box inside, and takes every box and every list of
detections, exactly if neither its last column nor its last row is rounded up.  Up to extents of
16777219 none is. -/
theorem cutsInside_iff (canvas : Canvas) (sized : canvas.IsSized) :
    (canvas.CutsInside ↔
      ∀ box, ∀ pixel ∈ boxPixels canvas.width canvas.height box, canvas.Holds pixel) ∧
    (canvas.CutsInside ↔ ∀ box color, drawBox? canvas box color ≠ none) ∧
    (canvas.CutsInside ↔
      ∀ (codec : ImageCodec) image detections quality, codec.decode image = .ok canvas →
        annotate? codec image detections quality ≠ none) ∧
    (canvas.width ≤ 16777219 → canvas.height ≤ 16777219 → canvas.CutsInside) := by
  have far := lastPixel_mem_boxPixels sized
  refine ⟨⟨?_, ?_⟩, ⟨?_, ?_⟩, ⟨?_, ?_⟩, ?_⟩
  · exact fun inside box => holds_of_mem_boxPixels sized inside box
  · exact fun holds => (Canvas.cutsInside_iff_lastPixel sized).mpr (holds farBox _ far)
  · intro inside box color
    obtain ⟨after, success, _⟩ := Canvas.exists_setAll? color (holds_of_mem_boxPixels sized inside box)
    rw [drawBox?, success]
    exact Option.some_ne_none _
  · intro drawn
    by_contra crossed
    exact drawn farBox default
      (drawBox?_eq_none far (mt (Canvas.cutsInside_iff_lastPixel sized).mpr crossed) _)
  · intro inside codec image detections quality decoded
    obtain ⟨after, drawn⟩ := exists_drawAll?_of_cutsInside sized inside detections
    rw [ne_eq, annotate?_eq_none_iff decoded, drawn]
    exact Option.some_ne_none after
  · intro annotated
    by_contra crossed
    have outside := mt (Canvas.cutsInside_iff_lastPixel sized).mpr crossed
    have decoded : (ImageCodec.always canvas).decode [] = .ok canvas := rfl
    have refused : drawBox? canvas (boxed farBox).box (drawingColor (boxed farBox)) = none :=
      drawBox?_eq_none far outside _
    exact annotated (.always canvas) [] [boxed farBox] 0 decoded
      ((annotate?_eq_none_iff decoded _ 0).mpr (drawAll?_singleton_eq_none refused))
  · intro width height
    have columns := sized.width_pos
    have rows := sized.height_pos
    exact ⟨not_roundsUp_of_lt (by omega), not_roundsUp_of_lt (by omega)⟩

/-- Nothing is drawn on a canvas without pixels. -/
theorem drawAll?_of_empty {canvas : Canvas} (empty : canvas.width = 0 ∨ canvas.height = 0)
    (detections : List Detection) : drawAll? canvas detections = some canvas := by
  induction detections with
  | nil => rfl
  | cons detection rest ih =>
    have untouched : drawBox? canvas detection.box (drawingColor detection) = some canvas := by
      rw [drawBox?, boxPixels, if_pos empty]
      rfl
    rw [drawAll?, untouched]
    exact ih

/-- Up to extents of 16777219 every list of detections is drawn. -/
theorem exists_drawAll?_of_le {canvas : Canvas} (width : canvas.width ≤ 16777219)
    (height : canvas.height ≤ 16777219) (detections : List Detection) :
    ∃ after, drawAll? canvas detections = some after := by
  by_cases empty : canvas.width = 0 ∨ canvas.height = 0
  · exact ⟨canvas, drawAll?_of_empty empty detections⟩
  · have sized : canvas.IsSized := by constructor <;> omega
    have inside : canvas.CutsInside := by
      constructor
      · exact not_roundsUp_of_lt (by omega)
      · exact not_roundsUp_of_lt (by omega)
    exact exists_drawAll?_of_cutsInside sized inside detections

/-- A canvas of one row, as long as it can be for every shorter one to cut boxes inside too. -/
def longRow : Canvas := .filled 16777219 1 ⟨0, 0, 0⟩

theorem cutsInside_iff_longRow : longRow.IsSized ∧ longRow.CutsInside ∧
    (∀ pixel ∈ boxPixels longRow.width longRow.height farBox, longRow.Holds pixel) ∧
    drawBox? longRow farBox ⟨0, 255, 0⟩ ≠ none := by
  have sized : longRow.IsSized := by constructor <;> decide
  obtain ⟨pixels, boxes, _, few⟩ := cutsInside_iff longRow sized
  have inside : longRow.CutsInside := few (by decide) (by decide)
  exact ⟨sized, inside, pixels.mp inside farBox, boxes.mp inside farBox _⟩

/-- A canvas that is one column longer. -/
def longerRow : Canvas := .filled 16777220 1 ⟨0, 0, 0⟩

/-- A box behind the last column of the longer row. -/
def boxBehind : Wire.SingleBox := wholeBox 16777220 0 0 0

theorem isSized_longerRow : longerRow.IsSized := by constructor <;> decide

/-- The box behind the longer row is cut to a pixel behind its last column. -/
theorem mem_boxPixels_longerRow :
    (16777220, 0) ∈ boxPixels longerRow.width longerRow.height boxBehind := by
  have corners : Corners.ofBox longerRow.width longerRow.height boxBehind =
      ⟨16777220, 0, 16777220, 0⟩ := by decide +kernel
  rw [boxPixels_of_pos isSized_longerRow.width_pos isSized_longerRow.height_pos, corners,
    Corners.mem_outline_iff (Nat.le_refl _) (Nat.le_refl _)]
  decide

theorem drawBox?_longerRow (color : Color) : drawBox? longerRow boxBehind color = none :=
  drawBox?_eq_none mem_boxPixels_longerRow (fun holds => absurd holds.1 (by decide)) color

/-- The longer row cannot be annotated with the box behind it. -/
theorem annotate?_longerRow (image : Bytes) (quality : UInt8) :
    annotate? (.always longerRow) image [boxed boxBehind] quality = none := by
  have refused : drawBox? longerRow (boxed boxBehind).box (drawingColor (boxed boxBehind)) = none :=
    drawBox?_longerRow _
  have decoded : (ImageCodec.always longerRow).decode image = .ok longerRow := rfl
  rw [annotate?_eq_none_iff decoded]
  exact drawAll?_singleton_eq_none refused

/-- Its last column is rounded up to the number of columns: a box behind it is cut to a pixel
outside, and neither the box nor an image with it is drawn. -/
theorem longerRow_exceeded : longerRow.IsSized ∧
    (16777220, 0) ∈ boxPixels longerRow.width longerRow.height boxBehind ∧
    ¬longerRow.Holds (16777220, 0) ∧ drawBox? longerRow boxBehind ⟨0, 255, 0⟩ = none ∧
    annotate? (.always longerRow) [] [boxed boxBehind] 90 = none :=
  ⟨isSized_longerRow, mem_boxPixels_longerRow, fun holds => absurd holds.1 (by decide),
    drawBox?_longerRow _, annotate?_longerRow [] 90⟩

end FrameCourier.Picture
