import FrameCourier.Picture.Outline
import Mathlib.Data.List.Basic

/-!
# Drawn outlines

Pixels are set one after the other, some of them several times.  What counts in the end is which
pixels were set at all: those of an outline are the pixels of the box within two pixels of an
edge, however thin the box is.  Of several outlines over one pixel the last one shows.
-/

namespace FrameCourier.Picture

/-! ## Pixels that are set -/

namespace Canvas

/-- A pixel lies on the canvas. -/
def Holds (canvas : Canvas) (pixel : Nat × Nat) : Prop :=
  pixel.1 < canvas.width ∧ pixel.2 < canvas.height

/-- A canvas before and after pixels were set to one color: the extents stay, the pixels that
are covered have the color, and all others are as they were. -/
structure IsPainted (before after : Canvas) (color : Color) (covers : Nat → Nat → Prop) :
    Prop where
  width : after.width = before.width
  height : after.height = before.height
  inside : ∀ x y, covers x y → after.pixel? x y = some color
  outside : ∀ x y, ¬covers x y → after.pixel? x y = before.pixel? x y

variable {canvas next : Canvas} {color : Color}

/-- Pixels of the canvas can be set, and nothing else changes. -/
theorem exists_setAll? (color : Color) {pixels : List (Nat × Nat)}
    (inside : ∀ pixel ∈ pixels, canvas.Holds pixel) :
    ∃ after, canvas.setAll? color pixels = some after ∧
      canvas.IsPainted after color fun x y => (x, y) ∈ pixels := by
  induction pixels generalizing canvas with
  | nil =>
    refine ⟨canvas, rfl, rfl, rfl, ?_, fun _ _ _ => rfl⟩
    intro x y covered
    cases covered
  | cons pixel pixels ih =>
    obtain ⟨x, y⟩ := pixel
    have first : canvas.set? x y color ≠ none := fun refused =>
      set?_eq_none_iff.mp refused (inside (x, y) List.mem_cons_self)
    obtain ⟨next, success⟩ := Option.ne_none_iff_exists'.mp first
    have width := width_set? success
    have height := height_set? success
    have later : ∀ pixel ∈ pixels, next.Holds pixel := by
      intro pixel member
      rw [Holds, width, height]
      exact inside pixel (List.mem_cons_of_mem _ member)
    obtain ⟨after, rest, painted⟩ := ih later
    refine ⟨after, ?_, painted.width.trans width, painted.height.trans height, ?_, ?_⟩
    · rw [setAll?, success]
      exact rest
    · intro x' y' covered
      by_cases again : (x', y') ∈ pixels
      · exact painted.inside x' y' again
      · have here := (List.mem_cons.mp covered).resolve_right again
        cases here
        rw [painted.outside x y again, pixel?_set?_self success]
    · intro x' y' uncovered
      rw [List.mem_cons, not_or] at uncovered
      rw [painted.outside x' y' uncovered.2, pixel?_set?_of_ne success]
      rintro ⟨rfl, rfl⟩
      exact uncovered.1 rfl

/-- A pixel outside of the canvas cannot be set. -/
theorem inside_of_setAll? {pixels : List (Nat × Nat)} {after : Canvas}
    (success : canvas.setAll? color pixels = some after) :
    ∀ pixel ∈ pixels, canvas.Holds pixel := by
  induction pixels generalizing canvas with
  | nil => simp
  | cons pixel pixels ih =>
    obtain ⟨x, y⟩ := pixel
    rw [setAll?] at success
    cases step : canvas.set? x y color with
    | none =>
      rw [step] at success
      cases success
    | some next =>
      rw [step] at success
      intro pixel member
      rcases List.mem_cons.mp member with rfl | later
      · have allowed : canvas.set? x y color ≠ none := by simp [step]
        exact not_not.mp fun outside => allowed (set?_eq_none_iff.mpr outside)
      · have inside := ih success pixel later
        rwa [Holds, width_set? step, height_set? step] at inside

end Canvas

/-! ## The pixels of an outline -/

theorem mem_span {first last n : Nat} : n ∈ span first last ↔ first ≤ n ∧ n ≤ last := by
  simp only [span, List.mem_map, List.mem_range]
  constructor
  · rintro ⟨offset, inside, rfl⟩
    omega
  · intro bounds
    exact ⟨n - first, by omega, by omega⟩

namespace Corners

/-- The pixels of a box that are within two pixels of one of its edges. -/
def Covers (corners : Corners) (x y : Nat) : Prop :=
  (corners.left ≤ x ∧ x ≤ corners.right ∧ corners.top ≤ y ∧ y ≤ corners.bottom) ∧
    (x ≤ corners.left + 1 ∨ corners.right ≤ x + 1 ∨ y ≤ corners.top + 1 ∨ corners.bottom ≤ y + 1)

instance (corners : Corners) (x y : Nat) : Decidable (corners.Covers x y) :=
  inferInstanceAs (Decidable (_ ∧ _))

/-- The corners of a box with at least one pixel that lies on a canvas of the given extents. -/
structure Fits (corners : Corners) (width height : Nat) : Prop where
  columns : corners.left ≤ corners.right
  right : corners.right < width
  rows : corners.top ≤ corners.bottom
  bottom : corners.bottom < height

variable {corners : Corners} {x y : Nat}

/-- A ring has two rows and two columns, which run along the whole box. -/
theorem mem_ring {inset : Nat} :
    (x, y) ∈ corners.ring inset ↔
      (corners.left ≤ x ∧ x ≤ corners.right) ∧ (y = min (corners.top + inset) corners.bottom ∨
          y = max (corners.bottom - inset) corners.top) ∨
        (corners.top ≤ y ∧ y ≤ corners.bottom) ∧ (x = min (corners.left + inset) corners.right ∨
          x = max (corners.right - inset) corners.left) := by
  simp only [ring, List.mem_append, List.mem_flatMap, mem_span, List.mem_cons, List.not_mem_nil,
    or_false, Prod.mk.injEq]
  constructor
  · rintro (⟨column, bounds, ⟨rfl, row⟩ | ⟨rfl, row⟩⟩ | ⟨row, bounds, ⟨column, rfl⟩ | ⟨column, rfl⟩⟩)
    · exact .inl ⟨bounds, .inl row⟩
    · exact .inl ⟨bounds, .inr row⟩
    · exact .inr ⟨bounds, .inl column⟩
    · exact .inr ⟨bounds, .inr column⟩
  · rintro (⟨bounds, row⟩ | ⟨bounds, column⟩)
    · exact .inl ⟨x, bounds, row.imp (⟨rfl, ·⟩) (⟨rfl, ·⟩)⟩
    · exact .inr ⟨y, bounds, column.imp (⟨·, rfl⟩) (⟨·, rfl⟩)⟩

theorem mem_outline {pixel : Nat × Nat} :
    pixel ∈ corners.outline ↔ pixel ∈ corners.ring 0 ∨ pixel ∈ corners.ring 1 := by
  simp [outline, thickness, List.range_succ]

/-- The two rings of a box cover what is within two pixels of an edge: in a thin box the inner
ring is cut to the box and meets the outer one. -/
theorem mem_outline_iff (columns : corners.left ≤ corners.right)
    (rows : corners.top ≤ corners.bottom) : (x, y) ∈ corners.outline ↔ corners.Covers x y := by
  rw [mem_outline, mem_ring, mem_ring, Covers]
  omega

end Corners

/-! ## Boxes -/

/-- The corners of a detection's box on a canvas. -/
def cornersOn (canvas : Canvas) (detection : Detection) : Corners :=
  .ofBox canvas.width canvas.height detection.box

theorem boxPixels_of_pos {width height : Nat} (wide : 0 < width) (high : 0 < height)
    (box : Wire.SingleBox) : boxPixels width height box = (Corners.ofBox width height box).outline := by
  rw [boxPixels, if_neg]
  omega

/-- The box of a detection that fits is drawn as its outline, and nothing else changes. -/
theorem exists_drawBox? {canvas : Canvas} {box : Wire.SingleBox} (color : Color)
    (fits : (Corners.ofBox canvas.width canvas.height box).Fits canvas.width canvas.height) :
    ∃ after, drawBox? canvas box color = some after ∧
      canvas.IsPainted after color (Corners.ofBox canvas.width canvas.height box).Covers := by
  have pixels := boxPixels_of_pos (Nat.zero_lt_of_lt fits.right) (Nat.zero_lt_of_lt fits.bottom) box
  have covered : ∀ x y, (x, y) ∈ boxPixels canvas.width canvas.height box ↔
      (Corners.ofBox canvas.width canvas.height box).Covers x y := by
    intro x y
    rw [pixels, Corners.mem_outline_iff fits.columns fits.rows]
  have inside : ∀ pixel ∈ boxPixels canvas.width canvas.height box, canvas.Holds pixel := by
    rintro ⟨x, y⟩ member
    obtain ⟨⟨_, right, _, bottom⟩, _⟩ := (covered x y).mp member
    exact ⟨Nat.lt_of_le_of_lt right fits.right, Nat.lt_of_le_of_lt bottom fits.bottom⟩
  obtain ⟨after, success, painted⟩ := Canvas.exists_setAll? color inside
  refine ⟨after, success, painted.width, painted.height, ?_, ?_⟩
  · intro x y covers
    exact painted.inside x y ((covered x y).mpr covers)
  · intro x y uncovered
    exact painted.outside x y (mt (covered x y).mp uncovered)

/-! ## Several boxes -/

/-- The last of the detections whose outline on the canvas covers a pixel. -/
def lastCovering? (canvas : Canvas) (detections : List Detection) (x y : Nat) : Option Detection :=
  detections.reverse.find? fun detection => decide ((cornersOn canvas detection).Covers x y)

theorem lastCovering?_cons (canvas : Canvas) (detection : Detection) (rest : List Detection)
    (x y : Nat) :
    lastCovering? canvas (detection :: rest) x y =
      (lastCovering? canvas rest x y).or
        (if (cornersOn canvas detection).Covers x y then some detection else none) := by
  rw [lastCovering?, List.reverse_cons, List.find?_append, List.find?_singleton]
  simp only [decide_eq_true_eq]
  rfl

/-- Only the extents of a canvas matter for what covers its pixels. -/
theorem lastCovering?_congr {canvas other : Canvas} (width : other.width = canvas.width)
    (height : other.height = canvas.height) (detections : List Detection) (x y : Nat) :
    lastCovering? other detections x y = lastCovering? canvas detections x y := by
  have corners : cornersOn other = cornersOn canvas := by
    funext detection
    rw [cornersOn, width, height, cornersOn]
  rw [lastCovering?, corners, lastCovering?]

/-- A canvas before and after detections were drawn on it: a pixel has the color of the last
detection that covers it, which is its own or else the one that its label picks, and it is as it
was if none does. -/
structure IsDrawn (before after : Canvas) (detections : List Detection) : Prop where
  width : after.width = before.width
  height : after.height = before.height
  pixel : ∀ x y, after.pixel? x y =
    match lastCovering? before detections x y with
    | some detection => some (detection.color.getD (paletteColor detection.label))
    | none => before.pixel? x y

/-- Detections that fit are all drawn, the later ones over the earlier ones. -/
theorem exists_drawAll? {canvas : Canvas} {detections : List Detection}
    (fit : ∀ detection ∈ detections,
      (cornersOn canvas detection).Fits canvas.width canvas.height) :
    ∃ after, drawAll? canvas detections = some after ∧ IsDrawn canvas after detections := by
  induction detections generalizing canvas with
  | nil => exact ⟨canvas, rfl, rfl, rfl, fun _ _ => rfl⟩
  | cons detection rest ih =>
    obtain ⟨next, success, painted⟩ :=
      exists_drawBox? (drawingColor detection) (fit detection List.mem_cons_self)
    have later : ∀ detection ∈ rest, (cornersOn next detection).Fits next.width next.height := by
      intro detection member
      rw [cornersOn, painted.width, painted.height]
      exact fit detection (List.mem_cons_of_mem _ member)
    obtain ⟨after, drawn, isDrawn⟩ := ih later
    refine ⟨after, ?_, isDrawn.width.trans painted.width, isDrawn.height.trans painted.height, ?_⟩
    · rw [drawAll?, success]
      exact drawn
    · intro x y
      rw [isDrawn.pixel, lastCovering?_congr painted.width painted.height, lastCovering?_cons]
      cases lastCovering? canvas rest x y with
      | some covering => rfl
      | none =>
        by_cases covers : (cornersOn canvas detection).Covers x y
        · rw [Option.none_or, if_pos covers]
          exact painted.inside x y covers
        · rw [Option.none_or, if_neg covers]
          exact painted.outside x y covers

/-- A box whose corners on the canvas fit is drawn as the pixels within two pixels of its edges
and nothing else, and of several such boxes the last one over a pixel shows. -/
theorem outlines_drawn (canvas : Canvas) :
    (∀ box color, (Corners.ofBox canvas.width canvas.height box).Fits canvas.width canvas.height →
      ∃ after, drawBox? canvas box color = some after ∧
        canvas.IsPainted after color (Corners.ofBox canvas.width canvas.height box).Covers) ∧
    ∀ detections : List Detection,
      (∀ detection ∈ detections,
        (cornersOn canvas detection).Fits canvas.width canvas.height) →
      ∃ after, drawAll? canvas detections = some after ∧ IsDrawn canvas after detections :=
  ⟨fun _ color fits => exists_drawBox? color fits, fun _ fit => exists_drawAll? fit⟩

/-- A box at the given whole coordinates. -/
def wholeBox (x y width height : Int) : Wire.SingleBox :=
  ⟨.ofInt _ x, .ofInt _ y, .ofInt _ width, .ofInt _ height⟩

def blackCanvas : Canvas := .filled 7 8 ⟨0, 0, 0⟩

/-- A box of five columns and six rows, in a color of its own. -/
def largeBox : Detection := ⟨"car", .zero _ false, wholeBox 1 1 4 5, some ⟨9, 9, 9⟩⟩

/-- A box of one pixel on the left edge of the other one, in no color of its own. -/
def pixelBox : Detection := ⟨"person", .zero _ false, wholeBox 1 2 0 0, none⟩

/-- The second box shows on the edge of the first one, whose inside and outside stay black. -/
theorem outlines_drawn_overlapping :
    (∀ detection ∈ [largeBox, pixelBox],
      (cornersOn blackCanvas detection).Fits blackCanvas.width blackCanvas.height) ∧
    (∃ after, drawBox? blackCanvas largeBox.box ⟨9, 9, 9⟩ = some after ∧
      after.pixel? 1 2 = some ⟨9, 9, 9⟩) ∧
    ∃ after, drawAll? blackCanvas [largeBox, pixelBox] = some after ∧
      after.pixel? 1 2 = some (paletteColor "person") ∧ after.pixel? 1 3 = some ⟨9, 9, 9⟩ ∧
      after.pixel? 3 3 = blackCanvas.pixel? 3 3 ∧ after.pixel? 6 7 = blackCanvas.pixel? 6 7 := by
  have large : (cornersOn blackCanvas largeBox).Fits blackCanvas.width blackCanvas.height := by
    constructor <;> decide +kernel
  have pixel : (cornersOn blackCanvas pixelBox).Fits blackCanvas.width blackCanvas.height := by
    constructor <;> decide +kernel
  have fit : ∀ detection ∈ [largeBox, pixelBox],
      (cornersOn blackCanvas detection).Fits blackCanvas.width blackCanvas.height := by
    simp only [List.forall_mem_cons]
    exact ⟨large, pixel, List.forall_mem_nil _⟩
  obtain ⟨one, several⟩ := outlines_drawn blackCanvas
  obtain ⟨after, drawn, painted⟩ := one largeBox.box ⟨9, 9, 9⟩ large
  obtain ⟨last, allDrawn, isDrawn⟩ := several [largeBox, pixelBox] fit
  have covering : lastCovering? blackCanvas [largeBox, pixelBox] 1 2 = some pixelBox ∧
      lastCovering? blackCanvas [largeBox, pixelBox] 1 3 = some largeBox ∧
      lastCovering? blackCanvas [largeBox, pixelBox] 3 3 = none ∧
      lastCovering? blackCanvas [largeBox, pixelBox] 6 7 = none := by decide +kernel
  refine ⟨fit, ⟨after, drawn, painted.inside 1 2 (by decide +kernel)⟩, last, allDrawn, ?_⟩
  simp only [isDrawn.pixel, covering]
  exact ⟨rfl, rfl, trivial, trivial⟩

end FrameCourier.Picture
