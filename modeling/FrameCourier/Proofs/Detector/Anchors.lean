import FrameCourier.Proofs.Detector.Reference

/-!
# Anchors

Networks of one widespread kind answer an image with a table of three axes: one image, a channel for
each number of a box and for each class, and an anchor for each box that is proposed.  The values of
a channel, one for each anchor, are next to each other.

Of such a table the rows are the channels of the first anchor: there is one row, and so at most one
candidate.  An anchor behind the first one is heeded only if its box happens to overlap that of the
first one enough, and is not the more confident of the two.
-/

namespace FrameCourier.Network

open Number FrameCourier.Candidate

/-- The values of an anchor: in each channel the one at the anchor's place. -/
inductive Table.IsAnchor (table : Table) (number : Nat) (values : List Single) : Prop where
  | of {channels anchors : Nat} (shape : table.shape = [1, channels, anchors])
    (inside : number < anchors) (length : values.length = channels)
    (values : ∀ channel < channels, values[channel]? = table.values[channel * anchors + number]?)

/-- A candidate that an anchor gives for an image of the given extents: its values are those of a
box and of the classes, and its best score is not below `least`. -/
def Table.Gives (table : Table) (least : Single) (width height number : Nat)
    (candidate : Candidate) : Prop :=
  ∃ values, table.IsAnchor number values ∧
    IsCandidateOf least (Binary.ofInt _ width / inputExtent) (Binary.ofInt _ height / inputExtent)
      values candidate

/-- A candidate is heeded if it is answered, or stands for the object of an answered one that is at
least as confident. -/
def IsHeeded (answered : List Candidate) (candidate : Candidate) : Prop :=
  candidate ∈ answered ∨ ∃ kept ∈ answered, kept.isApart candidate = false ∧
    candidate.confidence.totalKey ≤ kept.confidence.totalKey

section

variable {table : Table} {channels anchors number : Nat}

/-- The one row of a table of one image holds the values of the first anchor. -/
theorem isRow_iff_isAnchor {row : List Single} (shape : table.shape = [1, channels, anchors])
    (someAnchor : 0 < anchors) : table.IsRow number row ↔ number = 0 ∧ table.IsAnchor 0 row := by
  have place : ∀ channel, (0 * channels + channel) * anchors = channel * anchors + 0 :=
    fun channel => by rw [Nat.zero_mul, Nat.zero_add, Nat.add_zero]
  constructor
  · intro ⟨shape', inside, length, values⟩
    rw [shape] at shape'
    cases shape'
    have first : number = 0 := Nat.lt_one_iff.mp inside
    subst first
    refine ⟨rfl, .of shape someAnchor length fun channel before => ?_⟩
    rw [values channel before, place]
  · intro ⟨first, shape', _, length, values⟩
    subst first
    rw [shape] at shape'
    cases shape'
    refine .of shape Nat.one_pos length fun channel before => ?_
    rw [values channel before, place]

theorem Table.IsAnchor.unique {values values' : List Single} (anchor : table.IsAnchor number values)
    (anchor' : table.IsAnchor number values') : values = values' := by
  obtain ⟨shape, -, length, here⟩ := anchor
  obtain ⟨shape', -, length', here'⟩ := anchor'
  rw [shape] at shape'
  cases shape'
  apply List.ext_getElem?
  intro channel
  rcases Nat.lt_or_ge channel values.length with before | behind
  · rw [here channel (length ▸ before), here' channel (length ▸ before)]
  · rw [List.getElem?_eq_none behind, List.getElem?_eq_none (by omega)]

/-- The candidates of a table of one image are those of its first anchor. -/
theorem exists_candidates_eq (least : Single) (width height : Nat)
    (checked : table.checked = .ok table) (shape : table.shape = [1, channels, anchors])
    (someAnchor : 0 < anchors) :
    ∃ only : Option Candidate, candidates least width height table = only.toList ∧
      ∀ candidate, only = some candidate ↔ table.Gives least width height 0 candidate := by
  obtain ⟨values, rows⟩ : ∃ values, table.rows = [values] := by
    rw [Table.rows, shape]
    exact ⟨_, rfl⟩
  have row : table.IsRow 0 values := (isRow_iff checked shape someAnchor).mpr (by rw [rows]; rfl)
  have anchor := ((isRow_iff_isAnchor shape someAnchor).mp row).2
  refine ⟨candidate? least (Binary.ofInt _ width / inputExtent)
    (Binary.ofInt _ height / inputExtent) values, ?_, fun candidate => ?_⟩
  · rw [candidates, rows]
    cases found : candidate? least (Binary.ofInt _ width / inputExtent)
        (Binary.ofInt _ height / inputExtent) values with
    | none =>
      rw [List.filterMap_cons_none found, List.filterMap_nil, List.mergeSort_nil]
      rfl
    | some candidate =>
      rw [List.filterMap_cons_some found, List.filterMap_nil, List.mergeSort_singleton]
      rfl
  · rw [candidate?_eq_some_iff]
    constructor
    · intro candidateOf
      exact ⟨values, anchor, candidateOf⟩
    · intro gives
      obtain ⟨values', anchor', candidateOf⟩ := gives
      rw [anchor.unique anchor']
      exact candidateOf

/-- Of at most one candidate suppression keeps all, if it ends. -/
theorem suppress_toList {only : Option Candidate} (ends : Ends only.toList) :
    suppress only.toList = some only.toList := by
  rw [suppress_of_ends ends]
  cases only with
  | none => rw [Option.toList_none, greedy_nil]
  | some candidate => rw [Option.toList_some, greedy_cons, List.filter_nil, greedy_nil]

end

/-- A detector answers a table of one image, of any number of channels and anchors, with the first
anchor alone, if suppression ends: the candidate of that anchor, where it gives one, is answered,
and nothing else is.  A candidate of any anchor is heeded exactly if the first anchor gives one that
is at least as confident and stands for the same object; all are answered if there is one anchor
only. -/
theorem detect_eq_firstAnchor {codec : Picture.ImageCodec} {labels : List ColorLabel}
    {least : Single} {image : Bytes} {canvas : Picture.Canvas} {table : Table}
    {classes anchors : Nat} (decoded : codec.decode image = .ok canvas)
    (checked : table.checked = .ok table) (shape : table.shape = [1, 4 + classes, anchors])
    (someAnchor : 0 < anchors) (ends : Ends (candidates least canvas.width canvas.height table)) :
    ∃ answered : List Candidate,
      detect codec labels least (.ok table) image =
        .ok (some (answered.map (detectionOf labels))) ∧
      answered.length ≤ 1 ∧
      (∀ candidate, candidate ∈ answered ↔
        table.Gives least canvas.width canvas.height 0 candidate) ∧
      (∀ candidate, IsHeeded answered candidate ↔
        ∃ first, table.Gives least canvas.width canvas.height 0 first ∧
          first.isApart candidate = false ∧
          candidate.confidence.totalKey ≤ first.confidence.totalKey) ∧
      (anchors = 1 → ∀ number candidate,
        table.Gives least canvas.width canvas.height number candidate → candidate ∈ answered) := by
  obtain ⟨only, found, gives⟩ :=
    exists_candidates_eq least canvas.width canvas.height checked shape someAnchor
  rw [found] at ends
  have mem_iff : ∀ candidate, candidate ∈ only.toList ↔
      table.Gives least canvas.width canvas.height 0 candidate := fun candidate => by
    rw [Option.mem_toList, gives]
  refine ⟨only.toList, ?_, Option.length_toList_le, mem_iff, fun candidate => ?_, ?_⟩
  · simp only [detect, decoded, Except.bind, checked, detections?, found, suppress_toList ends,
      Option.map_some]
  · simp only [IsHeeded, ← mem_iff]
    constructor
    · intro heeded
      rcases heeded with answered | overlapped
      · -- Where suppression ends, a candidate stands for its own object.
        refine ⟨candidate, answered, ?_, Int.le_refl _⟩
        rw [Option.mem_toList] at answered
        rw [answered] at ends
        exact Bool.eq_false_iff.mpr fun apart => not_ends_of_isApart apart ends
      · exact overlapped
    · exact .inr
  · intro one number candidate gives
    obtain ⟨values, ⟨shape', inside, -, -⟩, -⟩ := id gives
    rw [shape] at shape'
    cases shape'
    have first : number = 0 := by omega
    rw [first] at gives
    exact (mem_iff candidate).mpr gives

/-- Two anchors of one class, with boxes of 50 by 50 pixels that are apart, the first of them the
more confident one. -/
def twoAnchors : Table :=
  ⟨[1, 5, 2], #[.ofInt _ 100, .ofInt _ 400, .ofInt _ 100, .ofInt _ 400, .ofInt _ 50, .ofInt _ 50,
    .ofInt _ 50, .ofInt _ 50, .ofRat _ false (9 / 10), .ofRat _ false (4 / 5)]⟩

/-- The boxes of the two anchors on an image of 640 by 640 pixels. -/
def firstBox : Candidate :=
  ⟨0, .ofRat _ false (9 / 10), .ofInt _ 75, .ofInt _ 75, .ofInt _ 125, .ofInt _ 125⟩

@[inherit_doc firstBox]
def secondBox : Candidate :=
  ⟨0, .ofRat _ false (4 / 5), .ofInt _ 375, .ofInt _ 375, .ofInt _ 425, .ofInt _ 425⟩

theorem candidates_twoAnchors :
    candidates (.ofRat _ false (1 / 2)) 640 640 twoAnchors = [firstBox] := by
  have rows : twoAnchors.rows.filterMap (candidate? (.ofRat _ false (1 / 2))
      (Binary.ofInt _ (640 : Nat) / inputExtent) (Binary.ofInt _ (640 : Nat) / inputExtent)) =
      [firstBox] := by
    decide +kernel
  rw [candidates, rows, List.mergeSort_singleton]

theorem gives_secondBox : twoAnchors.Gives (.ofRat _ false (1 / 2)) 640 640 1 secondBox := by
  refine ⟨[.ofInt _ 400, .ofInt _ 400, .ofInt _ 50, .ofInt _ 50, .ofRat _ false (4 / 5)],
    .of rfl (by decide) rfl ?_, ?_⟩
  · decide +kernel
  · exact candidate?_eq_some_iff.mp (by decide +kernel)

theorem ends_firstBox : Ends [firstBox] := by
  apply ends_of_forall_not_isApart
  decide +kernel

/-- Takes anything for an image of 640 by 640 pixels. -/
def blankImages : Picture.ImageCodec := ⟨fun _ => .ok (.filled 640 640 ⟨0, 0, 0⟩), fun _ _ => []⟩

/-- Of the two anchors the first one is answered, alone. -/
theorem detect_eq_firstAnchor_twoAnchors :
    ∃ answered : List Candidate,
      detect blankImages [⟨"box", ⟨255, 0, 0⟩⟩] (.ofRat _ false (1 / 2)) (.ok twoAnchors) [] =
        .ok (some (answered.map (detectionOf [⟨"box", ⟨255, 0, 0⟩⟩]))) ∧
      answered.length ≤ 1 ∧
      ∀ candidate, candidate ∈ answered ↔
        twoAnchors.Gives (.ofRat _ false (1 / 2)) 640 640 0 candidate := by
  have ends : Ends (candidates (.ofRat _ false (1 / 2)) 640 640 twoAnchors) := by
    rw [candidates_twoAnchors]
    exact ends_firstBox
  obtain ⟨answered, found, few, mem_iff, -, -⟩ :=
    @detect_eq_firstAnchor blankImages [⟨"box", ⟨255, 0, 0⟩⟩] _ [] _ twoAnchors 1 2 rfl rfl rfl
      (by decide) ends
  exact ⟨answered, found, few, mem_iff⟩

/-- The second of two anchors is not heeded, although its score is enough and suppression ends: the
first one is answered alone, and their boxes are apart. -/
theorem not_isHeeded_secondBox :
    twoAnchors.shape = [1, 4 + 1, 2] ∧ twoAnchors.checked = .ok twoAnchors ∧
      Ends (candidates (.ofRat _ false (1 / 2)) 640 640 twoAnchors) ∧
      twoAnchors.Gives (.ofRat _ false (1 / 2)) 640 640 1 secondBox ∧
      (Binary.ofRat _ false (1 / 2)).le secondBox.confidence = true ∧
      detect blankImages [] (.ofRat _ false (1 / 2)) (.ok twoAnchors) [] =
        .ok (some ([firstBox].map (detectionOf []))) ∧
      ¬IsHeeded [firstBox] secondBox := by
  have kept : suppress [firstBox] = some [firstBox] :=
    @suppress_toList (some firstBox) ends_firstBox
  have found : detections? [] (.ofRat _ false (1 / 2)) 640 640 twoAnchors =
      some ([firstBox].map (detectionOf [])) := by
    rw [detections?, candidates_twoAnchors, kept, Option.map_some]
  refine ⟨rfl, rfl, ?_, gives_secondBox, by decide +kernel, ?_, ?_⟩
  · rw [candidates_twoAnchors]
    exact ends_firstBox
  · exact congrArg Except.ok found
  · intro heeded
    rcases heeded with answered | ⟨kept, answered, overlaps, -⟩
    · rw [List.mem_singleton] at answered
      exact absurd answered (by decide +kernel)
    · rw [List.mem_singleton.mp answered] at overlaps
      exact absurd overlaps (by decide +kernel)

end FrameCourier.Network
