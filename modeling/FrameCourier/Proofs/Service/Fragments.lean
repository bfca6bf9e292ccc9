import FrameCourier.Client
import FrameCourier.Proofs.Service.Gathering
import FrameCourier.Proofs.Wire.Markers
import FrameCourier.Proofs.Wire.Requests

/-!
# Requests in pieces

What a connection makes of the bytes of one request does not depend on how they are cut: the
request is handed out with the last byte.  A raw image is handed out with the last byte of its
marker if no earlier bytes look like a document or like the end of an image.
-/

namespace FrameCourier.Service

open Wire Document Ascii

/-- Chunks with any bytes in them have a last one that is not empty. -/
theorem exists_last_chunk {chunks : List Bytes} (some : chunks.flatten ≠ []) :
    ∃ before last behind, chunks = before ++ last :: behind ∧ last ≠ [] ∧ behind.flatten = [] := by
  induction chunks with
  | nil => exact absurd rfl some
  | cons chunk chunks ih =>
    by_cases rest : chunks.flatten = []
    · refine ⟨[], chunk, chunks, rfl, ?_, rest⟩
      rintro rfl
      exact some (by simpa using rest)
    · obtain ⟨before, last, behind, rfl, notEmpty, empty⟩ := ih rest
      exact ⟨chunk :: before, last, behind, rfl, notEmpty, empty⟩

namespace Connection

/-- Nothing is assembled from bytes that are no document and in which no marker stands. -/
theorem assemble?_eq_none {buffer : Bytes} (noDocument : read? buffer = none)
    (noMarker : markerOffset? buffer = none) : assemble? buffer = none := by
  simp [assemble?, parse?, noDocument, noMarker]

theorem assemble?_request (request : ImageRequest) {rest : Bytes} (blank : IsBlank rest) :
    assemble? (request.toBytes ++ rest) = some (.envelope request) := by
  simp [assemble?, request.parse?_toBytes_append blank]

theorem assemble?_of_append_eq_toBytes (request : ImageRequest) {before more : Bytes}
    (parts : before ++ more = request.toBytes) (unfinished : more ≠ []) :
    assemble? before = none := by
  refine assemble?_eq_none (request.read?_of_append_eq_toBytes parts unfinished)
    (markerOffset?_of_lineFeed_not_mem fun inside => request.lineFeed_not_mem_toBytes ?_)
  rw [← parts]
  exact List.mem_append_left more inside

/-- Bytes that become a request with their last one, and none before. -/
structure CompletesLast (whole : Bytes) (request : InboundRequest) : Prop where
  complete : assemble? whole = some request
  unfinished : ∀ part more, part ++ more = whole → more ≠ [] → assemble? part = none

theorem CompletesLast.ne_nil {whole : Bytes} {request : InboundRequest}
    (completes : CompletesLast whole request) : whole ≠ [] := by
  rintro rfl
  have nothing : assemble? [] = none :=
    assemble?_eq_none rfl (markerOffset?_of_lineFeed_not_mem List.not_mem_nil)
  rw [completes.complete] at nothing
  cases nothing

/-- However the bytes are cut, the chunks before the last byte stay quiet and the one that brings
it completes the request. -/
theorem CompletesLast.exists_complete {whole : Bytes} {request : InboundRequest}
    (completes : CompletesLast whole request) {chunks : List Bytes}
    (cut : chunks.flatten = whole) :
    ∃ before last behind, chunks = before ++ last :: behind ∧ last ≠ [] ∧ behind.flatten = [] ∧
      Quiet [] before ∧ assemble? ([] ++ before.flatten ++ last) = some request := by
  obtain ⟨before, last, behind, rfl, notEmpty, empty⟩ := exists_last_chunk (cut ▸ completes.ne_nil)
  have parts : before.flatten ++ last = whole := by
    rw [← cut, List.flatten_append, List.flatten_cons, empty, List.append_nil]
  refine ⟨before, last, behind, rfl, notEmpty, empty, ?_, ?_⟩
  · rintro part ⟨rest, rfl⟩
    refine completes.unfinished part.flatten (rest.flatten ++ last) ?_ (by simp [notEmpty])
    rw [← parts, List.flatten_append, List.append_assoc]
  · rw [List.nil_append, parts]
    exact completes.complete

theorem completesLast_request (request : ImageRequest) :
    CompletesLast request.toBytes (.envelope request) := by
  constructor
  · have assembled := assemble?_request request isBlank_nil
    rwa [List.append_nil] at assembled
  · intro part more parts unfinished
    exact assemble?_of_append_eq_toBytes request parts unfinished

/-- However the bytes of a request are cut into chunks, possibly empty ones: the call that brings
the last byte hands the request out and moves on to processing; the calls before it hand nothing
out and leave the connection accumulating; and those behind it hand nothing out either. -/
theorem run_request (request : ImageRequest) (id : UInt64) {chunks : List Bytes}
    (cut : chunks.flatten = request.toBytes) :
    ∃ before last behind, chunks = before ++ last :: behind ∧ last ≠ [] ∧ behind.flatten = [] ∧
      ((fresh id).run (chunks.map .data)).map outcome =
        List.replicate before.length (.accumulating, none) ++
          (.processing, some (.envelope request)) ::
            List.replicate behind.length (.processing, none) := by
  obtain ⟨before, last, behind, rfl, notEmpty, empty, quiet, complete⟩ :=
    (completesLast_request request).exists_complete cut
  exact ⟨before, last, behind, rfl, notEmpty, empty,
    (isGathering_fresh id).run_complete quiet complete behind⟩

/-- A request with a line feed and a frame number. -/
def numberedRequest : ImageRequest := ⟨"aGk=", "a\nb", "now", some 7, none⟩

/-- The request is cut in the middle of its escape, with empty chunks behind both parts. -/
theorem run_numberedRequest :
    [numberedRequest.toBytes.take 68, [], numberedRequest.toBytes.drop 68, []].flatten =
        numberedRequest.toBytes ∧
      ∃ before last behind,
        [numberedRequest.toBytes.take 68, [], numberedRequest.toBytes.drop 68, []] =
          before ++ last :: behind ∧ last ≠ [] ∧ behind.flatten = [] ∧
        ((fresh 1).run ([numberedRequest.toBytes.take 68, [], numberedRequest.toBytes.drop 68,
            []].map .data)).map outcome =
          List.replicate before.length (.accumulating, none) ++
            (.processing, some (.envelope numberedRequest)) ::
              List.replicate behind.length (.processing, none) :=
  have cut : [numberedRequest.toBytes.take 68, [], numberedRequest.toBytes.drop 68, []].flatten =
      numberedRequest.toBytes := by simp
  ⟨cut, run_request numberedRequest 1 cut⟩

/-! ## Raw images -/

theorem parse?_eq_none_iff {buffer : Bytes} :
    parse? ImageRequest.shape buffer = .ok none ↔ read? buffer = none := by
  unfold parse?
  constructor
  · intro incomplete
    split at incomplete
    · next noDocument => exact noDocument
    · split at incomplete <;> cases incomplete
  · intro noDocument
    rw [noDocument]

/-- A raw image is what stands before the first marker, unless nothing does or all of it is a
document. -/
theorem assemble?_eq_raw_iff {buffer image : Bytes} :
    assemble? buffer = some (.raw image) ↔
      read? buffer = none ∧
        ∃ offset, markerOffset? buffer = some offset ∧ offset ≠ 0 ∧ image = buffer.take offset := by
  unfold assemble?
  constructor
  · intro assembled
    split at assembled
    · cases assembled
    · cases assembled
    · next incomplete =>
      refine ⟨parse?_eq_none_iff.mp incomplete, ?_⟩
      split at assembled
      · cases assembled
      · cases assembled
      · next offset notZero found =>
        cases assembled
        exact ⟨offset, found, notZero, rfl⟩
  · rintro ⟨noDocument, offset, found, notZero, rfl⟩
    obtain ⟨n, rfl⟩ := Nat.exists_eq_succ_of_ne_zero notZero
    rw [parse?_eq_none_iff.mpr noDocument]
    simp [found]

theorem read?_of_assemble?_eq_none {buffer : Bytes} (quiet : assemble? buffer = none) :
    read? buffer = none := by
  unfold assemble? at quiet
  split at quiet
  · cases quiet
  · cases quiet
  · next incomplete => exact parse?_eq_none_iff.mp incomplete

/-- A byte behind which there is no more of a complete document than before it. -/
def isInert (b : UInt8) : Bool := isBlank b || !isClosing b

theorem isInert_of_mem_endMarker {b : UInt8} (inside : b ∈ endMarker) : isInert b = true := by
  have all : ∀ b ∈ endMarker, isInert b = true := by decide +kernel
  exact all b inside

/-- No inert bytes complete a document. -/
theorem read?_append_inert {s : Bytes} (noDocument : read? s = none) {more : Bytes}
    (inert : ∀ b ∈ more, isInert b = true) : read? (s ++ more) = none := by
  induction more using List.reverseRecOn with
  | nil => rwa [List.append_nil]
  | append_singleton more b ih =>
    have incomplete := ih fun c inside => inert c (List.mem_append_left [b] inside)
    have last := inert b (by simp)
    rw [← List.append_assoc]
    by_cases blank : isBlank b = true
    · cases complete : read? (s ++ more ++ [b]) with
      | none => rfl
      | some document =>
        rw [read?_of_read?_append_blank blank complete] at incomplete
        cases incomplete
    · simp only [Bool.not_eq_true] at blank
      refine read?_eq_none_of_last blank ?_
      simpa [isInert, blank] using last

/-- How a raw image can be told from what its sender puts behind it. -/
structure Separable (image : Bytes) : Prop where
  notEmpty : image ≠ []
  firstMarker : markerOffset? (Client.rawRequest image) = some image.length
  noDocument : ∀ part, part <+: image → parse? ImageRequest.shape part = .ok none

/-- No document is read before the last byte of a separable image with its marker. -/
theorem Separable.read?_eq_none {image : Bytes} (separable : Separable image)
    {part more : Bytes} (parts : part ++ more = Client.rawRequest image) : read? part = none := by
  rcases List.append_eq_append_iff.mp parts with ⟨rest, whole, -⟩ | ⟨marker, rfl, whole⟩
  · exact parse?_eq_none_iff.mp (separable.noDocument part ⟨rest, whole.symm⟩)
  · have imageIncomplete := parse?_eq_none_iff.mp (separable.noDocument image (List.prefix_refl _))
    refine read?_append_inert imageIncomplete fun b inside => isInert_of_mem_endMarker ?_
    rw [whole]
    exact List.mem_append_left more inside

/-- The marker is not found before its last byte. -/
theorem Separable.markerOffset?_eq_none {image : Bytes} (separable : Separable image)
    {part more : Bytes} (parts : part ++ more = Client.rawRequest image) (unfinished : more ≠ []) :
    markerOffset? part = none := by
  refine markerOffset?_eq_none_iff.mpr fun offset stands => ?_
  have initial : part <+: Client.rawRequest image := ⟨more, parts⟩
  have notBefore : ¬ offset < image.length := fun before =>
    (markerOffset?_eq_some_iff.mp separable.firstMarker).2 offset before (stands.mono initial)
  have bound := stands.bound
  have length := congrArg List.length parts
  have some : 0 < more.length := List.length_pos_iff.mpr unfinished
  simp only [Client.rawRequest, List.length_append, length_endMarker] at length
  omega

theorem Separable.completesLast {image : Bytes} (separable : Separable image) :
    CompletesLast (Client.rawRequest image) (.raw image) := by
  constructor
  · refine assemble?_eq_raw_iff.mpr ⟨separable.read?_eq_none (List.append_nil _), image.length,
      separable.firstMarker, ?_, by simp [Client.rawRequest]⟩
    simpa using separable.notEmpty
  · intro part more parts unfinished
    exact assemble?_eq_none (separable.read?_eq_none parts)
      (separable.markerOffset?_eq_none parts unfinished)

/-- The first calls of a run, up to the one that brings the last byte, hand out nothing but the
request of that last one. -/
def HandsOutLast (id : UInt64) (chunks : List Bytes) (request : InboundRequest) : Prop :=
  ∃ before last behind, chunks = before ++ last :: behind ∧ last ≠ [] ∧ behind.flatten = [] ∧
    (((fresh id).run (chunks.map .data)).map (·.2)).take (before.length + 1) =
      List.replicate before.length none ++ [some request]

/-- What a run hands out is the second part of its outcomes. -/
theorem map_outcome_snd (results : List (Connection × Option InboundRequest)) :
    (results.map outcome).map (·.2) = results.map (·.2) := by
  simp [outcome, Function.comp_def]

theorem Separable.handsOutLast {image : Bytes} (separable : Separable image) (id : UInt64)
    {chunks : List Bytes} (cut : chunks.flatten = Client.rawRequest image) :
    HandsOutLast id chunks (.raw image) := by
  obtain ⟨before, last, behind, rfl, notEmpty, empty, quiet, complete⟩ :=
    separable.completesLast.exists_complete cut
  refine ⟨before, last, behind, rfl, notEmpty, empty, ?_⟩
  have run := congrArg (List.map (·.2))
    ((isGathering_fresh id).run_complete quiet complete behind)
  rw [map_outcome_snd] at run
  rw [run]
  simp [List.take_append]

/-- In one piece, the request is assembled from all bytes. -/
theorem HandsOutLast.assemble? {id : UInt64} {whole : Bytes} {request : InboundRequest}
    (handsOut : HandsOutLast id [whole] request) :
    Connection.assemble? whole = some request := by
  obtain ⟨before, last, behind, split, -, -, outcomes⟩ := handsOut
  have first : before = [] := by
    have length := congrArg List.length split
    simp only [List.length_cons, List.length_nil, List.length_append] at length
    exact List.length_eq_zero_iff.mp (by omega)
  subst first
  have answered : ((fresh id).onData whole).2 = some request := by
    simpa [run, step] using outcomes
  rw [(isGathering_fresh id).onData_snd] at answered
  exact answered

/-- In two pieces, nothing is assembled from the first one. -/
theorem HandsOutLast.assemble?_first {id : UInt64} {part more : Bytes} {request : InboundRequest}
    (handsOut : HandsOutLast id [part, more] request) (unfinished : more ≠ []) :
    Connection.assemble? part = none := by
  obtain ⟨before, last, behind, split, -, empty, outcomes⟩ := handsOut
  cases before with
  | nil =>
    simp only [List.nil_append, List.cons.injEq] at split
    rw [← split.2] at empty
    exact absurd (by simpa using empty) unfinished
  | cons first before =>
    simp only [List.cons_append, List.cons.injEq] at split
    have answered : ((fresh id).onData part).2 = none := by
      simp only [List.map_cons, run, step, List.length_cons, List.take_succ_cons,
        List.replicate_succ, List.cons_append, List.cons.injEq] at outcomes
      exact outcomes.1
    rw [(isGathering_fresh id).onData_snd] at answered
    exact answered

theorem separable_of_handsOutLast {image : Bytes} {id : UInt64}
    (handsOut : ∀ chunks, chunks.flatten = Client.rawRequest image →
      HandsOutLast id chunks (.raw image)) : Separable image := by
  have whole := (handsOut [Client.rawRequest image] (by simp)).assemble?
  obtain ⟨-, offset, found, notZero, taken⟩ := assemble?_eq_raw_iff.mp whole
  have bound := (markerOffset?_eq_some_iff.mp found).1.bound
  have length := congrArg List.length taken
  simp only [Client.rawRequest, List.length_append, length_endMarker, List.length_take] at bound length
  have atEnd : offset = image.length := by omega
  subst atEnd
  refine ⟨by simpa using notZero, found, ?_⟩
  rintro part ⟨rest, rfl⟩
  have unfinished : rest ++ endMarker ≠ [] := by
    intro empty
    have marker := congrArg List.length (List.append_eq_nil_iff.mp empty).2
    rw [length_endMarker] at marker
    cases marker
  have cut : [part, rest ++ endMarker].flatten = Client.rawRequest (part ++ rest) := by
    simp [Client.rawRequest]
  exact parse?_eq_none_iff.mpr
    (read?_of_assemble?_eq_none ((handsOut _ cut).assemble?_first unfinished))

/-- However a raw image with its marker is cut into chunks, it is handed out with the last byte and
nothing before: this is so exactly for the images that are not empty, in which no marker starts
before their end, and of which no first part is a complete document. -/
theorem handsOutLast_rawRequest_iff (image : Bytes) (id : UInt64) :
    (∀ chunks, chunks.flatten = Client.rawRequest image → HandsOutLast id chunks (.raw image)) ↔
      image ≠ [] ∧ markerOffset? (Client.rawRequest image) = some image.length ∧
        ∀ part, part <+: image → parse? ImageRequest.shape part = .ok none := by
  constructor
  · intro handsOut
    have separable := separable_of_handsOutLast handsOut
    exact ⟨separable.notEmpty, separable.firstMarker, separable.noDocument⟩
  · rintro ⟨notEmpty, firstMarker, noDocument⟩ chunks cut
    exact Separable.handsOutLast ⟨notEmpty, firstMarker, noDocument⟩ id cut

end Connection

end FrameCourier.Service
