import FrameCourier.Proofs.Service.Fragments

/-!
# Two requests on one connection

A connection makes one request of all that it is sent.  The first of two requests is that one if
some chunk ends right behind it, or behind blanks that follow it.  If no chunk does, the document
of the first request is never alone in the buffer, and all of it becomes part of a raw image.
-/

namespace FrameCourier.Service.Connection

open Wire Document

/-- The bytes before the first end marker, or all of them if there is none. -/
def beforeMarker (s : Bytes) : Bytes :=
  match markerOffset? s with
  | some offset => s.take offset
  | none => s

/-- Some of the first chunks are the given bytes, with nothing but blanks behind them. -/
def CutBehind (first : Bytes) (chunks : List Bytes) : Prop :=
  ∃ part blanks, part <+: chunks ∧ IsBlank blanks ∧ part.flatten = first ++ blanks

/-- What is assembled from a request and the bytes behind it. -/
theorem assemble?_behind_request (request : ImageRequest) (more : Bytes) :
    assemble? (request.toBytes ++ more) =
      if IsBlank more then some (.envelope request)
      else (markerOffset? more).map fun offset => .raw (request.toBytes ++ more.take offset) := by
  split
  · next blank => exact assemble?_request request blank
  · next notBlank =>
    have noDocument : read? (request.toBytes ++ more) = none := by
      rw [request.read?_toBytes_append, if_neg notBlank]
    have found := markerOffset?_append request.lineFeed_not_mem_toBytes more
    cases marker : markerOffset? more with
    | none =>
      rw [marker] at found
      exact assemble?_eq_none noDocument found
    | some offset =>
      rw [marker] at found
      refine assemble?_eq_raw_iff.mpr ⟨noDocument, request.toBytes.length + offset, found, ?_, ?_⟩
      · have some := List.length_pos_iff.mpr request.toBytes_ne_nil
        omega
      · rw [List.take_length_add_append]

theorem beforeMarker_of_markerOffset? {s t : Bytes} (initial : s <+: t) {offset : Nat}
    (found : markerOffset? s = some offset) : beforeMarker t = s.take offset := by
  have bound := (markerOffset?_eq_some_iff.mp found).1.bound
  unfold beforeMarker
  rw [markerOffset?_mono initial found]
  obtain ⟨rest, rfl⟩ := initial
  exact List.take_append_of_le_length (by omega)

section

variable {first : ImageRequest} {second : Bytes} {chunks : List Bytes}

/-- Chunks that end behind the first request do not stay quiet. -/
theorem CutBehind.not_quiet (cutBehind : CutBehind first.toBytes chunks) : ¬ Quiet [] chunks := by
  obtain ⟨part, blanks, initial, blank, parts⟩ := cutBehind
  intro quiet
  have nothing := quiet part initial
  rw [List.nil_append, parts, assemble?_request first blank] at nothing
  cases nothing

/-- If all chunks stay quiet, no marker is in them. -/
theorem beforeMarker_of_quiet (cut : chunks.flatten = first.toBytes ++ second)
    (quiet : Quiet [] chunks) : beforeMarker second = second := by
  have nothing := quiet chunks (List.prefix_refl chunks)
  rw [List.nil_append, cut, assemble?_behind_request] at nothing
  split at nothing
  · cases nothing
  · unfold beforeMarker
    rw [Option.map_eq_none_iff.mp nothing]

/-- The first chunks of which a request is assembled hold all bytes of the first request. -/
theorem exists_append_of_complete {before behind : List Bytes} {last : Bytes}
    {request : InboundRequest}
    (cut : (before ++ last :: behind).flatten = first.toBytes ++ second)
    (complete : assemble? (before.flatten ++ last) = some request) :
    ∃ more, before.flatten ++ last = first.toBytes ++ more ∧ more <+: second := by
  have parts : (before.flatten ++ last) ++ behind.flatten = first.toBytes ++ second := by
    rw [← cut]
    simp
  rcases List.append_eq_append_iff.mp parts with ⟨rest, whole, -⟩ | ⟨more, whole, rest⟩
  · by_cases exact : rest = []
    · refine ⟨[], ?_, List.nil_prefix⟩
      rw [whole, exact, List.append_nil, List.append_nil]
    · rw [assemble?_of_append_eq_toBytes first whole.symm exact] at complete
      cases complete
  · exact ⟨more, whole, behind.flatten, rest.symm⟩

/-- Before the first complete request no chunk ends behind the first one, and behind it only
blanks do. -/
theorem CutBehind.blank_of_complete {before behind : List Bytes} {last more : Bytes}
    (cutBehind : CutBehind first.toBytes (before ++ last :: behind)) (quiet : Quiet [] before)
    (parts : before.flatten ++ last = first.toBytes ++ more) : IsBlank more := by
  obtain ⟨part, blanks, initial, blank, whole⟩ := cutBehind
  have boundary : before ++ [last] <+: before ++ last :: behind := ⟨behind, by simp⟩
  rcases List.prefix_or_prefix_of_prefix initial boundary with earlier | later
  · rcases List.prefix_concat_iff.mp earlier with same | inside
    · rw [same] at whole
      simp only [List.flatten_append, List.flatten_cons, List.flatten_nil, List.append_nil] at whole
      rw [parts] at whole
      rw [List.append_cancel_left whole]
      exact blank
    · exact absurd quiet (CutBehind.not_quiet ⟨part, blanks, inside, blank, whole⟩)
  · obtain ⟨rest, rfl⟩ := later
    have longer : first.toBytes ++ (more ++ rest.flatten) = first.toBytes ++ blanks := by
      rw [← whole, ← List.append_assoc, ← parts]
      simp
    intro b inside
    refine blank b ?_
    rw [← List.append_cancel_left longer]
    exact List.mem_append_left _ inside

/-- Of a request and whatever is sent behind it, cut in any way, exactly one request is made when
the client has ended.  It is the first request if a chunk ends behind it or behind blanks that
follow it; otherwise it is the raw image of all bytes before the first end marker. -/
theorem requests_back_to_back (first : ImageRequest) (second : Bytes) (id : UInt64)
    {chunks : List Bytes} (cut : chunks.flatten = first.toBytes ++ second) :
    (CutBehind first.toBytes chunks →
      (fresh id).requests (chunks.map .data ++ [.peerClosed]) = [.envelope first]) ∧
    (¬ CutBehind first.toBytes chunks →
      (fresh id).requests (chunks.map .data ++ [.peerClosed]) =
        [.raw (first.toBytes ++ beforeMarker second)]) := by
  have gathering := isGathering_fresh id
  have start : assemble? [] = none := assemble?_of_append_eq_toBytes first
    (List.nil_append _) first.toBytes_ne_nil
  rcases quiet_or_exists_complete start chunks with
    quiet | ⟨before, last, behind, request, rfl, quiet, complete⟩
  · have some : [] ++ chunks.flatten ≠ [] := by
      rw [cut]
      simp [first.toBytes_ne_nil]
    have handedOut := gathering.requests_quiet quiet some
    refine ⟨fun cutBehind => absurd quiet cutBehind.not_quiet, fun _ => handedOut.trans ?_⟩
    rw [beforeMarker_of_quiet cut quiet, ← cut]
    rfl
  · have handedOut := gathering.requests_complete quiet complete behind
    rw [List.nil_append] at complete
    obtain ⟨more, parts, initial⟩ := exists_append_of_complete cut complete
    rw [parts, assemble?_behind_request] at complete
    constructor
    · intro cutBehind
      rw [if_pos (cutBehind.blank_of_complete quiet parts)] at complete
      cases complete
      exact handedOut
    · intro notCut
      have notBlank : ¬ IsBlank more := fun blank =>
        notCut ⟨before ++ [last], more, ⟨behind, by simp⟩, blank, by simpa using parts⟩
      rw [if_neg notBlank] at complete
      obtain ⟨offset, found, rfl⟩ := Option.map_eq_some_iff.mp complete
      rw [beforeMarker_of_markerOffset? initial found]
      exact handedOut

end

/-- In two chunks the first request is handed out, in one chunk both are one image. -/
theorem requests_back_to_back_numberedRequest :
    ([numberedRequest.toBytes, numberedRequest.toBytes].flatten =
        numberedRequest.toBytes ++ numberedRequest.toBytes ∧
      (fresh 1).requests
        ([numberedRequest.toBytes, numberedRequest.toBytes].map .data ++ [.peerClosed]) =
        [.envelope numberedRequest]) ∧
    ([numberedRequest.toBytes ++ numberedRequest.toBytes].flatten =
        numberedRequest.toBytes ++ numberedRequest.toBytes ∧
      (fresh 1).requests
        ([numberedRequest.toBytes ++ numberedRequest.toBytes].map .data ++ [.peerClosed]) =
        [.raw (numberedRequest.toBytes ++ beforeMarker numberedRequest.toBytes)]) := by
  have two : [numberedRequest.toBytes, numberedRequest.toBytes].flatten =
      numberedRequest.toBytes ++ numberedRequest.toBytes := by simp
  have one : [numberedRequest.toBytes ++ numberedRequest.toBytes].flatten =
      numberedRequest.toBytes ++ numberedRequest.toBytes := by simp
  refine ⟨⟨two, ?_⟩, one, ?_⟩
  · exact (requests_back_to_back numberedRequest numberedRequest.toBytes 1 two).1
      ⟨[numberedRequest.toBytes], [], ⟨[numberedRequest.toBytes], rfl⟩, by decide, by simp⟩
  · refine (requests_back_to_back numberedRequest numberedRequest.toBytes 1 one).2 ?_
    rintro ⟨part, blanks, initial, blank, whole⟩
    have brace : Ascii.openBrace ∈ numberedRequest.toBytes := by decide +kernel
    rcases List.prefix_cons_iff.mp initial with rfl | ⟨rest, rfl, none⟩
    · have empty := (List.append_eq_nil_iff.mp whole.symm).1
      exact numberedRequest.toBytes_ne_nil empty
    · rw [List.prefix_nil.mp none, List.flatten_singleton] at whole
      have isBlank := blank Ascii.openBrace (List.append_cancel_left whole ▸ brace)
      cases isBlank

/-- A request without any content. -/
def emptyRequest : ImageRequest := ⟨"", "", "", none, none⟩

/-- Two requests that arrive together do not have the first one handed out. -/
theorem requests_coalesced_ne_first :
    [emptyRequest.toBytes ++ emptyRequest.toBytes].flatten =
        emptyRequest.toBytes ++ emptyRequest.toBytes ∧
      (fresh 1).requests
        ([emptyRequest.toBytes ++ emptyRequest.toBytes].map .data ++ [.peerClosed]) ≠
        [.envelope emptyRequest] := by
  constructor
  · simp
  · decide +kernel

end FrameCourier.Service.Connection
