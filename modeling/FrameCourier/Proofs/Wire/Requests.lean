import FrameCourier.Proofs.Document.Complete
import FrameCourier.Proofs.Document.OneLine
import FrameCourier.Proofs.Document.Shapes
import FrameCourier.Wire.Request

/-!
# Requests are read as they are sent

The bytes of a request are read as the request.  No part of them that is cut short is a complete
document, and there is no end marker in them.
-/

namespace FrameCourier.Wire

open Document

namespace ImageRequest

theorem nodup_members (request : ImageRequest) : (Members.names request.members).Nodup := by
  obtain ⟨imageData, format, timestamp, frame, name⟩ := request
  cases frame <;> cases name <;> simp [Members.names, members]

theorem fitting_members (request : ImageRequest) :
    ∀ member ∈ request.members, member.1 = "type" ∨ Members.FitsSettled fields true member := by
  obtain ⟨imageData, format, timestamp, frame, name⟩ := request
  cases frame <;> cases name <;>
    simp [members, fields, Members.FitsSettled, Members.Fitting, Field.of, settle, Except.map,
      Document.optional]

theorem ofUntagged_members (request : ImageRequest) :
    ofUntagged (.members (request.members.final.without "type")) = .ok request := by
  have checked := Members.check_final_without request.fitting_members
  have found : ∀ name, name ≠ "type" →
      Members.value? (request.members.final.without "type") name =
        (Members.value? request.members name).map settle :=
    fun _ notTag => Members.value?_final_without request.nodup_members notTag
  obtain ⟨imageData, format, timestamp, frame, fileName⟩ := request
  simp only [ofUntagged, checked, Members.required, Members.optional, ne_eq, String.reduceEq,
    not_false_eq_true, found]
  cases frame <;> cases fileName <;>
    simp [members, Members.value?_cons, settle, Document.optional, Except.map, bind, Except.bind,
      pure, Except.pure]

/-- The document of a request has the shape of it. -/
theorem shape_toDocument (request : ImageRequest) :
    shape request.toDocument.settle = .ok request := by
  have tagged : Members.value? request.members "type" = some (.text "image_detection") := by
    simp [members, Members.value?_cons]
  simp only [shape, toDocument, untag_object request.nodup_members tagged, bind, Except.bind,
    asVariant, List.lookup_cons, beq_self_eq_true]
  exact request.ofUntagged_members

theorem readable_toDocument (request : ImageRequest) :
    Readable depthLimit request.toDocument := by
  have frameReads : ∀ frame : UInt32, Numeral.ReadsBack (.integer frame.toNat) := by
    intro frame
    have bound := frame.toNat_lt
    refine readsBack_natCast ?_
    simp only [Number.greatestWord64]
    omega
  refine .object fun member inside => ?_
  simp only [members, List.mem_append, List.mem_cons, List.not_mem_nil, or_false, Option.mem_toList,
    Option.map_eq_some_iff] at inside
  rcases inside with ((rfl | rfl | rfl | rfl) | ⟨frame, -, rfl⟩) | ⟨name, -, rfl⟩
  · exact .text _
  · exact .text _
  · exact .text _
  · exact .text _
  · exact .number (frameReads frame).readAs
  · exact .text _

/-! ## The bytes of a request -/

theorem toBytes_ne_nil (request : ImageRequest) : request.toBytes ≠ [] := by
  simp [toBytes, toDocument, compact]

/-- Whatever follows the bytes of a request, its document is read from them. -/
theorem value_toBytes (request : ImageRequest) (rest : Bytes) :
    value depthLimit (request.toBytes ++ rest) = .ok (request.toDocument, rest) :=
  value_compact request.readable_toDocument trivial

/-- The bytes of a request are a complete document before blanks, and before nothing else. -/
theorem read?_toBytes_append (request : ImageRequest) (rest : Bytes) :
    read? (request.toBytes ++ rest) = if IsBlank rest then some request.toDocument else none :=
  read?_of_value (request.value_toBytes rest)

/-- Bytes of a request that are cut short are no complete document. -/
theorem read?_of_append_eq_toBytes (request : ImageRequest) {before more : Bytes}
    (parts : before ++ more = request.toBytes) (unfinished : more ≠ []) : read? before = none := by
  have whole := request.value_toBytes []
  rw [List.append_nil] at whole
  exact read?_eq_none_of_append_eq whole parts unfinished

theorem lineFeed_not_mem_toBytes (request : ImageRequest) : Ascii.lineFeed ∉ request.toBytes :=
  (oneLine_compact request.toDocument).lineFeed_not_mem

/-- A document that is a request is handed on as one, whatever blanks follow it. -/
theorem parse?_toBytes_append (request : ImageRequest) {rest : Bytes} (blank : IsBlank rest) :
    parse? shape (request.toBytes ++ rest) = .ok (some request) := by
  unfold parse?
  rw [request.read?_toBytes_append, if_pos blank]
  simp only [request.shape_toDocument]

/-- The bytes of a request are read as the request. -/
theorem parse?_toBytes (request : ImageRequest) :
    parse? shape request.toBytes = .ok (some request) := by
  have read := request.parse?_toBytes_append isBlank_nil
  rwa [List.append_nil] at read

end ImageRequest

end FrameCourier.Wire
