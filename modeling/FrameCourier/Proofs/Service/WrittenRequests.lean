import FrameCourier.Proofs.Document.Limits
import FrameCourier.Proofs.Document.Shapes
import FrameCourier.Proofs.Document.Written
import FrameCourier.Proofs.Service.Gathering
import FrameCourier.Proofs.Wire.Requests
import FrameCourier.Service.Handler

/-!
# Which documents are requests

A request can be told from its bytes.  A complete object is one exactly if the last member of each
name is written as its field wants it and there are no other names.  Any other complete object, and
every complete text, number, boolean and null, is refused: a connection hands it out as invalid, and
no detector sees anything of it.
-/

namespace FrameCourier

open Document Ascii

namespace Document.Members

variable {fields : List Field} {closed : Bool}

/-- Members that pass the check all fit. -/
theorem fitting_of_check {seen : List String} {members : Members}
    (checked : check fields closed seen members = .ok ()) :
    ∀ member ∈ members, Fitting fields closed member := by
  induction members generalizing seen with
  | nil => simp
  | cons member members ih =>
    rw [List.forall_mem_cons]
    unfold check at checked
    split at checked
    · next unknown =>
      split at checked
      · cases checked
      · next passedOver =>
        refine ⟨?_, ih checked⟩
        simpa [Fitting, unknown] using passedOver
    · next field known =>
      split at checked
      · cases checked
      · split at checked
        · cases checked
        · next passes =>
          refine ⟨?_, ih checked⟩
          simpa [Fitting, known] using passes

section

variable {α : Type} {members : Members} {member : String × Document} {shape : Shape α}
  (distinct : members.names.Nodup) (inside : member ∈ members)

include distinct inside

/-- A member that is read for a field fits it. -/
theorem fitting_of_required {x : α} (read : required members member.1 shape = .ok x)
    (known : (fields.find? fun field => field.name == member.1) = some (.of member.1 shape)) :
    Fitting fields closed member := by
  rw [required, value?_of_mem distinct inside] at read
  have passes : shape member.2 = .ok x := read
  simp [Fitting, known, Field.of, passes, Except.map]

theorem fitting_of_optional {x : Option α} (read : optional members member.1 shape = .ok x)
    (known : (fields.find? fun field => field.name == member.1) =
      some (.of member.1 (Document.optional shape))) : Fitting fields closed member := by
  rw [optional, value?_of_mem distinct inside] at read
  have passes : Document.optional shape member.2 = .ok x := read
  simp [Fitting, known, Field.of, passes, Except.map]

end

theorem mem_names_iff {members : Members} {name : String} :
    name ∈ members.names ↔ members.value? name ≠ none := by
  rw [ne_eq, value?_eq_none_iff, not_not]

/-- Of the members of a name the last one is settled. -/
theorem value?_final_reverse (members : Members) (name : String) :
    value? members.final name = (value? members.reverse name).map settle := by
  rw [final, value?_settled, ← value?_settleMembers, settleMembers_eq_map, settleMembers_eq_map,
    List.map_reverse]

theorem mem_names_final {members : Members} {name : String} :
    name ∈ members.final.names ↔ name ∈ members.names := by
  rw [mem_names_iff, value?_final_reverse, ne_eq, Option.map_eq_none_iff, value?_eq_none_iff,
    not_not, names, List.map_reverse, List.mem_reverse, names]

theorem mem_names_without {members : Members} {tag name : String} :
    name ∈ names (members.without tag) ↔ name ≠ tag ∧ name ∈ members.names := by
  rw [mem_names_iff, value?_without, mem_names_iff]
  split <;> simp [*]

end Document.Members

namespace Wire.ImageRequest

/-! ## Fields by their bytes -/

variable {α : Type}

/-- A field that may be absent: nothing is found if it is absent or null, and otherwise something
that is written so. -/
def IsFound (holds : Bytes → α → Prop) (written : Option Bytes) : Option α → Prop
  | none => ∀ t ∈ written, t = Bytes.ofText "null"
  | some x => ∃ t ∈ written, holds t x

/-- The names that a request may have members of. -/
def memberNames : List String :=
  ["type", "image_data", "format", "timestamp", "originalFrame", "originalFileName"]

/-- An object with these members is written for the request. -/
structure IsWritten (request : ImageRequest) (parts : List (Bytes × Bytes)) : Prop where
  known : ∀ part ∈ parts, ∃ name ∈ memberNames, textOf? part.1 = some name
  tag : (lastWritten? parts "type").bind textOf? = some "image_detection"
  imageData : (lastWritten? parts "image_data").bind textOf? = some request.imageData
  format : (lastWritten? parts "format").bind textOf? = some request.format
  timestamp : (lastWritten? parts "timestamp").bind textOf? = some request.timestamp
  /-- A number of 32 bits, written with digits only. -/
  originFrame : IsFound (fun t n => IsDigits t ∧ digitsNumber t = n.toNat)
    (lastWritten? parts "originalFrame") request.originFrame
  originFileName : IsFound (fun t name => textOf? t = some name)
    (lastWritten? parts "originalFileName") request.originFileName

section

variable {members : Members} {name : String} {written : Option Bytes} {found : Option Document}
  (related : Option.Rel IsWrittenAs written found)
  (known : Members.value? members name = found.map settle)

include related known

theorem required_eq_ok_iff {s : String} :
    Members.required members name asText = .ok s ↔ written.bind textOf? = some s := by
  unfold Members.required
  rw [known]
  cases related with
  | none => simp
  | @some t document isWritten =>
    rw [Option.bind_some, isWritten.textOf?_eq_some_iff]
    cases document <;> simp [settle, asText, wrongType]

theorem optional_eq_ok_iff (shape : Shape α) {holds : Bytes → α → Prop}
    (shapes : ∀ t document x, IsWrittenAs t document →
      (shape document.settle = .ok x ↔ holds t x))
    (notNull : ∀ x, shape .null ≠ .ok x) {x : Option α} :
    Members.optional members name shape = .ok x ↔ IsFound holds written x := by
  unfold Members.optional
  rw [known]
  cases related with
  | none => cases x <;> simp [IsFound]
  | @some t document isWritten =>
    have shaped := shapes t document
    have isNull := isWritten.eq_null_iff
    by_cases null : document = .null
    · subst null
      cases x with
      | none => simp [IsFound, isNull.mpr rfl, Document.optional, settle]
      | some y => simp [IsFound, ← shaped y isWritten, Document.optional, settle, notNull]
    · have settled : document.settle ≠ .null := by
        intro same
        cases document with
        | null => exact null rfl
        | _ => cases same
      have read : Document.optional shape document.settle =
          (shape document.settle).map Option.some := by
        unfold Document.optional
        split
        · next same => exact absurd same settled
        · rfl
      cases x with
      | none =>
        cases result : shape document.settle <;>
          simp [IsFound, read, result, isNull, null, Except.map]
      | some y =>
        cases result : shape document.settle <;>
          simp [IsFound, read, result, ← shaped y isWritten, Except.map]

end

theorem asText_settle_iff {t : Bytes} {document : Document} (written : IsWrittenAs t document)
    {s : String} : asText document.settle = .ok s ↔ textOf? t = some s := by
  rw [written.textOf?_eq_some_iff]
  cases document <;> simp [settle, asText, wrongType]

theorem asUInt32_eq_ok_iff {document : Document} {n : UInt32} :
    asUInt32 document = .ok n ↔ document = .number (.integer n.toNat) := by
  constructor
  · intro read
    obtain ⟨m, read, same⟩ := eq_ok_of_map_eq_ok read
    unfold asInteger at read
    split at read
    · split at read
      · next range =>
        cases read
        obtain ⟨least, greatest⟩ := Bool.and_eq_true_iff.mp range
        obtain ⟨k, rfl⟩ := Int.eq_ofNat_of_zero_le (of_decide_eq_true least)
        have small : k < UInt32.size :=
          Nat.lt_succ_of_le (Int.ofNat_le.mp (of_decide_eq_true greatest))
        rw [← same, Int.toNat_natCast, UInt32.toNat_ofNat_of_lt' small]
      · cases read
    · cases read
  · rintro rfl
    exact asUInt32_toNat n

theorem asUInt32_settle_iff {t : Bytes} {document : Document} (written : IsWrittenAs t document)
    {n : UInt32} :
    asUInt32 document.settle = .ok n ↔ IsDigits t ∧ digitsNumber t = n.toNat := by
  have fits : n.toNat ≤ Number.greatestWord64 := by
    have small := n.toNat_lt
    simp only [Number.greatestWord64]
    omega
  rw [written.digits_iff fits, asUInt32_eq_ok_iff]
  cases document <;> simp [settle]

/-! ## The shape of a request -/

variable {request : ImageRequest} {members : Members}

theorem asVariant_eq_ok_iff {tag : Document} {found : Unit} :
    asVariant [("image_detection", ())] tag = .ok found ↔ tag = .text "image_detection" := by
  cases tag with
  | text s =>
    by_cases same : s = "image_detection"
    · simp [asVariant, same]
    · have differs : (s == "image_detection") = false := by simpa using same
      simp [asVariant, List.lookup_cons, differs, same]
  | _ => simp [asVariant, wrongType]

theorem shape_object_eq_ok_iff :
    shape (.object members) = .ok request ↔
      members.value? "type" = some (.text "image_detection") ∧
        ofUntagged (.members (members.without "type")) = .ok request := by
  constructor
  · intro success
    obtain ⟨⟨tag, untagged⟩, tagged, success⟩ := eq_ok_of_bind_eq_ok success
    obtain ⟨_, variant, success⟩ := eq_ok_of_bind_eq_ok success
    rw [asVariant_eq_ok_iff] at variant
    subst variant
    simp only [untag] at tagged
    split at tagged
    · next found =>
      cases tagged
      exact ⟨found, success⟩
    · cases tagged
  · rintro ⟨found, read⟩
    have tagged : untag "DetectionRequest" "type" (.object members) =
        .ok (.text "image_detection", .members (members.without "type")) := by
      simp only [untag, found]
    have variant : asVariant [("image_detection", ())] (.text "image_detection") = .ok () :=
      asVariant_eq_ok_iff.mpr rfl
    simp only [shape, tagged, bind, Except.bind, variant, read]

theorem ofUntagged_members_eq_ok_iff :
    ofUntagged (.members members) = .ok request ↔
      Members.check fields true [] members = .ok () ∧
      Members.required members "image_data" asText = .ok request.imageData ∧
      Members.required members "format" asText = .ok request.format ∧
      Members.required members "timestamp" asText = .ok request.timestamp ∧
      Members.optional members "originalFrame" asUInt32 = .ok request.originFrame ∧
      Members.optional members "originalFileName" asText = .ok request.originFileName := by
  constructor
  · intro success
    obtain ⟨_, checked, success⟩ := eq_ok_of_bind_eq_ok success
    obtain ⟨_, imageData, success⟩ := eq_ok_of_bind_eq_ok success
    obtain ⟨_, format, success⟩ := eq_ok_of_bind_eq_ok success
    obtain ⟨_, timestamp, success⟩ := eq_ok_of_bind_eq_ok success
    obtain ⟨_, frame, success⟩ := eq_ok_of_bind_eq_ok success
    obtain ⟨_, name, success⟩ := eq_ok_of_bind_eq_ok success
    cases success
    exact ⟨checked, imageData, format, timestamp, frame, name⟩
  · rintro ⟨checked, imageData, format, timestamp, frame, name⟩
    simp only [ofUntagged, checked, imageData, format, timestamp, frame, name, bind, Except.bind,
      pure, Except.pure]

/-- Fields that are read pass the check, so that only unknown names are refused. -/
theorem check_eq_ok_iff_known (distinct : members.names.Nodup)
    {imageData format timestamp : String} {frame : Option UInt32} {fileName : Option String}
    (imageRead : Members.required members "image_data" asText = .ok imageData)
    (formatRead : Members.required members "format" asText = .ok format)
    (timestampRead : Members.required members "timestamp" asText = .ok timestamp)
    (frameRead : Members.optional members "originalFrame" asUInt32 = .ok frame)
    (nameRead : Members.optional members "originalFileName" asText = .ok fileName) :
    Members.check fields true [] members = .ok () ↔
      ∀ name ∈ members.names, name ∈ fields.map (·.name) := by
  constructor
  · intro checked name inside
    obtain ⟨member, present, rfl⟩ := List.mem_map.mp inside
    have fits := Members.fitting_of_check checked member present
    unfold Members.Fitting at fits
    split at fits
    · cases fits
    · next field known =>
      have same : field.name = member.1 := by simpa using List.find?_some known
      rw [← same]
      exact List.mem_map_of_mem (List.mem_of_find?_eq_some known)
  · intro known
    refine Members.check_eq_ok (fun member inside => ?_) distinct fun _ _ => List.not_mem_nil
    have named := known member.1 (List.mem_map_of_mem inside)
    obtain ⟨name, document⟩ := member
    simp only [fields, Field.of, List.map_cons, List.map_nil, List.mem_cons, List.not_mem_nil,
      or_false] at named
    rcases named with rfl | rfl | rfl | rfl | rfl
    · exact Members.fitting_of_required distinct inside imageRead rfl
    · exact Members.fitting_of_required distinct inside formatRead rfl
    · exact Members.fitting_of_required distinct inside timestampRead rfl
    · exact Members.fitting_of_optional distinct inside frameRead rfl
    · exact Members.fitting_of_optional distinct inside nameRead rfl

theorem required_asText_iff {name s : String} :
    Members.required members name asText = .ok s ↔ members.value? name = some (.text s) := by
  unfold Members.required
  cases members.value? name with
  | none => simp
  | some document => cases document <;> simp [asText, wrongType]

section

variable {parts : List (Bytes × Bytes)}
  (each : List.Forall₂ (ReadsPart (value (depthLimit - 1))) parts members)

include each

theorem known_iff {allowed : List String} :
    (∀ part ∈ parts, ∃ name ∈ allowed, textOf? part.1 = some name) ↔
      ∀ name ∈ members.names, name ∈ allowed := by
  induction each with
  | nil => simp [Members.names]
  | @cons part member parts members reads _ ih =>
    have names : Members.names (member :: members) = member.1 :: Members.names members := rfl
    rw [List.forall_mem_cons, ih, names, List.forall_mem_cons, reads.textOf?_name]
    simp

/-- What is written for a request is all that its shape depends on. -/
theorem shape_settle_eq_ok_iff :
    shape (Document.object members).settle = .ok request ↔ request.IsWritten parts := by
  have settled : (Document.object members).settle = .object members.final := rfl
  have others : ∀ name, name ≠ "type" → Members.value? (members.final.without "type") name =
      (Members.value? members.reverse name).map settle := by
    intro name notTag
    rw [Members.value?_without, if_neg notTag, Members.value?_final_reverse]
  have distinct : (Members.names (members.final.without "type")).Nodup :=
    Members.nodup_without (Members.ordered_settled _).nodup "type"
  -- Each field by what is written for it.
  have tag := required_eq_ok_iff (lastWritten?_rel each "type")
    (Members.value?_final_reverse members "type") (s := "image_detection")
  have text := fun (name s : String) (notTag : name ≠ "type") =>
    required_eq_ok_iff (lastWritten?_rel each name) (others name notTag) (s := s)
  have frame := optional_eq_ok_iff (lastWritten?_rel each "originalFrame")
    (others "originalFrame" (by decide)) asUInt32
    (fun _ _ _ written => asUInt32_settle_iff written)
    (fun _ equal => by cases equal) (x := request.originFrame)
  have fileName := optional_eq_ok_iff (lastWritten?_rel each "originalFileName")
    (others "originalFileName" (by decide)) asText
    (fun _ _ _ written => asText_settle_iff written)
    (fun _ equal => by cases equal) (x := request.originFileName)
  have names : (∀ name ∈ Members.names (members.final.without "type"),
      name ∈ fields.map (·.name)) ↔ ∀ name ∈ members.names, name ∈ memberNames := by
    have split : memberNames = "type" :: fields.map (·.name) := rfl
    simp only [Members.mem_names_without, Members.mem_names_final, split, List.mem_cons]
    exact forall_congr' fun name =>
      ⟨fun known inside => or_iff_not_imp_left.mpr fun notTag => known ⟨notTag, inside⟩,
        fun known inside => (known inside.2).resolve_left inside.1⟩
  rw [settled, shape_object_eq_ok_iff, ofUntagged_members_eq_ok_iff, ← required_asText_iff, tag]
  constructor
  · rintro ⟨tagged, checked, image, format, timestamp, frameRead, nameRead⟩
    rw [check_eq_ok_iff_known distinct image format timestamp frameRead nameRead, names,
      ← known_iff each] at checked
    exact ⟨checked, tagged, (text _ _ (by decide)).mp image, (text _ _ (by decide)).mp format,
      (text _ _ (by decide)).mp timestamp, frame.mp frameRead, fileName.mp nameRead⟩
  · rintro ⟨known, tagged, image, format, timestamp, frameWritten, nameWritten⟩
    rw [← text _ _ (by decide)] at image format timestamp
    rw [← frame] at frameWritten
    rw [← fileName] at nameWritten
    refine ⟨tagged, ?_, image, format, timestamp, frameWritten, nameWritten⟩
    rw [check_eq_ok_iff_known distinct image format timestamp frameWritten nameWritten, names,
      ← known_iff each]
    exact known

end

end Wire.ImageRequest

namespace Service

open Wire

/-! ## What a connection makes of a document -/

/-- The buffer is one object with blanks around it, which is written with these members. -/
def IsObjectBuffer (parts : List (Bytes × Bytes)) (buffer : Bytes) : Prop :=
  ∃ lead object trail, buffer = lead ++ (object ++ trail) ∧ IsBlank lead ∧ IsBlank trail ∧
    IsObjectText parts object

/-- The buffer is a document but no request, and its sender is told so: the call with which a
connection has gathered it hands it out as invalid, and the detector is not called. -/
def IsRefused (buffer : Bytes) : Prop :=
  ∃ error : Wire.Error, parse? ImageRequest.shape buffer = .error error ∧
    error.kind = .validation ∧
    (∀ (connection : Connection) (chunk : Bytes), connection.IsGathering →
      connection.buffer ++ chunk = buffer →
        connection.onData chunk =
          (⟨connection.id, .processing, buffer⟩, some (.invalid error.message))) ∧
    ∀ codec settings detector now,
      handle codec settings detector now (.invalid error.message) =
        ⟨[], some (.ofError error.message now)⟩

section

theorem isRefused_of_shape_eq_error {buffer : Bytes} {document : Document} {mismatch : Mismatch}
    (complete : read? buffer = some document)
    (refused : ImageRequest.shape document.settle = .error mismatch) : IsRefused buffer := by
  have parsed : parse? ImageRequest.shape buffer = .error (.invalidEnvelope mismatch) := by
    simp only [parse?, complete, refused]
  refine ⟨.invalidEnvelope mismatch, parsed, rfl, fun connection chunk gathering gathered => ?_,
    fun codec settings detector now => rfl⟩
  have assembled : Connection.assemble? (connection.buffer ++ chunk) =
      some (.invalid (Wire.Error.invalidEnvelope mismatch).message) := by
    simp only [gathered, Connection.assemble?, parsed]
  rw [gathering.onData_some assembled, gathered]

variable {buffer : Bytes} {document : Document} (complete : read? buffer = some document)

include complete

/-- An object is read as a request or refused. -/
theorem request_or_refused {parts : List (Bytes × Bytes)} (isObject : IsObjectBuffer parts buffer) :
    (∀ request, parse? ImageRequest.shape buffer = .ok (some request) ↔ request.IsWritten parts) ∧
      ((∀ request : ImageRequest, ¬ request.IsWritten parts) → IsRefused buffer) := by
  obtain ⟨lead, object, trail, rfl, leadBlank, -, isObject⟩ := isObject
  obtain ⟨members, rfl, each⟩ := exists_members_of_read? leadBlank isObject complete
  constructor
  · intro request
    rw [← ImageRequest.shape_settle_eq_ok_iff each, parse?, complete]
    cases shaped : ImageRequest.shape (Document.object members).settle <;> simp [shaped]
  · intro unwritten
    cases shaped : ImageRequest.shape (Document.object members).settle with
    | ok request =>
      exact absurd ((ImageRequest.shape_settle_eq_ok_iff each).mp shaped) (unwritten request)
    | error mismatch => exact isRefused_of_shape_eq_error complete shaped

/-- What starts with a brace is an object. -/
theorem exists_isObjectBuffer (opens : (skipBlank buffer).head? = some openBrace) :
    ∃ parts, IsObjectBuffer parts buffer := by
  obtain ⟨lead, t, trail, rfl, leadBlank, trailBlank, isValue, -⟩ :=
    exists_phrase_of_read? complete
  rw [leadBlank.skipBlank_solid (isValue.isSolid.append trail)] at opens
  obtain ⟨c, s, rfl, -⟩ := isValue.exists_cons
  obtain rfl : c = openBrace := Option.some.inj opens
  obtain ⟨parts, object⟩ := isValue.exists_parts
  exact ⟨parts, lead, _, trail, rfl, leadBlank, trailBlank, object⟩

/-- What starts with neither a brace nor a bracket has no shape of a request. -/
theorem isRefused_of_head? {b : UInt8} (first : (skipBlank buffer).head? = some b)
    (notBrace : b ≠ openBrace) (notBracket : b ≠ openBracket) : IsRefused buffer := by
  obtain ⟨lead, t, trail, rfl, leadBlank, -, isValue, alone⟩ := exists_phrase_of_read? complete
  rw [leadBlank.skipBlank_solid (isValue.isSolid.append trail)] at first
  obtain ⟨c, s, rfl, -⟩ := isValue.exists_cons
  obtain rfl : c = b := Option.some.inj first
  have written : IsWrittenAs (c :: s) document := ⟨isValue, alone⟩
  have refused : ∃ mismatch, ImageRequest.shape document.settle = .error mismatch := by
    obtain ⟨decoded, rfl⟩ | ⟨opens, -⟩ | ⟨parts, members, ⟨inner, same, -⟩, -⟩ | ⟨n, -, rfl⟩ |
      word := written.kinds
    · exact ⟨_, rfl⟩
    · exact absurd (Option.some.inj opens) notBracket
    · exact absurd (List.cons.inj same).1 notBrace
    · exact ⟨_, rfl⟩
    · simp only [wordDocuments, List.mem_cons, List.not_mem_nil, or_false, Prod.mk.injEq] at word
      obtain ⟨-, rfl⟩ | ⟨-, rfl⟩ | ⟨-, rfl⟩ := word
      · exact ⟨_, rfl⟩
      · exact ⟨_, rfl⟩
      · exact ⟨_, rfl⟩
  obtain ⟨mismatch, refused⟩ := refused
  exact isRefused_of_shape_eq_error complete refused

end

/-- A complete document that is an object is a request exactly if it is written for it: with the
last member of each name as its field wants it, and no other names.  One that is written for no
request is refused, and so is every text, number, boolean and null.  Nothing is decided of bytes
that are no complete document. -/
theorem written_or_refused (buffer : Bytes) :
    (∀ parts, IsComplete buffer → IsObjectBuffer parts buffer →
      (∀ request, parse? ImageRequest.shape buffer = .ok (some request) ↔ request.IsWritten parts) ∧
        ((∀ request : ImageRequest, ¬ request.IsWritten parts) → IsRefused buffer)) ∧
    (∀ b, IsComplete buffer → (skipBlank buffer).head? = some b →
      (b = openBrace → ∃ parts, IsObjectBuffer parts buffer) ∧
        (b ≠ openBrace → b ≠ openBracket → IsRefused buffer)) ∧
    (¬ IsComplete buffer → parse? ImageRequest.shape buffer = .ok none) := by
  rw [← isSome_read?_iff]
  refine ⟨fun parts isComplete isObject => ?_, fun b isComplete first => ?_, fun incomplete => ?_⟩
  · obtain ⟨document, complete⟩ := Option.isSome_iff_exists.mp isComplete
    exact request_or_refused complete isObject
  · obtain ⟨document, complete⟩ := Option.isSome_iff_exists.mp isComplete
    refine ⟨fun isBrace => ?_, isRefused_of_head? complete first⟩
    rw [isBrace] at first
    exact exists_isObjectBuffer complete first
  · rw [Option.not_isSome_iff_eq_none] at incomplete
    simp only [parse?, incomplete]

/-- A request for the seventh frame of a file without a name. -/
def seventhRequest : ImageRequest := ⟨"aGk=", "jpg", "now", some 7, none⟩

theorem isObjectBuffer_empty : IsObjectBuffer [] (Bytes.ofText "\x7b \x7d") :=
  ⟨[], openBrace :: ([space] ++ [closeBrace]), [], by decide +kernel, isBlank_nil, isBlank_nil,
    [space], rfl, .noMember (by decide)⟩

/-- A request is written for itself; an empty object and a number are refused. -/
theorem written_or_refused_seventhRequest :
    (∃ parts, IsObjectBuffer parts seventhRequest.toBytes ∧ seventhRequest.IsWritten parts) ∧
      IsRefused (Bytes.ofText "\x7b \x7d") ∧ IsRefused (Bytes.ofText "17") := by
  refine ⟨?_, ?_, ?_⟩
  · obtain ⟨decided, objects, -⟩ := written_or_refused seventhRequest.toBytes
    have complete : IsComplete seventhRequest.toBytes := by
      have read := seventhRequest.read?_toBytes_append []
      rw [List.append_nil, if_pos isBlank_nil] at read
      exact isSome_read?_iff.mp (by rw [read]; rfl)
    obtain ⟨parts, isObject⟩ := (objects openBrace complete rfl).1 rfl
    refine ⟨parts, isObject, ?_⟩
    exact ((decided parts complete isObject).1 seventhRequest).mp seventhRequest.parse?_toBytes
  · have complete : IsComplete (Bytes.ofText "\x7b \x7d") :=
      isSome_read?_iff.mp (by decide +kernel)
    refine ((written_or_refused _).1 [] complete isObjectBuffer_empty).2 ?_
    intro request written
    cases written.tag
  · have complete : IsComplete (Bytes.ofText "17") := isSome_read?_iff.mp (by decide +kernel)
    exact ((written_or_refused _).2.1 _ complete rfl).2 (by decide +kernel) (by decide +kernel)

end Service

end FrameCourier
