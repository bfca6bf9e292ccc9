import FrameCourier.Archive.Record
import FrameCourier.Document.Reader
import FrameCourier.Document.Shape

/-!
# Reading archived frames

A stored frame is read straight from its file: a field is read when its name is met, so
that of two faults the one that comes first in the file is reported.  A repeated field is a
fault, and unknown fields are passed over.  The fields may also be written as a list.

The outcome of a detection is read as a whole before its two kinds are tried, the
predictions first.  Where reading stopped is reported as a line and a column.
-/

namespace FrameCourier.Archive

open Document Ascii

variable {α : Type}

/-- A fault, and the line and column where reading stopped. -/
structure ReadFault where
  fault : Fault
  line : Nat
  column : Nat
  deriving DecidableEq, Repr

def ReadFault.message (fault : ReadFault) : String :=
  fault.fault.message ++ " at line " ++ toString fault.line ++ " column " ++
    toString fault.column

/-- The place where `rest` is left of the whole input. -/
def ReadFault.ofStop (whole : Bytes) (stop : Stop) : ReadFault :=
  let passed := whole.take (whole.length - stop.rest.length)
  ⟨stop.fault, (passed.filter (· == lineFeed)).length + 1,
    (passed.reverse.takeWhile (· != lineFeed)).length⟩

/-- Refuses a value that is not of the wanted type; of a list or an object nothing is read. -/
def unexpected (wanted : String) (s : Bytes) : Except Stop α :=
  let refusal : Found → Bytes → Except Stop α := fun found rest =>
    .error ⟨.mismatched (.wrongType found wanted), true, rest⟩
  match skipBlank s with
  | [] => halt .endInValue []
  | b :: rest =>
    if b = openBracket then refusal .list (b :: rest)
    else if b = openBrace then refusal .object (b :: rest)
    else
      match value 0 (b :: rest) with
      | .error stop => .error stop
      | .ok (document, rest) => refusal (.of document) rest

/-- A fault that stands where the value before it ends. -/
def placedShape (result : Except Mismatch α) (rest : Bytes) : Scan α :=
  match result with
  | .ok x => .ok (x, rest)
  | .error mismatch => .error ⟨.mismatched mismatch, true, rest⟩

/-- An integer of the given shape. -/
def integerField (shape : Shape α) (wanted : String) (s : Bytes) : Scan α :=
  match skipBlank s with
  | [] => halt .endInValue []
  | b :: rest =>
    if b = minus || isDigit b then
      match numeral (b :: rest) with
      | .error stop => .error stop
      | .ok (n, rest) => placedShape (shape (.number n)) rest
    else unexpected wanted (b :: rest)

/-- A text, or a refusal that names what was wanted. -/
def textFieldOf (wanted : String) (s : Bytes) : Scan String :=
  match skipBlank s with
  | [] => halt .endInValue []
  | b :: rest => if b = quote then textBody rest else unexpected wanted (b :: rest)

def textField (s : Bytes) : Scan String := textFieldOf "a string" s

/-- A time in the relaxed notation. -/
def timeField (s : Bytes) : Scan Time.Instant :=
  match textFieldOf "an RFC 3339 formatted date and time string" s with
  | .error stop => .error stop
  | .ok (written, rest) =>
    match Time.readRelaxed written with
    | .ok t => .ok (t, rest)
    | .error fault => .error ⟨.unreadable fault.message, true, rest⟩

/-- A field that may be null. -/
def optionalField (field : Bytes → Scan α) (s : Bytes) : Scan (Option α) :=
  match skipBlank s with
  | lowerN :: rest => (literal "ull".toUTF8.data.toList rest).map fun rest => (none, rest)
  | s => (field s).map fun (x, rest) => (some x, rest)

/-! ## Outcomes -/

/-- A time inside a document that is read as a whole. -/
def asTime : Shape Time.Instant := fun document => do
  let written ← asText document
  match Time.readRelaxed written with
  | .ok t => return t
  | .error _ => wrongType document "an RFC 3339 formatted date and time string"

namespace Outcome

def completedFields : List Field :=
  [.of "timestamp" asTime, .of "objects" asCount,
    .of "predictions" (asList Wire.Prediction.shape), .of "processingTime" asInt64]

def asCompleted (members : Members) : Except Mismatch Outcome := do
  Members.check completedFields false [] members
  let timestamp ← Members.required members "timestamp" asTime
  let objects ← Members.required members "objects" asCount
  let predictions ← Members.required members "predictions" (asList Wire.Prediction.shape)
  let processingTime ← Members.required members "processingTime" asInt64
  return .completed timestamp objects predictions processingTime

def failedFields : List Field :=
  [.of "timestamp" asTime, .of "status" asText, .of "error" asText]

def asFailed (members : Members) : Except Mismatch Outcome := do
  Members.check failedFields false [] members
  let timestamp ← Members.required members "timestamp" asTime
  let status ← Members.required members "status" asText
  let error ← Members.required members "error" asText
  return .failed timestamp status error

/-- The first kind of outcome that a document is one of. -/
def shape : Shape Outcome
  | .object members =>
    match asCompleted members with
    | .ok outcome => .ok outcome
    | .error _ =>
      match asFailed members with
      | .ok outcome => .ok outcome
      | .error _ => .error (.noVariant "ArchivedDetection")
  | _ => .error (.noVariant "ArchivedDetection")

/-- An outcome as a field; its fault has no place yet. -/
def field (s : Bytes) : Scan Outcome :=
  match value (depthLimit - 1) s with
  | .error stop => .error stop
  | .ok (document, rest) =>
    match shape document with
    | .ok outcome => .ok (outcome, rest)
    | .error mismatch => refuse (.mismatched mismatch) rest

end Outcome

/-! ## Records -/

/-- The fields of a record that were met so far. -/
structure Draft where
  frameNumber : Option UInt32
  originFileName : Option String
  timestamp : Option Time.Instant
  format : Option String
  size : Option UInt64
  imageData : Option String
  detection : Option (Option Outcome)
  annotatedImageData : Option (Option String)

namespace Draft

def empty : Draft := ⟨none, none, none, none, none, none, none, none⟩

/-- A field of a name met for the first time. -/
def fresh (name : String) (sofar : Option α) (field : Bytes → Scan α) (s : Bytes) : Scan α :=
  if sofar.isSome then refuse (.mismatched (.repeatedField name)) s else namedValue field s

/-- Reads the member of a name into the draft. -/
def member (draft : Draft) (name : String) (s : Bytes) : Scan Draft :=
  match name with
  | "frameNumber" =>
    (fresh name draft.frameNumber (integerField asUInt32 "u32") s).map fun (x, s) =>
      ({ draft with frameNumber := some x }, s)
  | "originalFileName" =>
    (fresh name draft.originFileName textField s).map fun (x, s) =>
      ({ draft with originFileName := some x }, s)
  | "timestamp" =>
    (fresh name draft.timestamp timeField s).map fun (x, s) =>
      ({ draft with timestamp := some x }, s)
  | "format" =>
    (fresh name draft.format textField s).map fun (x, s) => ({ draft with format := some x }, s)
  | "size" =>
    (fresh name draft.size (integerField asCount "usize") s).map fun (x, s) =>
      ({ draft with size := some x }, s)
  | "imageData" =>
    (fresh name draft.imageData textField s).map fun (x, s) =>
      ({ draft with imageData := some x }, s)
  | "detection" =>
    (fresh name draft.detection (optionalField Outcome.field) s).map fun (x, s) =>
      ({ draft with detection := some x }, s)
  | "annotatedImageData" =>
    (fresh name draft.annotatedImageData (optionalField textField) s).map fun (x, s) =>
      ({ draft with annotatedImageData := some x }, s)
  | _ =>
    match nameColon s with
    | .error stop => .error stop
    | .ok s => (skipValue s).map fun s => (draft, s)

/-- A field that has to have been met. -/
def needed (name : String) : Option α → Except Mismatch α
  | some x => .ok x
  | none => .error (.missingField name)

/-- The record of a draft, if no field of it is missing. -/
def toRecord (draft : Draft) : Except Mismatch Record := do
  let frameNumber ← needed "frameNumber" draft.frameNumber
  let originFileName ← needed "originalFileName" draft.originFileName
  let timestamp ← needed "timestamp" draft.timestamp
  let format ← needed "format" draft.format
  let size ← needed "size" draft.size
  let imageData ← needed "imageData" draft.imageData
  return ⟨frameNumber, originFileName, timestamp, format, size, imageData,
    draft.detection.getD none, draft.annotatedImageData.getD none⟩

end Draft

namespace Record

/-- Where an object ends whose reading stopped at `s`. -/
def objectStop (s : Bytes) : Bytes :=
  match skipBlank s with
  | closeBrace :: s => s
  | s => s

/-- Where a list ends whose reading stopped at `s`. -/
def listStop (s : Bytes) : Bytes :=
  match skipBlank s with
  | closeBracket :: s => s
  | comma :: s => skipBlank s
  | s => s

/-- A record as an object, after its opening brace. -/
def objectRecord (s : Bytes) : Scan Record :=
  match members Draft.member Draft.empty s with
  | .error stop => .error (stop.placeAt (objectStop stop.rest))
  | .ok (draft, s) =>
    match objectEnd s with
    | .error stop => .error stop
    | .ok rest => placedShape draft.toRecord rest

/-- The next item of a list, if there is one. -/
def item? (first : Bool) (field : Bytes → Scan α) (s : Bytes) : Scan (Option α) :=
  match nextItem first s with
  | .error stop => .error stop
  | .ok (false, s) => .ok (none, s)
  | .ok (true, s) => (field s).map fun (x, s) => (some x, s)

/-- The next item of a list, which has to be there. -/
def item (position : Nat) (field : Bytes → Scan α) (s : Bytes) : Scan α :=
  match item? (position == 0) field s with
  | .error stop => .error stop
  | .ok (some x, s) => .ok (x, s)
  | .ok (none, s) =>
    refuse (.mismatched (.wrongLength position "struct ArchivedFrame with 8 elements")) s

/-- The fields of a record as items of a list, after its opening bracket. -/
def listFields (s : Bytes) : Except Stop (Record × Bytes) := do
  let (frameNumber, s) ← item 0 (integerField asUInt32 "u32") s
  let (originFileName, s) ← item 1 textField s
  let (timestamp, s) ← item 2 timeField s
  let (format, s) ← item 3 textField s
  let (size, s) ← item 4 (integerField asCount "usize") s
  let (imageData, s) ← item 5 textField s
  let (detection, s) ← item? false (optionalField Outcome.field) s
  let (annotated, s) ← item? false (optionalField textField) s
  return (⟨frameNumber, originFileName, timestamp, format, size, imageData,
    detection.getD none, annotated.getD none⟩, s)

/-- A record as a list, after its opening bracket. -/
def listRecord (s : Bytes) : Scan Record :=
  match listFields s with
  | .error stop => .error (stop.placeAt (listStop stop.rest))
  | .ok (record, s) => (listEnd s).map fun s => (record, s)

/-- A record, and the input after it. -/
def scan (s : Bytes) : Scan Record :=
  match skipBlank s with
  | [] => halt .endInValue []
  | b :: rest =>
    if b = openBrace then objectRecord rest
    else if b = openBracket then listRecord rest
    else unexpected "struct ArchivedFrame" (b :: rest)

/-- The record that the content of a file is. -/
def read (bytes : Bytes) : Except ReadFault Record :=
  match scan bytes with
  | .error stop => .error (.ofStop bytes stop)
  | .ok (record, rest) =>
    match documentEnd rest with
    | .error stop => .error (.ofStop bytes stop)
    | .ok () => .ok record

end Record

end FrameCourier.Archive
