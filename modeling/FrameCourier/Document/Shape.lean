import FrameCourier.Document.Fault

/-!
# Shapes of documents

A shape reads a value of a type out of a document, or says why the document is not one.

Records are read from their members in the order in which these come: the first member
that is unknown, repeated or of the wrong shape is reported, and only after all of them a
field that is missing, in the order of declaration.  A record may also be written as the
list of its fields.  Where objects stand for mappings, the document is settled before.
-/

namespace FrameCourier.Document

/-- Reads a value out of a document. -/
abbrev Shape (α : Type) := Document → Except Mismatch α

variable {α : Type}

def wrongType (document : Document) (wanted : String) : Except Mismatch α :=
  .error (.wrongType (.of document) wanted)

/-- A text. -/
def asText : Shape String
  | .text s => .ok s
  | other => wrongType other "a string"

/-- An integer from `low` to `high`, of a type called `wanted`. -/
def asInteger (low high : Int) (wanted : String) : Shape Int
  | .number (.integer n) =>
    if low ≤ n && n ≤ high then .ok n else .error (.wrongValue (.integer n) wanted)
  | other => wrongType other wanted

/-- A number of 32 bits without a sign. -/
def asUInt32 : Shape UInt32 := fun document =>
  (asInteger 0 Number.greatestWord32 "u32" document).map fun n => UInt32.ofNat n.toNat

/-- A count, which has 64 bits and no sign. -/
def asCount : Shape UInt64 := fun document =>
  (asInteger 0 Number.greatestWord64 "usize" document).map fun n => UInt64.ofNat n.toNat

/-- A number of 64 bits with a sign. -/
def asInt64 : Shape Int64 := fun document =>
  (asInteger Number.leastInt64 Number.greatestInt64 "i64" document).map Int64.ofInt

/-- A floating-point number; an integer is rounded to one. -/
def asReal : Shape Number.Double
  | .number (.integer n) => .ok (Number.Binary.ofInt _ n)
  | .number (.real x) => .ok x
  | other => wrongType other "f64"

/-- A list of values of one shape. -/
def asList (item : Shape α) : Shape (List α)
  | .list xs => xs.mapM item
  | other => wrongType other "a sequence"

/-- A value that may be null. -/
def optional (shape : Shape α) : Shape (Option α)
  | .null => .ok none
  | other => (shape other).map some

/-- How many elements a list was read to have. -/
def elementsInSequence (n : Nat) : String :=
  toString n ++ (if n = 1 then " element in sequence" else " elements in sequence")

/-- A field of a record: its name and a check of its shape. -/
structure Field where
  name : String
  check : Shape Unit

/-- A field of the given shape. -/
def Field.of (name : String) (shape : Shape α) : Field :=
  ⟨name, fun document => (shape document).map fun _ => ()⟩

namespace Members

/-- Checks members in their order.  A name of no field is refused if `closed`, and passed
over otherwise; `seen` holds the names of the fields met so far. -/
def check (fields : List Field) (closed : Bool) : List String → Members → Except Mismatch Unit
  | _, [] => .ok ()
  | seen, (name, document) :: rest =>
    match fields.find? fun field => field.name == name with
    | none =>
      if closed then .error (.unknownField name (fields.map (·.name)))
      else check fields closed seen rest
    | some field =>
      if seen.contains name then .error (.repeatedField name)
      else
        match field.check document with
        | .error mismatch => .error mismatch
        | .ok () => check fields closed (name :: seen) rest

/-- The value of a field that has to be there. -/
def required (members : Members) (name : String) (shape : Shape α) : Except Mismatch α :=
  match members.value? name with
  | some document => shape document
  | none => .error (.missingField name)

/-- The value of a field that may be absent. -/
def optional (members : Members) (name : String) (shape : Shape α) :
    Except Mismatch (Option α) :=
  match members.value? name with
  | some document => Document.optional shape document
  | none => .ok none

end Members

namespace Elements

/-- The element at a position that has to be there, in a record described by `wanted`. -/
def required (elements : List Document) (position : Nat) (wanted : String) (shape : Shape α) :
    Except Mismatch α :=
  match elements[position]? with
  | some document => shape document
  | none => .error (.wrongLength position wanted)

/-- The element at a position that may be absent. -/
def optional (elements : List Document) (position : Nat) (shape : Shape α) :
    Except Mismatch (Option α) :=
  match elements[position]? with
  | some document => Document.optional shape document
  | none => .ok none

/-- There may be no more elements than were read. -/
def noMoreThan (elements : List Document) (count : Nat) : Except Mismatch Unit :=
  if elements.length ≤ count then .ok ()
  else .error (.wrongLength elements.length (elementsInSequence count))

end Elements

/-- Four values of one shape. -/
def asFour (item : Shape α) : Shape (α × α × α × α)
  | .list xs => do
    let wanted := "an array of length 4"
    let a ← Elements.required xs 0 wanted item
    let b ← Elements.required xs 1 wanted item
    let c ← Elements.required xs 2 wanted item
    let d ← Elements.required xs 3 wanted item
    Elements.noMoreThan xs 4
    return (a, b, c, d)
  | other => wrongType other "an array of length 4"

/-- A record without its tag: its members, or its fields in order. -/
inductive Untagged where
  | members (members : Members)
  | elements (elements : List Document)

/-- Takes the tag off a document of tagged records called `union`: the value of the member
`tag`, or the first element.  The tag is looked at before anything else. -/
def untag (union tag : String) : Document → Except Mismatch (Document × Untagged)
  | .object members =>
    match Members.value? members tag with
    | some value => .ok (value, .members (Members.without members tag))
    | none => .error (.missingField tag)
  | .list (value :: elements) => .ok (value, .elements elements)
  | .list [] => .error (.missingField tag)
  | other => wrongType other ("internally tagged enum " ++ union)

/-- One of a few names. -/
def asVariant (variants : List (String × α)) : Shape α
  | .text name =>
    match variants.lookup name with
    | some variant => .ok variant
    | none => .error (.unknownVariant name (variants.map (·.1)))
  | other => wrongType other "variant identifier"

end FrameCourier.Document
