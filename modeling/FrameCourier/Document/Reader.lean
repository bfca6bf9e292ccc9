import FrameCourier.Document.Scan

/-!
# Reading documents

`Document.value` reads one value, at most so many lists and objects deep as its first
argument says.  `Document.read?` asks for exactly one value with blanks around it, and
`skipValue` passes over a value that nobody wants, which checks less of it.

A loop over items or members is bounded by the number of bytes left, of which every turn
takes at least one.
-/

namespace FrameCourier.Document

open Ascii

variable {α : Type}

/-- Reads items until the list ends; `done` holds those read, last first. -/
def itemsFrom (item : Bytes → Scan α) : Nat → Bool → List α → Bytes → Scan (List α)
  | 0, _, _, s => halt .endInList s
  | fuel + 1, first, done, s =>
    match nextItem first s with
    | .error stop => .error stop
    | .ok (false, s) => .ok (done.reverse, s)
    | .ok (true, s) =>
      match item s with
      | .error stop => .error stop
      | .ok (x, s) => itemsFrom item fuel false (x :: done) s

/-- Reads members until the object ends, folding each into `done`. -/
def membersFrom (member : α → String → Bytes → Scan α) : Nat → Bool → α → Bytes → Scan α
  | 0, _, _, s => halt .endInObject s
  | fuel + 1, first, done, s =>
    match nextName first s with
    | .error stop => .error stop
    | .ok (none, s) => .ok (done, s)
    | .ok (some name, s) =>
      match member done name s with
      | .error stop => .error stop
      | .ok (done, s) => membersFrom member fuel false done s

/-- The items of a list whose opening bracket is passed. -/
def items (item : Bytes → Scan α) (s : Bytes) : Scan (List α) :=
  itemsFrom item (s.length + 1) true [] s

/-- The members of an object whose opening brace is passed. -/
def members (member : α → String → Bytes → Scan α) (start : α) (s : Bytes) : Scan α :=
  membersFrom member (s.length + 1) true start s

/-- A value after a name, with the colon between them. -/
def namedValue (value : Bytes → Scan α) (s : Bytes) : Scan α :=
  match nameColon s with
  | .error stop => .error stop
  | .ok s => value s

/-- Reads the list after an opening bracket. -/
def listBody (value : Bytes → Scan Document) (s : Bytes) :
    Except Stop (Document × Bytes) := do
  let (xs, s) ← items value s
  let s ← listEnd s
  return (.list xs, s)

/-- Reads the value of a member and keeps the member. -/
def keptMember (value : Bytes → Scan Document) (done : Members) (name : String) (s : Bytes) :
    Scan Members :=
  (namedValue value s).map fun (x, s) => ((name, x) :: done, s)

/-- Reads the object after an opening brace, its members kept in written order. -/
def objectBody (value : Bytes → Scan Document) (s : Bytes) :
    Except Stop (Document × Bytes) := do
  let (done, s) ← members (keptMember value) [] s
  let s ← objectEnd s
  return (.object done.reverse, s)

/-- A value that starts with `b`, with given readers for what follows an opening bracket or
brace. -/
def valueFrom (list object : Bytes → Scan Document) (b : UInt8) (s : Bytes) : Scan Document :=
  if b = quote then (textBody s).map fun (decoded, s) => (.text decoded, s)
  else if b = openBracket then list s
  else if b = openBrace then object s
  else if b = minus || isDigit b then (numeral (b :: s)).map fun (n, s) => (.number n, s)
  else if b = lowerN then (literal "ull".toUTF8.data.toList s).map fun s => (.null, s)
  else if b = lowerT then (literal "rue".toUTF8.data.toList s).map fun s => (.boolean true, s)
  else if b = lowerF then (literal "alse".toUTF8.data.toList s).map fun s => (.boolean false, s)
  else halt .expectedValue s

/-- A value after blanks. -/
def valueWith (list object : Bytes → Scan Document) (s : Bytes) : Scan Document :=
  match skipBlank s with
  | [] => halt .endInValue []
  | b :: s => valueFrom list object b s

/-- Reads a value with at most `depth` lists and objects around its innermost part. -/
def value : Nat → Bytes → Scan Document
  | 0 => valueWith (halt .nestedTooDeep) (halt .nestedTooDeep)
  | depth + 1 => valueWith (listBody (value depth)) (objectBody (value depth))

/-- How many lists and objects may stand around a value. -/
def depthLimit : Nat := 127

/-- Nothing but blanks may follow a document. -/
def documentEnd (s : Bytes) : Except Stop Unit :=
  match skipBlank s with
  | [] => .ok ()
  | _ :: s => halt .trailingCharacters s

/-- The document that the bytes are, if they are one complete document. -/
def read? (s : Bytes) : Option Document :=
  match value depthLimit s with
  | .error _ => none
  | .ok (document, rest) => if (skipBlank rest).isEmpty then some document else none

/-! ## Passing over values -/

/-- How far the machine that passes over a text has come. -/
inductive SkipState where
  | plain
  | escaped
  | hex (count : Nat) (valid : Bool)
  deriving DecidableEq, Repr

/-- Passes over a text up to its closing quote; escapes have to be well formed, but what
they stand for is not looked at. -/
def skipText : SkipState → Bytes → Except Stop Bytes
  | _, [] => halt .endInString []
  | .plain, b :: s =>
    if b = quote then .ok s
    else if b = backslash then skipText .escaped s
    else if b < space then halt .controlCharacter (b :: s)
    else skipText .plain s
  | .escaped, b :: s =>
    if b = lowerU then skipText (.hex 0 true) s
    else if (simpleEscape? b).isSome then skipText .plain s
    else halt .invalidEscape s
  | .hex count valid, b :: s =>
    let valid := valid && (hexValue? b).isSome
    if count < 3 then skipText (.hex (count + 1) valid) s
    else if valid then skipText .plain s
    else halt .invalidEscape s

/-- Passes over the exponent after its letter. -/
def skipExponent (s : Bytes) : Except Stop Bytes :=
  match (exponentSign s).2 with
  | [] => halt .invalidNumber []
  | b :: s => if isDigit b then .ok (s.dropWhile isDigit) else halt .invalidNumber s

/-- Passes over a number after its sign. -/
def skipNumber (s : Bytes) : Except Stop Bytes := do
  let s ← match s with
    | [] => halt .invalidNumber []
    | b :: s =>
      if b = zero then
        if (s.head?.map isDigit).getD false then haltAt .invalidNumber s else .ok s
      else if isDigit b then .ok (s.dropWhile isDigit)
      else halt .invalidNumber s
  match s with
  | point :: s =>
    match s with
    | [] => halt .invalidNumber []
    | b :: _ =>
      if isDigit b then
        match s.dropWhile isDigit with
        | lowerE :: s => skipExponent s
        | upperE :: s => skipExponent s
        | s => .ok s
      else haltAt .invalidNumber s
  | lowerE :: s => skipExponent s
  | upperE :: s => skipExponent s
  | s => .ok s

/-- What an unwanted value is inside of. -/
inductive Enclosure where
  | list
  | object
  deriving DecidableEq, Repr

/-- Whether a value comes next, or what may follow one; `first` right after an opening. -/
inductive SkipPhase where
  | atValue
  | afterValue (first : Bool)
  deriving DecidableEq, Repr

/-- Passes over the name and the colon before a value in an object. -/
def skipName (s : Bytes) : Except Stop Bytes :=
  match skipBlank s with
  | [] => halt .endInObject []
  | quote :: s => do nameColon (← skipText .plain s)
  | _ :: s => halt .nameNotText s

/-- Goes on to the next value inside an enclosure. -/
def skipToValue (enclosure : Enclosure) (s : Bytes) : Except Stop Bytes :=
  match enclosure with
  | .list => .ok s
  | .object => skipName s

/-- One scalar value, or the opening of an enclosure. -/
def skipScalar (s : Bytes) : Except Stop (Option Enclosure × Bytes) :=
  match skipBlank s with
  | [] => halt .endInValue []
  | b :: s =>
    let scalar := fun (rest : Except Stop Bytes) => rest.map fun s => (none, s)
    if b = quote then scalar (skipText .plain s)
    else if b = openBracket then .ok (some .list, s)
    else if b = openBrace then .ok (some .object, s)
    else if b = minus then scalar (skipNumber s)
    else if isDigit b then scalar (skipNumber (b :: s))
    else if b = lowerN then scalar (literal "ull".toUTF8.data.toList s)
    else if b = lowerT then scalar (literal "rue".toUTF8.data.toList s)
    else if b = lowerF then scalar (literal "alse".toUTF8.data.toList s)
    else halt .expectedValue s

/-- Passes over values until all enclosures are closed. -/
def skipFrom : Nat → SkipPhase → List Enclosure → Bytes → Except Stop Bytes
  | 0, _, _, s => halt .endInValue s
  | fuel + 1, .atValue, around, s =>
    match skipScalar s with
    | .error stop => .error stop
    | .ok (none, s) => skipFrom fuel (.afterValue false) around s
    | .ok (some enclosure, s) => skipFrom fuel (.afterValue true) (enclosure :: around) s
  | _ + 1, .afterValue _, [], s => .ok s
  | fuel + 1, .afterValue first, enclosure :: around, s =>
    let step := fun (result : Except Stop Bytes) =>
      match result with
      | .error stop => .error stop
      | .ok s => skipFrom fuel .atValue (enclosure :: around) s
    match skipBlank s, enclosure with
    | [], .list => halt .endInList []
    | [], .object => halt .endInObject []
    | b :: s, _ =>
      if b = comma && !first then step (skipToValue enclosure s)
      else if b = (if enclosure = .list then closeBracket else closeBrace) then
        skipFrom fuel (.afterValue false) around s
      else if first then step (skipToValue enclosure (b :: s))
      else if enclosure = .list then halt .expectedListCommaOrEnd s
      else halt .expectedObjectCommaOrEnd s

/-- Passes over one value. -/
def skipValue (s : Bytes) : Except Stop Bytes := skipFrom (2 * s.length + 2) .atValue [] s

end FrameCourier.Document
