import FrameCourier.Number.Written
import FrameCourier.Yaml.Token

/-!
# Tags

A tag says of what kind a node is.  It is written out between angle brackets, or begins with
a handle, which stands for the beginning of the tag.  Characters that cannot be written are
given byte by byte, each as a percent sign and two digits in base 16.
-/

namespace FrameCourier.Yaml.Tag

/-- The characters that a tag is written with. -/
def isTagChar (c : Char) : Bool := c.isAlphanum || "-#;/?:@&=+$,_.!~*'()[]%".toList.contains c

/-- The characters that may follow a handle. -/
def isSuffixChar (c : Char) : Bool := isTagChar c && !isFlow c && c ≠ '!'

/-! ## Characters given as bytes -/

/-- The byte that a text begins with. -/
def byte? : List Char → Option Nat
  | '%' :: high :: low :: _ => Number.naturalOf? 16 [high, low]
  | _ => none

/-- How many bytes follow the first one of a character. -/
def trailingCount? (byte : Nat) : Option Nat :=
  if byte < 0x80 then some 0
  else if byte < 0xC0 then none
  else if byte < 0xE0 then some 1
  else if byte < 0xF0 then some 2
  else if byte < 0xF8 then some 3
  else none

/-- The code point of a character whose bytes so far make up `code`: all its bytes in a row. -/
def codeOf (start : Mark) : Nat → Nat → List Char → Except Fault Nat
  | 0, code, _ => .ok code
  | count + 1, code, text =>
    match byte? text with
    | none => .error ⟨.tagEscape, start⟩
    | some byte =>
      if 0x80 ≤ byte && byte < 0xC0 then codeOf start count (code * 256 + byte) (text.drop 3)
      else .error ⟨.tagTrailingByte, start⟩

/-- The character whose bytes a text begins with, and how many follow the first one. -/
def escape? (start : Mark) (text : List Char) : Except Fault (Char × Nat) :=
  match byte? text with
  | none => .error ⟨.tagEscape, start⟩
  | some byte =>
    match trailingCount? byte with
    | none => .error ⟨.tagLeadingByte, start⟩
    | some count => do
      let code ← codeOf start count byte (text.drop 3)
      if code.isValidChar then return (Char.ofNat code, count)
      else throw ⟨.tagCodePoint, start⟩

/-! ## Parts of tags -/

/-- The characters of a class at a cursor, and what is left after them. -/
def chars (isPart : Char → Bool) (start : Mark) (cursor : Cursor) :
    Except Fault (List Char × Cursor) :=
  match _left : cursor.rest with
  | [] => .ok ([], cursor)
  | first :: rest =>
    if !isPart first then .ok ([], cursor)
    else if first = '%' then do
      let (c, count) ← escape? start (first :: rest)
      let (text, after) ← chars isPart start (cursor.pass (3 * count + 2 + 1))
      return (c :: text, after)
    else do
      let (text, after) ← chars isPart start (cursor.pass 1)
      return (first :: text, after)
termination_by cursor.rest.length
decreasing_by
  · exact Cursor.length_pass_lt _left _
  · exact Cursor.length_pass_lt _left 0

/-- The handle at a cursor: an exclamation mark, perhaps a name, and perhaps another mark,
which closes it. -/
def handle (start : Mark) (cursor : Cursor) : Except Fault (List Char × Cursor) :=
  if cursor.next ≠ some '!' then .error ⟨.tagMark, start⟩
  else
    let name := (cursor.rest.drop 1).takeWhile isNameChar
    let after := cursor.pass (name.length + 1)
    if after.next = some '!' then .ok ('!' :: name ++ ['!'], after.pass 1)
    else .ok ('!' :: name, after)

/-- Whether a second mark closes a handle. -/
def isClosed (handle : List Char) : Bool := 2 ≤ handle.length && handle.getLast? = some '!'

/-- A tag that is written out. -/
def written (start : Mark) (cursor : Cursor) : Except Fault (Kind × Cursor) := do
  let (text, after) ← chars isTagChar start (cursor.pass 2)
  if after.next ≠ some '>' then throw ⟨.tagNotClosed, start⟩
  return (.tag "" (String.ofList text), after.pass 1)

/-- A tag that begins with a handle.  One that is not closed is a mark and belongs to the
name; a mark alone is a tag without a handle. -/
def short (start : Mark) (cursor : Cursor) : Except Fault (Kind × Cursor) := do
  let (handle, after) ← handle start cursor
  let (text, rest) ← chars isSuffixChar start after
  if isClosed handle then
    if text.isEmpty then throw ⟨.noTag, start⟩
    return (.tag (String.ofList handle) (String.ofList text), rest)
  let name := handle.drop 1 ++ text
  if name.isEmpty then return (.tag "" "!", rest)
  return (.tag "!" (String.ofList name), rest)

/-- The tag at a cursor. -/
def read (inBrackets : Bool) (cursor : Cursor) : Except Fault (Token × Cursor) := do
  let start := cursor.mark
  let (kind, after) ←
    if cursor.rest[1]? = some '<' then written start cursor else short start cursor
  if !endsWord after.next && !(inBrackets && after.next.any isFlow) then
    throw ⟨.tagNotApart, start⟩
  return (⟨kind, start⟩, after)

end FrameCourier.Yaml.Tag
