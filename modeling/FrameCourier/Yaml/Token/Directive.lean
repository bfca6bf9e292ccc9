import FrameCourier.Yaml.Token.Tag

/-!
# Directives

A line before a document that begins with a percent sign tells how to read it: the version
of the notation, or what a handle stands for in tags.  Anything else that a directive may
tell has no meaning.
-/

namespace FrameCourier.Yaml.Directive

/-- Passes blanks within a line. -/
def passBlanks (cursor : Cursor) : Cursor :=
  cursor.passBlank (cursor.rest.takeWhile isBlank).length

/-- The name of a directive. -/
def name (cursor : Cursor) : Except Fault (String × Cursor) :=
  let name := cursor.rest.takeWhile isNameChar
  let after := cursor.pass name.length
  if name.isEmpty then cursor.refuse .noDirectiveName
  else if endsWord after.next then .ok (String.ofList name, after)
  else cursor.refuse .directiveName

/-- Passes a number of up to nine digits. -/
def passNumber (start : Mark) (cursor : Cursor) : Except Fault Cursor :=
  let count := (cursor.rest.takeWhile Char.isDigit).length
  if 9 < count then .error ⟨.longVersion, start⟩
  else if count = 0 then .error ⟨.noVersion, start⟩
  else .ok (cursor.pass count)

/-- What follows the name of a directive for the version: two numbers and a point. -/
def version (start : Mark) (cursor : Cursor) : Except Fault (Kind × Cursor) := do
  let after ← passNumber start (passBlanks cursor)
  if after.next ≠ some '.' then throw ⟨.versionPoint, start⟩
  return (.version, ← passNumber start (after.pass 1))

/-- What follows the name of a directive for tags: a handle, and what it stands for. -/
def tagMeaning (start : Mark) (cursor : Cursor) : Except Fault (Kind × Cursor) := do
  let (handle, after) ← Tag.handle start (passBlanks cursor)
  if handle ≠ ['!'] && !Tag.isClosed handle then throw ⟨.tagDirectiveMark, start⟩
  let after := passBlanks after
  if !after.next.any fun c => c = '!' || Tag.isSuffixChar c then throw ⟨.tagCharacter, start⟩
  let (meaning, after) ← Tag.chars Tag.isTagChar start after
  if !endsWord after.next then throw ⟨.tagDirectiveNotApart, start⟩
  return (.tagDirective (String.ofList handle) (String.ofList meaning), after)

/-- The directive at a cursor, with its line. -/
def read (cursor : Cursor) : Except Fault (Token × Cursor) := do
  let start := cursor.mark
  let (name, after) ← name (cursor.pass 1)
  let (kind, after) ←
    if name = "YAML" then version start after
    else if name = "TAG" then tagMeaning start after
    else pure (.tagDirective "" "", after.passLine)
  let after ← after.toLineEnd
  if !endsLine after.next then throw ⟨.directiveNotEnded, start⟩
  return (⟨kind, start⟩, after.passBreak)

end FrameCourier.Yaml.Directive
