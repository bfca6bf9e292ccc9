import FrameCourier.Yaml.Fault

/-!
# Plain scalars

A scalar without quotes ends before a comment, before a colon that a blank follows, and, in
brackets, before what separates their items.  It goes on over lines that are indented enough.
-/

namespace FrameCourier.Yaml.Plain

/-- Whether a plain scalar goes on with a character, which `next` follows. -/
def goesOn (inBrackets : Bool) (c : Char) (next : Option Char) : Bool :=
  !(inBrackets && isFlow c) &&
    !(c = ':' && (endsWord next || (inBrackets && next.any isFlow)))

/-- Whether a dash stands before a bracket or comma. -/
def isBareDash (cursor : Cursor) : Bool :=
  cursor.next = some '-' && cursor.rest[1]?.any isFlow

/-- The characters of a scalar from a cursor on, and what is left after it.  In a gap
between two words, `gap` holds what of it is passed.  After a gap the words have to be
indented by `indent`, except in brackets. -/
def scan (inBrackets : Bool) (indent : Int) (start : Mark) (gap : Option Gap)
    (cursor : Cursor) : Except Fault (List Char × Cursor) :=
  match _left : cursor.rest with
  | [] => .ok ([], cursor)
  | first :: rest =>
    let passed := gap.getD .none
    if _ending : isBreak first = true then
      scan inBrackets indent start (some (passed.addBreak cursor.isLeading)) cursor.passBreak
    else if isBlank first then
      if !cursor.isLeading then
        let gap := { passed with blanks := passed.blanks ++ [first] }
        scan inBrackets indent start (some gap) (cursor.passBlank 1)
      else if first = '\t' && cursor.column < indent then
        let after := cursor.passBlank ((rest.takeWhile isBlank).length + 1)
        if endsLine after.next || after.next = some '#' then
          scan inBrackets indent start (some passed) after.passLine
        else .error ⟨.plainTab, start⟩
      else scan inBrackets indent start (some passed) (cursor.passBlank 1)
    else if gap.isSome && ((!inBrackets && cursor.column < indent) || cursor.isAtDocument ||
        first = '#') then
      .ok ([], cursor)
    else if gap.isSome && inBrackets && isBareDash cursor then cursor.refuse .dashInBrackets
    else if goesOn inBrackets first rest.head? then do
      let (text, after) ← scan inBrackets indent start none (cursor.pass 1)
      return (passed.text cursor.isLeading ++ first :: text, after)
    else .ok ([], cursor)
termination_by cursor.rest.length
decreasing_by
  · exact Cursor.length_passBreak_lt _left _ending
  · exact Cursor.length_passBlank_lt _left 0
  · exact Nat.lt_of_le_of_lt (Cursor.length_passLine_le _) (Cursor.length_passBlank_lt _left _)
  · exact Cursor.length_passBlank_lt _left 0
  · exact Cursor.length_pass_lt _left 0

/-- The plain scalar at a cursor, within a collection that is indented by `indent - 1`. -/
def read (inBrackets : Bool) (indent : Int) (cursor : Cursor) :
    Except Fault (String × Cursor) := do
  if inBrackets && cursor.column < indent then cursor.refuse .bracketIndentation
  if inBrackets && isBareDash cursor then cursor.refuse .dashInBrackets
  let (text, after) ← scan inBrackets indent cursor.mark none cursor
  if text.isEmpty then cursor.refuse .emptyPlain
  return (String.ofList text, after)

end FrameCourier.Yaml.Plain
