import FrameCourier.Number.Written
import FrameCourier.Yaml.Fault

/-!
# Quoted scalars

Between single quotes, a quote is written twice and everything else stands for itself.
Between double quotes, a backslash begins an escape, and at the end of a line it hides that.
In both, the breaks between two lines of text are read as those of plain scalars.
-/

namespace FrameCourier.Yaml.Quoted

/-- The characters with an escape of one letter. -/
def letterEscapes : List (Char × Nat) :=
  [('0', 0x00), ('a', 0x07), ('b', 0x08), ('t', 0x09), ('\t', 0x09), ('n', 0x0A), ('v', 0x0B),
    ('f', 0x0C), ('r', 0x0D), ('e', 0x1B), (' ', 0x20), ('"', 0x22), ('/', 0x2F),
    ('\\', 0x5C), ('N', 0x85), ('_', 0xA0), ('L', 0x2028), ('P', 0x2029)]

/-- How many digits the code point has that a letter begins. -/
def digitCount? (c : Char) : Option Nat := [('x', 2), ('u', 4), ('U', 8)].lookup c

/-- The character of an escape, given the characters after the backslash, and how many of
them belong to it. -/
def escape? (start : Mark) (after : List Char) : Except Fault (Char × Nat) :=
  match after with
  | [] => .error ⟨.unknownEscape, start⟩
  | letter :: rest =>
    match letterEscapes.lookup letter, digitCount? letter with
    | some code, _ => .ok (Char.ofNat code, 1)
    | none, none => .error ⟨.unknownEscape, start⟩
    | none, some count =>
      match if rest.length < count then none else Number.naturalOf? 16 (rest.take count) with
      | none => .error ⟨.escapeDigits, start⟩
      | some code =>
        if code.isValidChar then .ok (Char.ofNat code, count + 1)
        else .error ⟨.escapeCodePoint, start⟩

/-- The kinds of quotes. -/
inductive Quote where
  | single
  | double
  deriving DecidableEq, Repr

def Quote.char : Quote → Char
  | single => '\''
  | double => '"'

/-- Refuses a word after a gap, where something else has to be. -/
def checkWord (indent : Int) (start : Mark) (cursor : Cursor) : Except Fault Unit :=
  if cursor.isAtDocument then .error ⟨.documentInQuotes, start⟩
  else if cursor.column < indent then .error ⟨.quotedIndentation, start⟩
  else .ok ()

/-- The characters of a scalar from a cursor on, and what is left after its closing quote.
In a gap between two words, `gap` holds what of it is passed, and whether a line ended. -/
def scan (quote : Quote) (indent : Int) (start : Mark) (gap : Option (Gap × Bool))
    (cursor : Cursor) : Except Fault (List Char × Cursor) :=
  match _left : cursor.rest with
  | [] => .error ⟨.endInQuotes, start⟩
  | first :: rest =>
    let (passed, isLeading) := gap.getD (.none, false)
    if _ending : isBreak first = true then
      scan quote indent start (some (passed.addBreak isLeading, true)) cursor.passBreak
    else if isBlank first then
      if !isLeading then
        let gap := { passed with blanks := passed.blanks ++ [first] }
        scan quote indent start (some (gap, false)) (cursor.passBlank 1)
      else if first = '\t' && cursor.column < indent then cursor.refuse .quotedTab
      else scan quote indent start (some (passed, true)) (cursor.passBlank 1)
    else do
      if gap.isSome then checkWord indent start cursor
      let before := passed.text isLeading
      let found ←
        if first = quote.char then
          if quote = .single && rest.head? = some first then
            (scan quote indent start none (cursor.pass 2)).map fun (text, after) =>
              (first :: text, after)
          else pure ([], cursor.pass 1)
        else if quote = .double && first = '\\' then
          if rest.head?.any isBreak then
            scan quote indent start (some (.none, true)) (cursor.pass 1).passBreak
          else do
            let (c, count) ← escape? start rest
            (scan quote indent start none (cursor.pass (count + 1))).map fun (text, after) =>
              (c :: text, after)
        else
          (scan quote indent start none (cursor.pass 1)).map fun (text, after) =>
            (first :: text, after)
      return (before ++ found.1, found.2)
termination_by cursor.rest.length
decreasing_by
  · exact Cursor.length_passBreak_lt _left _ending
  · exact Cursor.length_passBlank_lt _left 0
  · exact Cursor.length_passBlank_lt _left 0
  · exact Cursor.length_pass_lt _left 1
  · exact Nat.lt_of_le_of_lt (Cursor.length_passBreak_le _) (Cursor.length_pass_lt _left 0)
  · exact Cursor.length_pass_lt _left _
  · exact Cursor.length_pass_lt _left 0

/-- Refuses what follows a quoted scalar unless it is the end of a line, the colon of a key,
or what may follow an item in brackets. -/
def checkAfter (inBrackets : Bool) (start : Mark) (cursor : Cursor) : Except Fault Unit :=
  let fits := match cursor.next with
    | none => true
    | some c =>
      isBreak c || (inBrackets && (c = ',' || c = ']' || c = '\x7d' || c = ':')) ||
        (!inBrackets && c = ':' && start.line = cursor.mark.line)
  if fits then .ok () else cursor.refuse .afterQuotes

/-- The scalar whose opening quote is at a cursor, within a collection that is indented by
`indent`. -/
def read (quote : Quote) (inBrackets : Bool) (indent : Int) (cursor : Cursor) :
    Except Fault (String × Cursor) := do
  let (text, after) ← scan quote indent cursor.mark (some (.none, false)) (cursor.pass 1)
  let after ← after.toLineEnd
  checkAfter inBrackets cursor.mark after
  return (String.ofList text, after)

end FrameCourier.Yaml.Quoted
