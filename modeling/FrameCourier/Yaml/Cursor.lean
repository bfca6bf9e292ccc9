/-!
# Places in a text

A text in the notation of settings is read character by character.  A cursor is what is left
of the text and the place where that begins.  A line ends with a line feed, a carriage
return, or both in this order; the end of the text ends a line too.
-/

namespace FrameCourier.Yaml

/-! ## Characters -/

def isBreak (c : Char) : Bool := c = '\n' || c = '\r'

def isBlank (c : Char) : Bool := c = ' ' || c = '\t'

/-- The characters that open, close and separate collections in brackets. -/
def isFlow (c : Char) : Bool := [',', '[', ']', '\x7b', '\x7d'].contains c

/-- The characters of names in directives and handles. -/
def isNameChar (c : Char) : Bool := c.isAlphanum || c = '_' || c = '-'

/-- Whether a line ends at the next character; there is none at the end of the text. -/
def endsLine (next : Option Char) : Bool := next.all isBreak

/-- Whether a word ends at the next character. -/
def endsWord (next : Option Char) : Bool := next.all fun c => isBlank c || isBreak c

/-! ## Cursors -/

/-- A place in a text. -/
structure Mark where
  /-- How many characters are before it. -/
  index : Nat
  /-- Its line, counted from 1. -/
  line : Nat
  /-- How many characters are before it on its line. -/
  column : Nat
  deriving DecidableEq, Repr

/-- What is left of a text. -/
structure Cursor where
  rest : List Char
  mark : Mark
  /-- Whether only blanks were passed on this line. -/
  isLeading : Bool
  deriving DecidableEq, Repr

namespace Cursor

def start (text : List Char) : Cursor := ⟨text, ⟨0, 1, 0⟩, true⟩

def next (cursor : Cursor) : Option Char := cursor.rest.head?

/-- The column as a number to compare indentations with, which may be -1. -/
def column (cursor : Cursor) : Int := cursor.mark.column

/-- Passes characters of a line as blanks. -/
def passBlank (cursor : Cursor) (count : Nat) : Cursor :=
  { cursor with
    rest := cursor.rest.drop count
    mark := ⟨cursor.mark.index + count, cursor.mark.line, cursor.mark.column + count⟩ }

/-- Passes characters of a line. -/
def pass (cursor : Cursor) (count : Nat) : Cursor :=
  { cursor.passBlank count with isLeading := false }

/-- Passes the end of a line, if there is one and it is not that of the text. -/
def passBreak (cursor : Cursor) : Cursor :=
  match cursor.rest with
  | [] => cursor
  | first :: rest =>
    if first = '\r' && rest.head? = some '\n' then
      ⟨rest.drop 1, ⟨cursor.mark.index + 2, cursor.mark.line + 1, 0⟩, true⟩
    else if isBreak first then ⟨rest, ⟨cursor.mark.index + 1, cursor.mark.line + 1, 0⟩, true⟩
    else cursor

/-- Passes what is left of a line. -/
def passLine (cursor : Cursor) : Cursor :=
  cursor.pass (cursor.rest.takeWhile fun c => !isBreak c).length

/-- Whether three characters in a row that begin a line mark a document. -/
def isAtMarker (cursor : Cursor) (c : Char) : Bool :=
  cursor.mark.column = 0 && cursor.rest.take 3 = [c, c, c] && endsWord cursor.rest[3]?

/-- Whether a document begins or ends. -/
def isAtDocument (cursor : Cursor) : Bool := cursor.isAtMarker '-' || cursor.isAtMarker '.'

/-! ### What is left is shorter -/

theorem length_passBlank (cursor : Cursor) (count : Nat) :
    (cursor.passBlank count).rest.length = cursor.rest.length - count := by
  simp [passBlank]

theorem length_pass (cursor : Cursor) (count : Nat) :
    (cursor.pass count).rest.length = cursor.rest.length - count :=
  length_passBlank cursor count

theorem length_passLine_le (cursor : Cursor) :
    cursor.passLine.rest.length ≤ cursor.rest.length := by
  unfold passLine
  rw [length_pass]
  omega

theorem length_passBlank_lt {cursor : Cursor} {first : Char} {rest : List Char}
    (left : cursor.rest = first :: rest) (count : Nat) :
    (cursor.passBlank (count + 1)).rest.length < cursor.rest.length := by
  rw [length_passBlank, left]
  simp only [List.length_cons]
  omega

theorem length_pass_lt {cursor : Cursor} {first : Char} {rest : List Char}
    (left : cursor.rest = first :: rest) (count : Nat) :
    (cursor.pass (count + 1)).rest.length < cursor.rest.length :=
  length_passBlank_lt left count

/-- A passed break makes the text shorter. -/
theorem length_passBreak_lt {cursor : Cursor} {first : Char} {rest : List Char}
    (left : cursor.rest = first :: rest) (isEnd : isBreak first = true) :
    cursor.passBreak.rest.length < cursor.rest.length := by
  unfold passBreak
  rw [left]
  simp only
  split
  · simp only [List.length_drop, List.length_cons]
    omega
  · simp

theorem length_passBreak_le (cursor : Cursor) :
    cursor.passBreak.rest.length ≤ cursor.rest.length := by
  unfold passBreak
  split
  · exact Nat.le_refl _
  · next first rest left =>
    rw [left]
    split
    · simp only [List.length_drop, List.length_cons]
      omega
    · split
      · simp
      · simp [left]

end Cursor

/-! ## Between words -/

/-- What is between two words of a scalar that may go over several lines. -/
structure Gap where
  blanks : List Char
  /-- Whether a line ends in it. -/
  hasBreak : Bool
  /-- How many more lines end in it. -/
  emptyLines : Nat
  deriving DecidableEq, Repr

namespace Gap

def none : Gap := ⟨[], false, 0⟩

/-- The gap with the end of a line after it, on which only blanks are if `isLeading`. -/
def addBreak (gap : Gap) (isLeading : Bool) : Gap :=
  if isLeading then { gap with emptyLines := gap.emptyLines + 1 }
  else { gap with blanks := [], hasBreak := true }

/-- What a gap stands for: one break is a blank, and each further one is itself.  Blanks
count only within a line. -/
def text (gap : Gap) (isLeading : Bool) : List Char :=
  if !isLeading then gap.blanks
  else if gap.hasBreak && gap.emptyLines = 0 then [' ']
  else List.replicate gap.emptyLines '\n'

end Gap

end FrameCourier.Yaml
