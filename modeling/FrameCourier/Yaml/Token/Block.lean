import FrameCourier.Yaml.Token

/-!
# Block scalars

A scalar whose lines are indented below its header.  The header says whether the lines are
kept as they are or folded into one, what becomes of the last breaks, and perhaps by how
much the lines are indented.
-/

namespace FrameCourier.Yaml.Block

/-- What becomes of the breaks at the end: none is left, one, or all of them. -/
inductive Chomping where
  | strip
  | clip
  | keep
  deriving DecidableEq, Repr

structure Header where
  chomping : Chomping
  /-- The indentation of the lines within the collection around them; zero if that is not
  said. -/
  increment : Nat
  deriving DecidableEq, Repr

def chomping? (next : Option Char) : Option Chomping :=
  if next = some '+' then some .keep
  else if next = some '-' then some .strip
  else none

/-- The indentation that a digit says. -/
def increment (start : Mark) (cursor : Cursor) : Except Fault (Nat × Cursor) :=
  match cursor.next with
  | none => .ok (0, cursor)
  | some c =>
    if !c.isDigit then .ok (0, cursor)
    else if c = '0' then .error ⟨.zeroIndentation, start⟩
    else .ok (c.toNat - '0'.toNat, cursor.pass 1)

/-- The header after its first character. -/
def header (start : Mark) (cursor : Cursor) : Except Fault (Header × Cursor) := do
  match chomping? cursor.next with
  | some chomping =>
    let (increment, after) ← increment start (cursor.pass 1)
    return (⟨chomping, increment⟩, after)
  | none =>
    let (increment, after) ← increment start cursor
    match if increment = 0 then none else chomping? after.next with
    | some chomping => return (⟨chomping, increment⟩, after.pass 1)
    | none => return (⟨.clip, increment⟩, after)

/-- Passes the spaces that begin a line, up to a column if there is a limit, and lines with
nothing else on them: how many lines, the greatest column met, and what is left. -/
def passIndentation (limit : Option Nat) (lines widest : Nat) (cursor : Cursor) :
    Nat × Nat × Cursor :=
  let spaces := (cursor.rest.takeWhile fun c => c = ' ').length
  let spaces := match limit with
    | some limit => min spaces (limit - cursor.mark.column)
    | none => spaces
  let after := cursor.passBlank spaces
  let widest := max widest after.mark.column
  match _left : after.rest with
  | [] => (lines, widest, after)
  | first :: _ =>
    if _ending : isBreak first = true then
      passIndentation limit (lines + 1) widest after.passBreak
    else (lines, widest, after)
termination_by cursor.rest.length
decreasing_by
  refine Nat.lt_of_lt_of_le (Cursor.length_passBreak_lt _left _ending) ?_
  rw [Cursor.length_passBlank]
  omega

theorem length_passIndentation_le (limit : Option Nat) (lines widest : Nat) (cursor : Cursor) :
    (passIndentation limit lines widest cursor).2.2.rest.length ≤ cursor.rest.length := by
  fun_induction passIndentation limit lines widest cursor with
  | case1 => rw [Cursor.length_passBlank]; exact Nat.sub_le _ _
  | case2 lines widest cursor spaces _ after widest' first rest left ending ih =>
    refine Nat.le_trans ih (Nat.le_trans (Cursor.length_passBreak_le _) ?_)
    rw [Cursor.length_passBlank]
    exact Nat.sub_le _ _
  | case3 => rw [Cursor.length_passBlank]; exact Nat.sub_le _ _

/-- Breaks that stand for themselves. -/
def breaks (count : Nat) : List Char := List.replicate count '\n'

/-- The text of the lines that are indented by `indent`.  The line before has a break that
is not read yet if `isOpen`, began with a blank if `wasBlank`, and is followed by
`emptyLines`.  With the text: whether a break is left, how many empty lines follow, and what
is left after them. -/
def content (isLiteral : Bool) (indent : Nat) (isOpen wasBlank : Bool) (emptyLines : Nat)
    (cursor : Cursor) : List Char × Bool × Nat × Cursor :=
  let isDone := cursor.mark.column ≠ indent || cursor.rest.isEmpty ||
    (indent = 0 && cursor.isAtMarker '.')
  if isDone then ([], isOpen, emptyLines, cursor)
  else
    let isBlankLine := cursor.next.any isBlank
    let before :=
      if !isLiteral && isOpen && !wasBlank && !isBlankLine then
        if emptyLines = 0 then [' '] else breaks emptyLines
      else breaks ((if isOpen then 1 else 0) + emptyLines)
    let line := cursor.rest.takeWhile fun c => !isBreak c
    let after := cursor.passBlank line.length
    match _left : after.rest with
    | [] => (before ++ line, false, 0, after)
    | first :: _ =>
      if _ending : isBreak first = true then
        let next := passIndentation (some indent) 0 0 after.passBreak
        let (text, rest) := content isLiteral indent true isBlankLine next.1 next.2.2
        (before ++ line ++ text, rest)
      else (before ++ line, false, 0, after)
termination_by cursor.rest.length
decreasing_by
  refine Nat.lt_of_le_of_lt (length_passIndentation_le _ _ _ _) ?_
  refine Nat.lt_of_lt_of_le (Cursor.length_passBreak_lt _left _ending) ?_
  rw [Cursor.length_passBlank]
  omega

/-- The text of a scalar without lines. -/
def emptyText (chomping : Chomping) (hasBreak : Bool) (lines : Nat) : List Char :=
  match chomping with
  | .strip => []
  | .clip => breaks (if hasBreak then 1 else 0)
  | .keep => breaks (if lines = 0 then if hasBreak then 1 else 0 else lines)

/-- The scalar whose header is at a cursor, within a collection that is indented by `outer`,
and what is left after it. -/
def read (isLiteral : Bool) (outer : Int) (cursor : Cursor) :
    Except Fault (Token × Cursor) := do
  let start := cursor.mark
  let (header, after) ← header start (cursor.pass 1)
  let after ← after.toLineEnd
  if !endsLine after.next then throw ⟨.blockHeader, start⟩
  let hasBreak := after.next.isSome
  let after := after.passBreak
  if after.next = some '\t' then throw ⟨.blockTab, start⟩
  let limit := if header.increment = 0 then none else some (outer.toNat + header.increment)
  let (lines, widest, after) := passIndentation limit 0 0 after
  if after.rest.isEmpty then
    let text := emptyText header.chomping hasBreak lines
    return (⟨.scalar (String.ofList text) false, start⟩, after)
  let indent := limit.getD (max widest (outer + 1).toNat)
  if after.mark.column < indent && outer < after.column then after.refuse .blockIndentation
  let (text, isOpen, emptyLines, rest) := content isLiteral indent false false lines after
  let last := if header.chomping = .strip then [] else
    breaks (if isOpen then 1 else 0) ++
      breaks (if rest.rest.isEmpty && max indent 1 ≤ rest.mark.column then 1 else 0)
  let kept := if header.chomping = .keep then breaks emptyLines else []
  return (⟨.scalar (String.ofList (text ++ last ++ kept)) false, after.mark⟩, rest)

end FrameCourier.Yaml.Block
