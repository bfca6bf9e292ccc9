import FrameCourier.Yaml.Token.Block
import FrameCourier.Yaml.Token.Directive
import FrameCourier.Yaml.Token.Plain
import FrameCourier.Yaml.Token.Quoted

/-!
# The tokens of a text

Tokens are read from the start of a text to its end.  Indentation opens and closes blocks.
A colon tells that what stands before it on its line is a key, so the tokens for the key and
for its block go to places before tokens that are already there.
-/

namespace FrameCourier.Yaml

/-- An indentation in force. -/
structure Indent where
  column : Nat
  /-- Whether it is that of a block.  Otherwise it only keeps what a key or a dash has
  beside it to the right of that. -/
  isBlock : Bool
  deriving DecidableEq, Repr

/-- What will be a key if a colon follows. -/
structure PossibleKey where
  mark : Mark
  /-- How many tokens are before it. -/
  place : Nat
  /-- Whether nothing but a key can be there. -/
  isRequired : Bool
  deriving DecidableEq, Repr

/-- How far a text is read. -/
structure Lexer where
  cursor : Cursor
  /-- The tokens so far, the last one first. -/
  tokens : List Token
  /-- How many there are. -/
  count : Nat
  /-- The indentations in force, the innermost first. -/
  indents : List Indent
  key : Option PossibleKey
  /-- What may be a key around each open bracket, the innermost first. -/
  outerKeys : List (Option PossibleKey)
  /-- Whether a key may begin. -/
  allowsKey : Bool
  /-- Whether a key between brackets belongs to a mapping that is already open. -/
  inMapping : Bool
  /-- For each open square bracket, the innermost first, whether a pair within it is open. -/
  pairs : List Bool
  /-- Where a colon ends a key though no blank follows. -/
  adjacentAt : Nat
  deriving DecidableEq, Repr

namespace Lexer

def start (text : List Char) : Lexer :=
  ⟨.start text, [], 0, [], none, [], true, false, [], 0⟩

def inBrackets (lexer : Lexer) : Bool := !lexer.outerKeys.isEmpty

/-- The innermost indentation; -1 if there is none. -/
def indent (lexer : Lexer) : Int :=
  match lexer.indents with
  | [] => -1
  | innermost :: _ => innermost.column

/-- Puts a token at the place of another one, or at the end. -/
def insert (lexer : Lexer) (place : Nat) (kind : Kind) (mark : Mark) : Lexer :=
  { lexer with
    tokens := lexer.tokens.insertIdx (lexer.count - place) ⟨kind, mark⟩
    count := lexer.count + 1 }

def push (lexer : Lexer) (kind : Kind) (mark : Mark) : Lexer :=
  { lexer with tokens := ⟨kind, mark⟩ :: lexer.tokens, count := lexer.count + 1 }

/-- How many tokens are before all that may still become keys. -/
def settled (lexer : Lexer) : Nat :=
  ((lexer.key :: lexer.outerKeys).filterMap id).foldl (fun least key => min least key.place)
    lexer.count

def isFinished (lexer : Lexer) : Bool := lexer.tokens.head?.any (·.kind = .textEnd)

/-! ## Keys -/

/-- Takes what begins at the cursor for a possible key, if one may begin. -/
def saveKey (lexer : Lexer) : Lexer :=
  if !lexer.allowsKey then lexer
  else
    let isRequired := !lexer.inBrackets && lexer.indent = lexer.cursor.column &&
      lexer.indents.head?.any (·.isBlock)
    { lexer with key := some ⟨lexer.cursor.mark, lexer.count, isRequired⟩ }

/-- Gives a possible key up. -/
def dropKey (lexer : Lexer) : Except Fault Lexer :=
  if lexer.key.any (·.isRequired) then lexer.cursor.refuse .keyExpected
  else .ok { lexer with key := none }

/-- Gives a possible key up if it is too far before the cursor.  Between brackets none is. -/
def dropStaleKey (lexer : Lexer) : Except Fault Lexer :=
  let mark := lexer.cursor.mark
  let isStale := fun key : PossibleKey =>
    key.mark.line < mark.line || key.mark.index + 1024 < mark.index
  if lexer.inBrackets || !lexer.key.any isStale then .ok lexer
  else if lexer.key.any (·.isRequired) then lexer.cursor.refuse .keyWithoutColon
  else .ok { lexer with key := none }

/-! ## Indentation -/

/-- Closes what is indented further than a column. -/
def closeTo (lexer : Lexer) (column : Int) : Lexer :=
  if lexer.inBrackets then lexer
  else
    let closes := fun indent : Indent => decide (column < indent.column)
    let ends := ((lexer.indents.takeWhile closes).filter (·.isBlock)).map fun _ =>
      Token.mk .blockEnd lexer.cursor.mark
    { lexer with
      indents := lexer.indents.dropWhile closes
      tokens := ends ++ lexer.tokens
      count := lexer.count + ends.length }

/-- Opens a block at a column, unless it is open; `mark` is where that shows. -/
def openBlock (lexer : Lexer) (kind : Kind) (column place : Nat) (mark : Mark) : Lexer :=
  if lexer.inBrackets then lexer
  else
    let indents := match lexer.indents with
      | innermost :: outer =>
        if !innermost.isBlock && innermost.column ≤ column then outer
        else innermost :: outer
      | [] => []
    let lexer := { lexer with indents }
    if lexer.indent < (column : Int) then
      { lexer with indents := ⟨column, true⟩ :: indents }.insert place kind mark
    else lexer

/-- Keeps what follows to the right of the innermost block. -/
def addMargin (lexer : Lexer) : Lexer :=
  match lexer.indents with
  | innermost :: _ =>
    if !lexer.inBrackets && innermost.isBlock then
      { lexer with indents := ⟨innermost.column + 1, false⟩ :: lexer.indents }
    else lexer
  | [] => lexer

def dropMargins (lexer : Lexer) : Lexer :=
  { lexer with indents := lexer.indents.dropWhile fun indent => !indent.isBlock }

/-! ## Between tokens -/

/-- Passes blanks, comments and ends of lines.  A tab left of `indent` before what stands on
a line is refused. -/
def passLines (indent : Int) (cursor : Cursor) : Except Fault Cursor :=
  match _left : cursor.rest with
  | [] => .ok cursor
  | first :: rest =>
    if _ending : isBreak first = true then passLines indent cursor.passBreak
    else if first = '#' then passLines indent (cursor.pass 1).passLine
    else if isBlank first then
      let after := cursor.passBlank ((rest.takeWhile isBlank).length + 1)
      let isContent := !endsLine after.next && after.next ≠ some '#'
      if first = '\t' && cursor.isLeading && cursor.column < indent && isContent then
        after.refuse .tabAsIndentation
      else passLines indent (cursor.passBlank 1)
    else .ok cursor
termination_by cursor.rest.length
decreasing_by
  · exact Cursor.length_passBreak_lt _left _ending
  · exact Nat.lt_of_le_of_lt (Cursor.length_passLine_le _) (Cursor.length_pass_lt _left 0)
  · exact Cursor.length_passBlank_lt _left 0

/-- Passes spaces, comments and ends of lines. -/
def passSpaces (cursor : Cursor) : Cursor :=
  match _left : cursor.rest with
  | [] => cursor
  | first :: _ =>
    if _ending : isBreak first = true then passSpaces cursor.passBreak
    else if first = '#' then passSpaces (cursor.pass 1).passLine
    else if first = ' ' then passSpaces (cursor.passBlank 1)
    else cursor
termination_by cursor.rest.length
decreasing_by
  · exact Cursor.length_passBreak_lt _left _ending
  · exact Nat.lt_of_le_of_lt (Cursor.length_passLine_le _) (Cursor.length_pass_lt _left 0)
  · exact Cursor.length_passBlank_lt _left 0

/-- Goes to where the next token is; outside of brackets, a key may begin on a new line. -/
def toToken (lexer : Lexer) : Except Fault Lexer := do
  let cursor ← passLines lexer.indent lexer.cursor
  let isNewLine := lexer.cursor.mark.line < cursor.mark.line
  return { lexer with
    cursor, allowsKey := lexer.allowsKey || (isNewLine && !lexer.inBrackets) }

/-! ## Documents -/

def directive (lexer : Lexer) : Except Fault Lexer := do
  let lexer ← (lexer.closeTo (-1)).dropKey
  let (token, cursor) ← Directive.read lexer.cursor
  return { lexer with cursor, allowsKey := false }.push token.kind token.mark

/-- The marker at which a document begins or ends. -/
def marker (kind : Kind) (lexer : Lexer) : Except Fault Lexer := do
  let lexer ← (lexer.closeTo (-1)).dropKey
  let cursor := lexer.cursor.pass 3
  return { lexer with cursor, allowsKey := false }.push kind lexer.cursor.mark

/-- The marker at which a document ends; nothing is beside it. -/
def documentEnd (lexer : Lexer) : Except Fault Lexer := do
  let lexer ← marker .documentEnd lexer
  let cursor ← lexer.cursor.toLineEnd
  if !endsLine cursor.next then cursor.refuse .contentAfterDocument
  return { lexer with cursor }

/-- The end of the text, which ends its last line too. -/
def finish (lexer : Lexer) : Except Fault Lexer :=
  let mark := lexer.cursor.mark
  let mark := if mark.column = 0 then mark else ⟨mark.index, mark.line + 1, 0⟩
  let lexer := { lexer with cursor := { lexer.cursor with mark } }
  let isOpen := (lexer.key :: lexer.outerKeys).any fun key => key.any (·.isRequired)
  if isOpen then .error ⟨.keyExpected, mark⟩
  else
    let lexer := lexer.closeTo (-1)
    .ok ({ lexer with key := none, allowsKey := false }.push .textEnd mark)

/-! ## Brackets -/

/-- Ends the pair that is open in square brackets. -/
def endPair (lexer : Lexer) : Lexer :=
  match lexer.pairs with
  | true :: outer =>
    { lexer with pairs := false :: outer, inMapping := false }.push .flowMappingEnd
      lexer.cursor.mark
  | _ => lexer

def openBracket (kind : Kind) (lexer : Lexer) : Except Fault Lexer := do
  let lexer := lexer.saveKey.addMargin
  if 255 ≤ lexer.outerKeys.length then lexer.cursor.refuse .nestedTooDeep
  let lexer := { lexer with
    key := none, outerKeys := lexer.key :: lexer.outerKeys, allowsKey := true }
  let lexer :=
    if kind = .flowMapping then { lexer with inMapping := true }
    else { lexer with pairs := false :: lexer.pairs }
  let cursor ← (lexer.cursor.pass 1).toLineEnd
  return { lexer with cursor }.push kind lexer.cursor.mark

def closeBracket (kind : Kind) (lexer : Lexer) : Except Fault Lexer := do
  let lexer ← lexer.dropKey
  let lexer := match lexer.outerKeys with
    | key :: outer => { lexer with key, outerKeys := outer }
    | [] => lexer
  let lexer :=
    if kind = .flowSequenceEnd then
      let lexer := lexer.endPair
      { lexer with pairs := lexer.pairs.drop 1 }
    else lexer
  let cursor ← (lexer.cursor.pass 1).toLineEnd
  let adjacentAt := if lexer.inBrackets then cursor.mark.index else lexer.adjacentAt
  return { lexer with cursor, adjacentAt, allowsKey := false }.push kind lexer.cursor.mark

def comma (lexer : Lexer) : Except Fault Lexer := do
  let lexer := (← lexer.dropKey).endPair
  let cursor ← (lexer.cursor.pass 1).toLineEnd
  return { lexer with cursor, allowsKey := true }.push .comma lexer.cursor.mark

/-! ## Items, keys and values -/

/-- A dash before an item. -/
def item (lexer : Lexer) : Except Fault Lexer := do
  let mark := lexer.cursor.mark
  if lexer.inBrackets then lexer.cursor.refuse .itemInBrackets
  if !lexer.allowsKey then lexer.cursor.refuse .itemNotAllowed
  let lexer := lexer.openBlock .blockSequence mark.column lexer.count mark
  let after := lexer.cursor.pass 1
  let hasTab := (after.rest.takeWhile isBlank).contains '\t'
  let cursor ← after.toLineEnd
  if hasTab && cursor.next = some '-' && endsWord cursor.rest[1]? then
    cursor.refuse .tabAfterDash
  let lexer := { lexer with cursor }
  let lexer :=
    if cursor.next.any fun c => isBreak c || isFlow c then lexer.addMargin else lexer
  let lexer ← lexer.dropKey
  return { lexer with allowsKey := true }.push .item cursor.mark

/-- A question mark before a key. -/
def explicitKey (lexer : Lexer) : Except Fault Lexer := do
  let mark := lexer.cursor.mark
  if !lexer.inBrackets && !lexer.allowsKey then lexer.cursor.refuse .keyNotAllowed
  let lexer :=
    if lexer.inBrackets then { lexer with inMapping := true }
    else lexer.openBlock .blockMapping mark.column lexer.count mark
  let lexer ← lexer.dropKey
  let after := lexer.cursor.pass 1
  if !after.next.any fun c => c = ' ' || isBreak c then after.refuse .noBlank
  let cursor := passSpaces after
  if cursor.next = some '\t' then cursor.refuse .tabAfterKeyMark
  return { lexer with cursor, allowsKey := !lexer.inBrackets }.push .key mark

/-- Passes a colon, and the blanks after it if the first one is a tab. -/
def passColon (cursor : Cursor) : Except Fault Cursor := do
  let after := cursor.pass 1
  if after.next ≠ some '\t' then return after
  let hasSpace := (after.rest.takeWhile isBlank).contains ' '
  let cursor ← after.toLineEnd
  if !hasSpace && cursor.next.any isNameChar then cursor.refuse .tabAfterColon
  return cursor

/-- A colon after something that may be a key.  That a block or a pair begins with the key
shows at the colon and after it. -/
def valueOf (key : PossibleKey) (isPair : Bool) (mark : Mark) (lexer : Lexer) :
    Except Fault Lexer := do
  let lexer := lexer.insert key.place .key key.mark
  if isPair && key.mark.line < mark.line then throw ⟨.colonMisplaced, mark⟩
  let lexer := if isPair then lexer.insert key.place .flowMapping lexer.cursor.mark else lexer
  let lexer := (lexer.openBlock .blockMapping key.mark.column key.place mark).addMargin
  return { lexer with key := none, allowsKey := false }.push .value mark

/-- A colon after a key that is told by a question mark, or without a key. -/
def valueAlone (isPair : Bool) (mark : Mark) (lexer : Lexer) : Except Fault Lexer := do
  let lexer := if isPair then lexer.push .flowMapping lexer.cursor.mark else lexer
  if !lexer.inBrackets && !lexer.allowsKey then throw ⟨.valueNotAllowed, mark⟩
  let lexer := (lexer.openBlock .blockMapping mark.column lexer.count mark).addMargin
  return { lexer with allowsKey := !lexer.inBrackets }.push .value mark

/-- A colon before a value.  In square brackets, one that is in no mapping opens a pair. -/
def value (lexer : Lexer) : Except Fault Lexer := do
  let mark := lexer.cursor.mark
  let isPair := !lexer.pairs.isEmpty && !lexer.inMapping
  let pairs := if isPair then true :: lexer.pairs.drop 1 else lexer.pairs
  let cursor ← passColon lexer.cursor
  let lexer := { lexer with cursor, pairs }
  match lexer.key with
  | some key => valueOf key isPair mark lexer
  | none => valueAlone isPair mark lexer

/-! ## Names and scalars -/

/-- Whether a character belongs to the name of an anchor. -/
def isAnchorChar (c : Char) : Bool := !isBlank c && !isBreak c && !isFlow c && c.toNat ≠ 0xFEFF

/-- An anchor or an alias: a mark, and a name after it. -/
def named (kind : String → Kind) (lexer : Lexer) : Except Fault Lexer :=
  let lexer := lexer.saveKey
  let name := (lexer.cursor.rest.drop 1).takeWhile isAnchorChar
  let cursor := lexer.cursor.pass (name.length + 1)
  if name.isEmpty then lexer.cursor.refuse .noAnchorName
  else
    .ok ({ lexer with cursor, allowsKey := false }.push (kind (String.ofList name))
      lexer.cursor.mark)

def tag (lexer : Lexer) : Except Fault Lexer := do
  let lexer := lexer.saveKey
  let (token, cursor) ← Tag.read lexer.inBrackets lexer.cursor
  return { lexer with cursor, allowsKey := false }.push token.kind token.mark

def block (isLiteral : Bool) (lexer : Lexer) : Except Fault Lexer := do
  let lexer := lexer.saveKey.dropMargins
  let (token, cursor) ← Block.read isLiteral lexer.indent lexer.cursor
  return { lexer with cursor, allowsKey := true }.push token.kind token.mark

def quoted (quote : Quoted.Quote) (lexer : Lexer) : Except Fault Lexer := do
  let lexer := { lexer.saveKey with allowsKey := false }
  let (text, cursor) ← Quoted.read quote lexer.inBrackets lexer.indent lexer.cursor
  let next ← { lexer with cursor }.toToken
  return { next with adjacentAt := next.cursor.mark.index }.push (.scalar text false)
    lexer.cursor.mark

/-- A plain scalar; after a line of its own, a key may begin. -/
def plain (lexer : Lexer) : Except Fault Lexer := do
  let lexer := lexer.saveKey.dropMargins
  let (text, cursor) ← Plain.read lexer.inBrackets (lexer.indent + 1) lexer.cursor
  return { lexer with cursor, allowsKey := cursor.isLeading }.push (.scalar text true)
    lexer.cursor.mark

/-! ## Reading on -/

/-- Whether the colon at the cursor is followed by a value. -/
def isValue (lexer : Lexer) : Bool :=
  let next := lexer.cursor.rest[1]?
  endsWord next ||
    (lexer.inBrackets && (next.any isFlow || lexer.cursor.mark.index = lexer.adjacentAt))

/-- Reads the token at the cursor. -/
def token (lexer : Lexer) : Except Fault Lexer :=
  let cursor := lexer.cursor
  match cursor.rest with
  | [] => lexer.finish
  | first :: rest =>
    let isAlone := endsWord rest.head?
    if cursor.mark.column = 0 && first = '%' then lexer.directive
    else if cursor.isAtMarker '-' then lexer.marker .documentStart
    else if cursor.isAtMarker '.' then lexer.documentEnd
    else if cursor.column < lexer.indent then cursor.refuse .invalidIndentation
    else
      match first with
      | '[' => lexer.openBracket .flowSequence
      | '\x7b' => lexer.openBracket .flowMapping
      | ']' => lexer.closeBracket .flowSequenceEnd
      | '\x7d' => lexer.closeBracket .flowMappingEnd
      | ',' => lexer.comma
      | '-' => if isAlone then lexer.item else lexer.plain
      | '?' => if isAlone then lexer.explicitKey else lexer.plain
      | ':' => if lexer.isValue then lexer.value else lexer.plain
      | '*' => lexer.named .alias
      | '&' => lexer.named .anchor
      | '!' => lexer.tag
      | '|' => if lexer.inBrackets then lexer.plain else lexer.block true
      | '>' => if lexer.inBrackets then lexer.plain else lexer.block false
      | '\'' => lexer.quoted .single
      | '"' => lexer.quoted .double
      | _ =>
        if "%@`".toList.contains first then cursor.refuse (.unexpectedCharacter first)
        else lexer.plain

/-- Goes to the next token, closes what is indented further than that, and reads it. -/
def step (lexer : Lexer) : Except Fault Lexer := do
  let lexer ← (← lexer.toToken).dropStaleKey
  (← (lexer.closeTo lexer.cursor.column).token).dropStaleKey

/-- The tokens of what is left of a text.  If that is refused, they are those before the
fault that nothing could change any more. -/
def run (lexer : Lexer) : List Token × Option Fault :=
  match lexer.step with
  | .error fault => (lexer.tokens.reverse.take lexer.settled, some fault)
  | .ok next =>
    if _shorter : !next.isFinished ∧ next.cursor.rest.length < lexer.cursor.rest.length then
      run next
    else (next.tokens.reverse, none)
termination_by lexer.cursor.rest.length
decreasing_by exact _shorter.2

end Lexer

/-- The tokens of a text, which ends before its first null character.  If it is refused, the
tokens before the fault are to be used first, since they may be at fault themselves. -/
def Token.scan (text : String) : List Token × Option Fault :=
  (Lexer.start (text.toList.takeWhile (· ≠ '\x00'))).run

end FrameCourier.Yaml
