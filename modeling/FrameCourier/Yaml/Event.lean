import FrameCourier.Yaml.Token.Lexer

/-!
# Events

What a text in the notation of settings says, part by part: scalars, the beginnings and ends
of collections, and the ends of documents.

Tokens are read with a list of goals, the next one first.  A goal looks at one token; it
either goes past that or leaves goals that are smaller, so that reading comes to an end.
-/

namespace FrameCourier.Yaml

/-- What a node is said to be: what its handle stands for, and a name. -/
structure NodeTag where
  scheme : String
  name : String
  deriving DecidableEq, Repr

/-- What stands before a node; anchors are told apart by number. -/
structure Properties where
  anchor : Option Nat
  tag : Option NodeTag
  deriving DecidableEq, Repr

inductive Event where
  | scalar (text : String) (isPlain : Bool) (properties : Properties)
  | alias (anchor : Nat)
  | sequence (anchor : Option Nat)
  | mapping (anchor : Option Nat)
  | sequenceEnd
  | mappingEnd
  | documentEnd
  deriving DecidableEq, Repr

/-- The names that a document gives. -/
structure Names where
  anchors : List (String × Nat)
  /-- How many anchors there are so far, in all documents. -/
  anchorCount : Nat
  /-- A handle, and what it stands for. -/
  handle : Option (String × String)
  deriving DecidableEq, Repr

namespace Names

def none : Names := ⟨[], 0, Option.none⟩

/-- Gives a name to the anchor of the next number. -/
def addAnchor (names : Names) (name : String) : Names :=
  { names with
    anchors := (name, names.anchorCount) :: names.anchors, anchorCount := names.anchorCount + 1 }

/-- What a tag says.  Two marks stand for the common scheme unless they are declared; other
closed handles have to be. -/
def tag? (names : Names) (handle suffix : String) : Option NodeTag :=
  match names.handle.filter (·.1 = handle) with
  | some (_, meaning) => some ⟨meaning, suffix⟩
  | Option.none =>
    if handle = "!!" then some ⟨"tag:yaml.org,2002:", suffix⟩
    else if Tag.isClosed handle.toList then Option.none
    else some ⟨handle, suffix⟩

end Names

/-! ## Goals -/

/-- What is to be read. -/
inductive Goal where
  /-- More documents; the first of them may begin without a marker if `isOpen`. -/
  | documents (isOpen : Bool)
  /-- Directives, and the marker of a document. -/
  | directives (hasVersion : Bool)
  | content
  | documentEnd
  /-- A node; in a block it may be one, and items may do without a block of their own.
  What is read of it begins at `start`. -/
  | node (inBlock canBeBare : Bool) (properties : Properties) (start : Option Mark)
  /-- A node in a block, unless one of some kinds of tokens shows that there is none. -/
  | part (canBeBare : Bool) (ends : List Kind)
  | blockItem
  | bareItem
  | blockKey
  | blockValue
  /-- An item in brackets; all but the first follow a comma. -/
  | flowItem (isFirst : Bool)
  | flowItemPart
  /-- A node in brackets, unless one of some kinds of tokens shows that there is none; that
  shows at `start`. -/
  | flowPart (ends : List Kind) (start : Option Mark)
  | pairKey
  | pairValue
  | pairEnd
  /-- A key in brackets; all but the first follow a comma. -/
  | flowKey (isFirst : Bool)
  /-- A key in brackets after what is at `start`. -/
  | flowKeyPart (start : Mark)
  | flowValue
  | noFlowValue
  deriving Repr

namespace Goal

/-- A bound on how many goals come from one without another token. -/
def rank : Goal → Nat
  | bareItem | blockKey | blockItem | flowItem false | flowKey false | directives _ => 1
  | node .. | blockValue | pairEnd | flowValue | noFlowValue | documents false => 2
  | content | part .. | flowPart .. | pairValue | documentEnd => 3
  | flowItemPart => 4
  | flowItem true | flowKeyPart _ => 5
  | pairKey | flowKey true | documents true => 6

def totalRank : List Goal → Nat
  | [] => 0
  | goal :: goals => goal.rank + totalRank goals

theorem totalRank_append (first second : List Goal) :
    totalRank (first ++ second) = totalRank first + totalRank second := by
  induction first with
  | nil => simp [totalRank]
  | cons goal goals ih => simp [totalRank, ih, Nat.add_assoc]

end Goal

/-- What a goal comes to at a token. -/
structure Move (rank : Nat) where
  names : Names
  events : List (Event × Mark)
  goals : List Goal
  /-- Whether the token is used. -/
  isUsed : Bool
  isSmaller : isUsed = true ∨ Goal.totalRank goals < rank

namespace Goal

/-- A goal of a rank at a token. -/
abbrev Step (rank : Nat) := Names → Token → Except Fault (Move rank)

/-- Goes past the token. -/
def pass {rank : Nat} (goals : List Goal) (events : List (Event × Mark)) (names : Names) :
    Except Fault (Move rank) :=
  .ok ⟨names, events, goals, true, .inl rfl⟩

/-- Has the token read by smaller goals. -/
def leave {rank : Nat} (goals : List Goal) (events : List (Event × Mark)) (names : Names)
    (isSmaller : totalRank goals < rank) : Except Fault (Move rank) :=
  .ok ⟨names, events, goals, false, .inr isSmaller⟩

def refuse {rank : Nat} (cause : Cause) (mark : Mark) : Except Fault (Move rank) :=
  .error ⟨cause, mark⟩

/-! ### Nodes -/

def noProperties : Properties := ⟨none, none⟩

/-- A scalar in the place of a node that is left out. -/
def emptyScalar (mark : Mark) : Event × Mark := (.scalar "~" true noProperties, mark)

def anyNode (inBlock canBeBare : Bool) : Goal := node inBlock canBeBare noProperties none

/-- The content of a node after its properties. -/
def nodeContent (inBlock canBeBare : Bool) (properties : Properties) : Step 2 :=
  fun names token =>
    let mark := token.mark
    let sequence := (Event.sequence properties.anchor, mark)
    let mapping := (Event.mapping properties.anchor, mark)
    match token.kind, inBlock, canBeBare with
    | .item, _, true => leave [bareItem] [sequence] names (by decide)
    | .scalar text isPlain, _, _ => pass [] [(.scalar text isPlain properties, mark)] names
    | .flowSequence, _, _ => pass [flowItem true] [sequence] names
    | .flowMapping, _, _ => pass [flowKey true] [mapping] names
    | .blockSequence, true, _ => pass [blockItem] [sequence] names
    | .blockMapping, true, _ => pass [blockKey] [mapping] names
    | _, _, _ =>
      if properties = noProperties then refuse .noContent mark
      else leave [] [(.scalar "" true properties, mark)] names (by decide)

/-- A node: an alias, or an anchor and a tag in either order and its content. -/
def nodeStep (inBlock canBeBare : Bool) (properties : Properties) (start : Option Mark) :
    Step 2 := fun names token =>
  let content := nodeContent inBlock canBeBare properties names token
  let mark := start.getD token.mark
  let next := fun properties => node inBlock canBeBare properties (some mark)
  match token.kind with
  | .alias name =>
    if properties ≠ noProperties then content
    else
      match names.anchors.lookup name with
      | some anchor => pass [] [(.alias anchor, token.mark)] names
      | none => refuse .unknownAnchor token.mark
  | .anchor name =>
    if properties.anchor.isSome then content
    else pass [next { properties with anchor := names.anchorCount }] [] (names.addAnchor name)
  | .tag handle suffix =>
    if properties.tag.isSome then content
    else
      match names.tag? handle suffix with
      | some tag => pass [next { properties with tag }] [] names
      | none => refuse .undeclaredHandle mark
  | _ => content

/-! ### Documents -/

def documentsStep (isOpen : Bool) : Step (documents isOpen).rank := fun names token =>
  match token.kind with
  | .documentEnd => pass [documents isOpen] [] names
  | .textEnd => pass [] [] names
  | .version | .tagDirective .. | .documentStart =>
    leave [directives false] [] names (by cases isOpen <;> decide)
  | _ =>
    match isOpen with
    | true => leave [anyNode true false, documentEnd] [] { names with anchors := [] } (by decide)
    | false => leave [directives false] [] names (by decide)

/-- A directive before a document; only the last one counts for tags. -/
def directivesStep (hasVersion : Bool) : Step 1 := fun names token =>
  match token.kind with
  | .version =>
    if hasVersion then refuse .repeatedVersion token.mark
    else pass [directives true] [] { names with handle := none }
  | .tagDirective handle meaning =>
    pass [directives hasVersion] [] { names with handle := some (handle, meaning) }
  | .documentStart => pass [content, documentEnd] [] { names with anchors := [] }
  | _ => refuse .noDocument token.mark

/-- The content of a document after its marker. -/
def contentStep : Step 3 := fun names token =>
  match token.kind with
  | .version | .tagDirective .. | .documentStart | .documentEnd | .textEnd =>
    leave [] [emptyScalar token.mark] names (by decide)
  | _ => leave [anyNode true false] [] names (by decide)

def documentEndStep : Step 3 := fun names token =>
  let event := (Event.documentEnd, token.mark)
  let names := { names with handle := none }
  match token.kind with
  | .documentEnd => pass [documents true] [event] names
  | .version | .tagDirective .. => refuse .directiveInDocument token.mark
  | _ => leave [documents false] [event] names (by decide)

/-! ### Blocks -/

def partStep (canBeBare : Bool) (ends : List Kind) : Step 3 := fun names token =>
  if ends.contains token.kind then leave [] [emptyScalar token.mark] names (by decide)
  else leave [anyNode true canBeBare] [] names (by cases canBeBare <;> decide)

def memberPart : Goal := part true [.key, .value, .blockEnd]

def blockItemStep : Step 1 := fun names token =>
  match token.kind with
  | .blockEnd => pass [] [(.sequenceEnd, token.mark)] names
  | .item => pass [part false [.item, .blockEnd], blockItem] [] names
  | _ => refuse .noDash token.mark

/-- An item without a block of its own; the first token that is no dash ends them. -/
def bareItemStep : Step 1 := fun names token =>
  match token.kind with
  | .item => pass [part false [.item, .key, .value, .blockEnd], bareItem] [] names
  | _ => leave [] [(.sequenceEnd, token.mark)] names (by decide)

def blockKeyStep : Step 1 := fun names token =>
  match token.kind with
  | .key => pass [memberPart, blockValue] [] names
  | .value => pass [memberPart, blockKey] [emptyScalar token.mark] names
  | .blockEnd => pass [] [(.mappingEnd, token.mark)] names
  | _ => refuse .noKey token.mark

def blockValueStep : Step 2 := fun names token =>
  match token.kind with
  | .value => pass [memberPart, blockKey] [] names
  | _ => leave [blockKey] [emptyScalar token.mark] names (by decide)

/-! ### Brackets -/

def flowPartStep (ends : List Kind) (start : Option Mark) : Step 3 := fun names token =>
  if ends.contains token.kind then
    leave [] [emptyScalar (start.getD token.mark)] names (by decide)
  else leave [anyNode false false] [] names (by decide)

def flowItemStep (isFirst : Bool) : Step (flowItem isFirst).rank := fun names token =>
  match token.kind, isFirst with
  | .flowSequenceEnd, _ => pass [] [(.sequenceEnd, token.mark)] names
  | _, true => leave [flowItemPart] [] names (by decide)
  | .comma, false => pass [flowItemPart] [] names
  | _, false => refuse .noSequenceComma token.mark

/-- An item after a comma, if there is one more; a key begins a pair. -/
def flowItemPartStep : Step 4 := fun names token =>
  match token.kind with
  | .flowSequenceEnd => pass [] [(.sequenceEnd, token.mark)] names
  | .key => pass [pairKey] [(.mapping none, token.mark)] names
  | _ => leave [anyNode false false, flowItem false] [] names (by decide)

def pairKeyStep : Step 6 := fun names token =>
  match token.kind with
  | .value | .comma | .flowSequenceEnd => pass [pairValue] [emptyScalar token.mark] names
  | _ => leave [anyNode false false, pairValue] [] names (by decide)

def pairValueStep : Step 3 := fun names token =>
  match token.kind with
  | .value => pass [flowPart [.comma, .flowSequenceEnd] none, pairEnd] [] names
  | _ => leave [pairEnd] [emptyScalar token.mark] names (by decide)

def pairEndStep : Step 2 := fun names token =>
  leave [flowItem false] [(.mappingEnd, token.mark)] names (by decide)

def flowKeyStep (isFirst : Bool) : Step (flowKey isFirst).rank := fun names token =>
  match token.kind, isFirst with
  | .flowMappingEnd, _ => pass [] [(.mappingEnd, token.mark)] names
  | _, true => leave [flowKeyPart token.mark] [] names (show 5 < 6 by decide)
  | .comma, false => pass [flowKeyPart token.mark] [] names
  | _, false => refuse .noMappingComma token.mark

/-- The value after a colon at `start`. -/
def flowValuePart (start : Mark) : Goal := flowPart [.comma, .flowMappingEnd] (some start)

/-- A key after a comma, if there is one more. -/
def flowKeyPartStep (start : Mark) : Step 5 := fun names token =>
  match token.kind with
  | .key => pass [flowPart [.value, .comma, .flowMappingEnd] none, flowValue] [] names
  | .value => pass [flowValuePart token.mark, flowKey false] [emptyScalar token.mark] names
  | .flowMappingEnd => pass [] [(.mappingEnd, start)] names
  | _ => leave [anyNode false false, noFlowValue] [] names (by decide)

def flowValueStep : Step 2 := fun names token =>
  match token.kind with
  | .value => pass [flowValuePart token.mark, flowKey false] [] names
  | _ => leave [flowKey false] [emptyScalar token.mark] names (by decide)

/-- After a key that no mark tells from a scalar, there is no value. -/
def noFlowValueStep : Step 2 := fun names token =>
  leave [flowKey false] [emptyScalar token.mark] names (by decide)

/-! ### Reading -/

def move : (goal : Goal) → Step goal.rank
  | documents isOpen => documentsStep isOpen
  | directives hasVersion => directivesStep hasVersion
  | content => contentStep
  | documentEnd => documentEndStep
  | node inBlock canBeBare properties start => nodeStep inBlock canBeBare properties start
  | part canBeBare ends => partStep canBeBare ends
  | blockItem => blockItemStep
  | bareItem => bareItemStep
  | blockKey => blockKeyStep
  | blockValue => blockValueStep
  | flowItem isFirst => flowItemStep isFirst
  | flowItemPart => flowItemPartStep
  | flowPart ends start => flowPartStep ends start
  | pairKey => pairKeyStep
  | pairValue => pairValueStep
  | pairEnd => pairEndStep
  | flowKey isFirst => flowKeyStep isFirst
  | flowKeyPart start => flowKeyPartStep start
  | flowValue => flowValueStep
  | noFlowValue => noFlowValueStep

end Goal

/-- The events of tokens.  Where tokens are missing, the text is refused. -/
def Event.ofTokens (refused : Option Fault) (names : Names) :
    List Goal → List Token → Except Fault (List (Event × Mark))
  | [], _ => .ok []
  | _ :: _, [] =>
    match refused with
    | some fault => .error fault
    | none => .ok []
  | goal :: goals, token :: rest => do
    let move ← goal.move names token
    let more ←
      if _used : move.isUsed = true then ofTokens refused move.names (move.goals ++ goals) rest
      else ofTokens refused move.names (move.goals ++ goals) (token :: rest)
    return move.events ++ more
termination_by goals tokens => (tokens.length, Goal.totalRank goals)
decreasing_by
  · exact Prod.Lex.left _ _ (Nat.lt_succ_self _)
  · refine Prod.Lex.right _ ?_
    rw [Goal.totalRank_append, Goal.totalRank]
    exact Nat.add_lt_add_right (move.isSmaller.resolve_left _used) _

/-- The events of a text. -/
def Event.ofText (text : String) : Except Fault (List (Event × Mark)) :=
  let (tokens, refused) := Token.scan text
  ofTokens refused .none [.documents true] tokens

end FrameCourier.Yaml
