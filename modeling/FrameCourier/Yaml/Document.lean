import FrameCourier.Yaml.Scalar

/-!
# Documents

The nodes that the documents of a text hold.  An alias stands for the node of its anchor.  A
table has each of its keys once.
-/

namespace FrameCourier.Yaml

/-- A collection of which the beginning is read; its parts are the last ones first. -/
inductive OpenNode where
  | list (anchor : Option Nat) (items : List Node)
  /-- The key is one whose value is still missing. -/
  | table (anchor : Option Nat) (entries : List (Node × Node)) (key : Option Node)
  deriving Repr

/-- What is read of a text. -/
structure Reading where
  documents : List Node
  /-- The collections around what comes next, the innermost first. -/
  around : List OpenNode
  /-- The node of the document, once it is complete. -/
  root : Option Node
  anchors : List (Nat × Node)
  deriving Repr

namespace Reading

def start : Reading := ⟨[], [], none, []⟩

/-- Puts a node at its place in what is around it.  In a table, a node that no key is for is
a key itself, but one that is invalid is not. -/
def place (reading : Reading) (node : Node) (mark : Mark) : Except Fault Reading :=
  match reading.around with
  | [] => .ok { reading with root := some node }
  | .list anchor items :: outer =>
    .ok { reading with around := .list anchor (node :: items) :: outer }
  | .table anchor entries none :: outer =>
    let key := if node = .invalid then none else some node
    .ok { reading with around := .table anchor entries key :: outer }
  | .table anchor entries (some key) :: outer =>
    if entries.any (·.1 = key) then .error ⟨.duplicatedKey key.shown, mark⟩
    else .ok { reading with around := .table anchor ((key, node) :: entries) none :: outer }

/-- Puts a node at its place, and remembers it for the aliases of its anchor. -/
def add (reading : Reading) (node : Node) (anchor : Option Nat) (mark : Mark) :
    Except Fault Reading :=
  let anchors := match anchor with
    | some number => (number, node) :: reading.anchors
    | none => reading.anchors
  { reading with anchors }.place node mark

/-- Closes the innermost collection. -/
def close (reading : Reading) (mark : Mark) : Except Fault Reading :=
  match reading.around with
  | [] => .ok reading
  | .list anchor items :: outer =>
    { reading with around := outer }.add (.list items.reverse) anchor mark
  | .table anchor entries _ :: outer =>
    { reading with around := outer }.add (.table entries.reverse) anchor mark

/-- Reads on.  An alias within the node of its own anchor is invalid. -/
def read (reading : Reading) (event : Event × Mark) : Except Fault Reading :=
  match event.1 with
  | .scalar text isPlain properties =>
    reading.add (.ofScalar text isPlain properties.tag) properties.anchor event.2
  | .alias anchor =>
    reading.place ((reading.anchors.lookup anchor).getD .invalid) event.2
  | .sequence anchor => .ok { reading with around := .list anchor [] :: reading.around }
  | .mapping anchor => .ok { reading with around := .table anchor [] none :: reading.around }
  | .sequenceEnd | .mappingEnd => reading.close event.2
  | .documentEnd =>
    .ok { reading with
      documents := reading.documents ++ [reading.root.getD .invalid], root := none }

end Reading

/-- The documents of a text.  A key that is there twice is refused only if nothing else is
wrong with the text. -/
def documents (text : String) : Except Fault (List Node) := do
  let events ← Event.ofText text
  return (← events.foldlM Reading.read Reading.start).documents

end FrameCourier.Yaml
