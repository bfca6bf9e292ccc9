import FrameCourier.Document.Ascii
import FrameCourier.Number.Binary

/-!
# Documents

A document is a tree of values.  An object keeps its members in the order and number in
which they were written.  `settled` gives the members that count where an object is read
as a mapping: of a repeated name the last one, in the order of the names.
-/

namespace FrameCourier

/-- A number in a document: an integer of 64 bits, with or without a sign, or a
floating-point number. -/
inductive Numeral where
  | integer (value : Int)
  | real (value : Number.Double)
  deriving DecidableEq, Repr

inductive Document where
  | null
  | boolean (value : Bool)
  | number (value : Numeral)
  | text (value : String)
  | list (items : List Document)
  | object (members : List (String × Document))
  deriving Repr

namespace Document

/-- The name and value pairs of an object, in written order. -/
abbrev Members := List (String × Document)

namespace Members

/-- Puts a member into its place in a list ordered by name, instead of one of that name. -/
def put (name : String) (value : Document) : Members → Members
  | [] => [(name, value)]
  | (other, kept) :: rest =>
    if name = other then (name, value) :: rest
    else if name < other then (name, value) :: (other, kept) :: rest
    else (other, kept) :: put name value rest

/-- The last member of every name, ordered by name. -/
def settled (members : Members) : Members :=
  members.foldl (fun done member => put member.1 member.2 done) []

/-- The value of the first member of a name. -/
def value? (members : Members) (name : String) : Option Document := members.lookup name

/-- The members of all other names. -/
def without (members : Members) (name : String) : Members :=
  members.filter fun member => member.1 != name

end Members

mutual

/-- The document with the members of all its objects settled. -/
def settle : Document → Document
  | .list xs => .list (settleItems xs)
  | .object members => .object (Members.settled (settleMembers members))
  | scalar => scalar

def settleItems : List Document → List Document
  | [] => []
  | x :: xs => settle x :: settleItems xs

def settleMembers : List (String × Document) → List (String × Document)
  | [] => []
  | (name, x) :: rest => (name, settle x) :: settleMembers rest

end

end Document

end FrameCourier
