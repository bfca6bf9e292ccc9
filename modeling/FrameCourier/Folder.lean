import FrameCourier.Document.Ascii
import FrameCourier.System

/-!
# Folders

What a folder of the system holds, as names and what they stand for.  The system lists the
names of a folder in an order of its own, so nothing may depend on the order of a listing;
whoever needs an order sorts.
-/

namespace FrameCourier

/-- What a name in a folder stands for. -/
inductive Node where
  | file (content : Bytes)
  | folder (entries : List (String × Node))
  deriving Repr

/-- The names in a folder, in the order in which the system lists them. -/
abbrev Listing := List (String × Node)

namespace Listing

/-- Puts a node under a name: in place of what the name stood for, or last. -/
def put (name : String) (node : Node) : Listing → Listing
  | [] => [(name, node)]
  | (other, kept) :: rest =>
    if other = name then (name, node) :: rest else (other, kept) :: put name node rest

theorem lookup_put_self (name : String) (node : Node) (listing : Listing) :
    (put name node listing).lookup name = some node := by
  induction listing with
  | nil => exact List.lookup_cons_self
  | cons entry rest ih =>
    unfold put
    split
    · exact List.lookup_cons_self
    · next other =>
      have apart : (name == entry.1) = false := by simpa using fun same => other same.symm
      rw [List.lookup_cons, apart]
      exact ih

theorem lookup_put_of_ne {name other : String} (apart : other ≠ name) (node : Node)
    (listing : Listing) : (put name node listing).lookup other = listing.lookup other := by
  have distinct : (other == name) = false := by simpa using apart
  induction listing with
  | nil =>
    unfold put
    rw [List.lookup_cons, distinct]
  | cons entry rest ih =>
    unfold put
    split
    · next same =>
      have distinct' : (other == entry.1) = false := by rw [same]; exact distinct
      rw [List.lookup_cons, List.lookup_cons, distinct, distinct']
    · rw [List.lookup_cons, List.lookup_cons, ih]

/-- The entries in the order of their names. -/
def byName (listing : Listing) : Listing := listing.mergeSort fun a b => !decide (b.1 < a.1)

/-- Leaves a name out. -/
def remove (name : String) (listing : Listing) : Listing :=
  listing.filter fun entry => entry.1 ≠ name

/-- Writes a file, over one of the same name; a folder is not written over. -/
def write (name : String) (content : Bytes) (listing : Listing) : Except SystemFault Listing :=
  match listing.lookup name with
  | some (.folder _) => .error .isDirectory
  | _ => .ok (listing.put name (.file content))

/-- Puts a file where a path leads, with folders on the way; what was in their way goes. -/
def plant (content : Bytes) : List String → Listing → Listing
  | [], listing => listing
  | [name], listing => listing.put name (.file content)
  | name :: rest, listing =>
    let inner : Listing := match listing.lookup name with
      | some (.folder entries) => entries
      | _ => []
    listing.put name (.folder (plant content rest inner))

/-- What a path of names leads to. -/
def find? : List String → Listing → Option Node
  | [], listing => some (.folder listing)
  | name :: rest, listing =>
    match listing.lookup name with
    | some (.folder entries) => find? rest entries
    | node => if rest.isEmpty then node else none

end Listing

/-! ## Paths -/

/-- The most bytes that a name may have. -/
def longestName : Nat := 255

/-- The most bytes that a path may have. -/
def longestPath : Nat := 4095

/-- The names on a path.  Nothing is between two separators in a row or after the last one. -/
def namesOf (path : String) : Except SystemFault (List String) :=
  if path.toList.any fun c => c.toNat = 0 then .error .pathHoldsNul
  else if longestPath < path.utf8ByteSize then .error .nameTooLong
  else .ok (path.splitOn "/")

/-- What names lead to from `node`, one after the other.  The folders passed on the way to
`node` are `above`, the last one first; of what is around the first folder nothing is known
but that it is there. -/
def Node.reach (above : List Listing) (node : Node) : List String → Except SystemFault Node
  | [] => .ok node
  | name :: rest =>
    match node with
    | .file _ => .error .notDirectory
    | .folder here =>
      if name = "" || name = "." then reach above node rest
      else if name = ".." then
        match above with
        | parent :: above => reach above (.folder parent) rest
        | [] => reach [] (.folder []) rest
      else if longestName < name.utf8ByteSize then .error .nameTooLong
      else
        match here.lookup name with
        | some node => reach (here :: above) node rest
        | none => .error .noEntry

/-- The content of a file; a folder has none. -/
def Node.content : Node → Except SystemFault Bytes
  | .folder _ => .error .isDirectory
  | .file content => .ok content

/-- The content of the file under a name. -/
def Listing.content (listing : Listing) (name : String) : Except SystemFault Bytes :=
  match listing.lookup name with
  | some node => node.content
  | none => .error .noEntry

/-- Whether a path begins at the root. -/
def isAbsolute (path : String) : Bool := path.toList.head? = some '/'

/-- What stands before a name in the path of something in a folder.  The empty path is the folder
that names start from. -/
def leading (path : String) : String :=
  if path.isEmpty || path.toList.getLast? = some '/' then path else path ++ "/"

/-- The path of a name in a folder; a name that begins at the root stays as it is. -/
def inside (path name : String) : String :=
  if isAbsolute name then name else leading path ++ name

/-! ## What the system lists -/

/-- A folder as the system lists it.  Names are bytes there, which need not be a text. -/
abbrev Directory := List (Bytes × Node)

/-- A folder whose names are texts as the system lists it. -/
def Listing.directory (listing : Listing) : Directory :=
  listing.map fun (name, node) => (Bytes.ofText name, node)

/-- The path of a listed name in a folder. -/
def placeOf (path : String) (name : Bytes) : Bytes := Bytes.ofText (leading path) ++ name

end FrameCourier
