import FrameCourier.Archive.Reader
import FrameCourier.Folder

/-!
# Archives

An archive is a folder with one file a frame.  The system lists the files of a folder in
any order; the entries of an archive are ordered by frame number, where two have the same by
name, and where damaged names read alike by their bytes.  Entries of one kind have to be
numbered from 1 without a gap or a repeat.
-/

namespace FrameCourier.Archive

/-- Why an archive cannot be used. -/
inductive Error where
  | system (path : Bytes) (fault : SystemFault)
  | malformed (path : Bytes) (fault : ReadFault)
  | image (fault : ImageFault)
  | notContiguous (expected found : UInt32)
  deriving DecidableEq, Repr

def ImageFault.message : ImageFault → String
  | undecodable frame fault =>
    "Frame " ++ toString frame.toNat ++ " image data is not valid base64: " ++ fault.message
  | sizeMismatch frame declared actual =>
    "Frame " ++ toString frame.toNat ++ " declares " ++ toString declared.toNat ++
      " bytes but holds " ++ toString actual
  | notAnnotated frame => "Frame " ++ toString frame.toNat ++ " has no annotated image"

namespace Error

def message : Error → String
  | system path fault => "Archive I/O failed for " ++ Text.quotedPath path ++ ": " ++ fault.message
  | malformed path fault =>
    "Malformed archive file " ++ Text.quotedPath path ++ ": " ++ fault.message
  | image fault => fault.message
  | notContiguous expected found =>
    "Archive frames are not contiguous: expected frame " ++ toString expected.toNat ++ ", found " ++
      toString found.toNat

/-- The message and, where the error comes from another one, the message of that one. -/
def chain (error : Error) : List String :=
  match error with
  | system _ fault => [error.message, fault.message]
  | malformed _ fault => [error.message, fault.message]
  | image (.undecodable _ fault) => [error.message, fault.message]
  | image _ => [error.message]
  | notContiguous _ _ => [error.message]

end Error

/-- Stores a record in the folder at `path`, if there is one. -/
def write (path : String) (listing : Option Listing) (record : Record) : Except Error Listing :=
  let failed := Error.system (.ofText (inside path record.fileName))
  match listing with
  | none => .error (failed .noEntry)
  | some listing => (listing.write record.fileName record.toBytes).mapError failed

/-- The record that a node at `path` holds. -/
def readNode (path : Bytes) (node : Node) : Except Error Record :=
  match node.content with
  | .error fault => .error (.system path fault)
  | .ok content => (Record.read content).mapError (.malformed path)

/-- What a name leads to: something in the folder at `path`, or where a path goes that
starts from the folder or from the root. -/
def nodeOf (path : String) (listing : Option Listing) (name : String) :
    Except SystemFault Node :=
  match listing.bind (·.lookup name) with
  | some node => .ok node
  | none => do
    let names ← namesOf (inside path name)
    if isAbsolute name then Node.reach [] (.folder []) names
    else
      match listing with
      | none => throw .noEntry
      | some listing =>
        let folder := (path.splitOn "/").getLast?.getD ""
        Node.reach [[(folder, .folder listing)]] (.folder listing) (name.splitOn "/")

/-- The record under a name. -/
def read (path : String) (listing : Option Listing) (name : String) : Except Error Record :=
  let place := Bytes.ofText (inside path name)
  match nodeOf path listing name with
  | .error fault => .error (.system place fault)
  | .ok node => readNode place node

/-- A stored frame: its number, its name, also as the system has it, and what the name stands
for. -/
structure Entry where
  number : UInt32
  /-- The name as a text, whatever of it is none. -/
  name : String
  listed : Bytes
  node : Node

/-- Whether bytes come before others, or are these: by the first byte that differs. -/
def comesFirst : Bytes → Bytes → Bool
  | [], _ => true
  | _ :: _, [] => false
  | b :: rest, c :: others => if b = c then comesFirst rest others else decide (b < c)

/-- Whether an entry may come before another one: by number, then by name as a text, then by
name as it is listed. -/
def Entry.le (a b : Entry) : Bool :=
  if a.number ≠ b.number then decide (a.number < b.number)
  else if a.name ≠ b.name then decide (a.name < b.name)
  else comesFirst a.listed b.listed

/-- The stored frame that a listed name is, if it is one. -/
def Entry.of? (listed : Bytes × Node) : Option Entry :=
  let name := Text.lossy listed.1
  (frameNumber? name).map fun number => ⟨number, name, listed.1, listed.2⟩

/-- The stored frames of a folder in their order. -/
def entriesOf (directory : Directory) : List Entry :=
  (directory.filterMap Entry.of?).mergeSort Entry.le

/-- The stored frames of the folder at `path`. -/
def entries (path : String) (directory : Option Directory) : Except Error (List Entry) :=
  match directory with
  | none => .error (.system (.ofText path) .noEntry)
  | some directory => .ok (entriesOf directory)

/-- Reads entries that have to be numbered by their places, which begin with `position`.  Places
are counted like numbers, in 32 bits. -/
def readContiguous (path : String) (position : Nat) : List Entry → Except Error (List Record)
  | [] => .ok []
  | entry :: rest =>
    match readNode (placeOf path entry.listed) entry.node with
    | .error error => .error error
    | .ok record =>
      let expected := UInt32.ofNat position
      if record.frameNumber ≠ expected then .error (.notContiguous expected record.frameNumber)
      else (readContiguous path (position + 1) rest).map (record :: ·)

/-- Reads the entries whose names are `selected`. -/
def loadContiguous (path : String) (directory : Option Directory) (selected : String → Bool) :
    Except Error (List Record) :=
  match entries path directory with
  | .error error => .error error
  | .ok entries => readContiguous path 1 (entries.filter fun entry => selected entry.name)

/-- The frames without an outcome, from 1 on. -/
def loadFrames (path : String) (directory : Option Directory) : Except Error (List Frame) :=
  match loadContiguous path directory isSourceName with
  | .error error => .error error
  | .ok records => (records.mapM Record.toFrame).mapError .image

/-- The images of the frames with an outcome, from 1 on. -/
def loadOutputFrames (path : String) (directory : Option Directory) (fallback : Bool) :
    Except Error (List OutputFrame) :=
  match loadContiguous path directory isProcessedName with
  | .error error => .error error
  | .ok records => (records.mapM (Record.toOutputFrame · fallback)).mapError .image

end FrameCourier.Archive
