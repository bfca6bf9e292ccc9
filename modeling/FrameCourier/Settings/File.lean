import FrameCourier.Settings.Fault
import FrameCourier.Yaml.Document

/-!
# Settings in files

A file of settings holds one document, which is a table.  A file without a document holds no
settings.
-/

namespace FrameCourier

/-- Why a file holds no settings. -/
inductive FileFault where
  | malformed (fault : Yaml.Fault)
  | manyDocuments (count : Nat)
  /-- A key that is neither a text nor a number nor a truth value. -/
  | key (shown : String)
  /-- A number that is written as a word. -/
  | wordNumber (written : String)
  | notTable (found : FoundValue) (origin : String)
  deriving DecidableEq, Repr

def FileFault.message : FileFault → String
  | malformed fault => fault.message
  | manyDocuments count => "Got " ++ toString count ++ " YAML documents, expected 1"
  | key shown => "Cannot parse " ++ shown ++ " because it is an unsupported hash key type"
  | wordNumber written => "Parsing " ++ written ++ " as floating point number failed"
  | notTable found origin => "invalid type: " ++ found.words ++ ", expected a map in " ++ origin

namespace Setting

/-- The name that a key stands for: a number and a truth value as they are written. -/
def nameOf : Yaml.Node → Except FileFault String
  | .text name => .ok name
  | .integer value => .ok (toString value)
  | .boolean value => .ok (toString value)
  | .real written => .ok written
  | key => .error (.key key.shown)

mutual

/-- The setting that a node of a file is. -/
def ofNode (origin : String) : Yaml.Node → Except FileFault Setting
  | .text value => .ok (.scalar (.text value) (some origin))
  | .integer value => .ok (.scalar (.integer value) (some origin))
  | .boolean value => .ok (.scalar (.boolean value) (some origin))
  | .real written =>
    match Number.Binary.read? Number.Format.double written with
    | some value => .ok (.scalar (.real value) (some origin))
    | none => .error (.wordNumber written)
  | .list items => do return .list (← ofItems origin items) (some origin)
  | .table entries => do return .table (← ofEntries origin [] entries) (some origin)
  | .null | .invalid => .ok (.scalar .null (some origin))

def ofItems (origin : String) : List Yaml.Node → Except FileFault (List Setting)
  | [] => .ok []
  | item :: rest => do
    let setting ← ofNode origin item
    return setting :: (← ofItems origin rest)

/-- Adds the members that entries are; the last one of a name counts. -/
def ofEntries (origin : String) (members : List (String × Setting)) :
    List (Yaml.Node × Yaml.Node) → Except FileFault (List (String × Setting))
  | [] => .ok members
  | (key, value) :: rest => do
    let name ← nameOf key
    let setting ← ofNode origin value
    ofEntries origin (changeMember name (fun _ => setting) members) rest

end

/-- The members of the table that a file holds. -/
def membersOfFile (origin text : String) : Except FileFault (List (String × Setting)) := do
  match ← (Yaml.documents text).mapError .malformed with
  | [] => return []
  | [node] =>
    match ← ofNode origin node with
    | .table members _ => return members
    | setting => throw (.notTable (.ofSetting setting) origin)
  | many => throw (.manyDocuments many.length)

end Setting

end FrameCourier
