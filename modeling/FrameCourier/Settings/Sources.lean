import FrameCourier.Folder
import FrameCourier.Settings.File
import FrameCourier.Settings.Reading
import FrameCourier.Text.Utf8

/-!
# Sources of settings

Settings come from three sources, each laid over the one before: a file for all
deployments, which has to exist, a file for the deployment, which may be missing, and the
variables of the environment whose names begin with a mark.

A key at the top of a file and the name of a variable are paths: names with points between
them, each with positions in brackets behind it if it is that of a list.  A key that is no
path is a name.
-/

namespace FrameCourier

/-- Where a program is deployed. -/
inductive Deployment where
  | development
  | production
  deriving DecidableEq, Repr

namespace Deployment

def name : Deployment → String
  | development => "local"
  | production => "production"

/-- The deployment of a name, in either case of letters. -/
def read (given : String) : Except NameFault Deployment :=
  match [development, production].find? fun d => d.name = Text.lowercase given with
  | some deployment => .ok deployment
  | none => .error (.deployment given)

end Deployment

/-- How much a program tells of its work. -/
inductive LogLevel where
  | trace
  | debug
  | info
  | warn
  | error
  deriving DecidableEq, Repr

namespace LogLevel

def name : LogLevel → String
  | trace => "trace"
  | debug => "debug"
  | info => "info"
  | warn => "warn"
  | error => "error"

/-- The level among `known` ones of a name, in either case of letters. -/
def among (known : List LogLevel) (given : String) : Option LogLevel :=
  known.find? fun level => level.name = Text.lowercase given

def read (given : String) : Except NameFault LogLevel :=
  match among [trace, debug, info, warn, error] given with
  | some level => .ok level
  | none => .error (.level given)

/-- The level of a name that the service knows. -/
def readForService (given : String) : Except NameFault LogLevel :=
  match among [debug, info] given with
  | some level => .ok level
  | none => .error (.serviceLevel given)

/-- A level as a setting. -/
def setting (read : String → Except NameFault LogLevel) : Setting.Reader LogLevel :=
  fun setting => do
    (read (← setting.text)).mapError fun fault => ⟨[], .name fault⟩

end LogLevel

/-- Where a program finds its settings. -/
structure Sources where
  /-- The path of the folder that the program is started in. -/
  directory : String
  files : Listing
  environment : List (String × String)
  /-- Whether there is something at a path that begins at the root. -/
  isPresent : String → Bool

/-- Why a program has no settings. -/
inductive SettingsError where
  | name (fault : NameFault)
  | noSource (path : String)
  | malformed (origin : String) (fault : FileFault)
  | setting (fault : SettingFault)
  /-- A setting names a file that does not exist. -/
  | noFile (path : String)
  deriving DecidableEq, Repr

def SettingsError.message : SettingsError → String
  | name fault => fault.message
  | noSource path => "configuration file \"" ++ path ++ "\" not found"
  | malformed origin fault => fault.message ++ " in " ++ origin
  | setting fault => fault.message
  | noFile path => "File not found: " ++ Text.quoted path

/-! ## Paths to settings -/

/-- The characters of a name in a path. -/
def isKeyChar (c : Char) : Bool := c.isAlphanum || c = '_' || c = '-'

/-- The position before a closing bracket; spaces and tabs may be around it. -/
def position? (text : List Char) : Option Int :=
  let isSpace := fun c : Char => c = ' ' || c = '\t'
  match text.reverse with
  | ']' :: digits =>
    let digits := (digits.dropWhile isSpace).reverse.dropWhile isSpace
    if digits.head? = some '+' then none
    else Number.integerWithin? Number.leastInt64 Number.greatestInt64 10 digits
  | _ => none

/-- A name, and positions in brackets. -/
def stepsOf? (text : List Char) : Option (List Setting.Step) :=
  let key := text.takeWhile isKeyChar
  if key.isEmpty then none
  else
    match (text.dropWhile isKeyChar).splitOn '[' with
    | [] :: positions => do
      let positions ← positions.mapM position?
      return .name (String.ofList key) :: positions.map .index
    | _ => none

/-- The steps that a key stands for. -/
def stepsOf (key : String) : List Setting.Step :=
  match (key.toList.splitOn '.').mapM stepsOf? with
  | some steps => steps.flatten
  | none => [.name key]

/-- Lays settings over others, each where its key leads. -/
def Setting.layAll (settings : Setting) (entries : List (String × Setting)) : Setting :=
  entries.foldl (fun settings entry =>
    Setting.changePath (stepsOf entry.1) (fun under => under.laidOver entry.2) settings) settings

/-! ## Variables -/

/-- Two underscores in a row stand for a point. -/
def pointed : List Char → List Char
  | '_' :: '_' :: rest => '.' :: pointed rest
  | c :: rest => c :: pointed rest
  | [] => []

/-- The setting of a variable, if its name begins with a mark, in either case of letters. -/
def ofVariable? (mark : String) (variableOf : String × String) : Option (String × Setting) :=
  let name := (Text.lowercase variableOf.1).toList
  if mark.toList.isPrefixOf name then
    some (String.ofList (pointed (name.drop mark.length)),
      .scalar (.text variableOf.2) (some "the environment"))
  else none

/-! ## Gathering -/

/-- The text of a file, without a byte order mark. -/
def fileText (content : Bytes) : String :=
  Text.lossy (if [0xEF, 0xBB, 0xBF].isPrefixOf content then content.drop 3 else content)

namespace Sources

/-- The file of a name, or else the one whose name has an ending more, and its content. -/
def found? (sources : Sources) (name : String) : Option (String × Bytes) :=
  [name, name ++ ".yaml", name ++ ".yml"].findSome? fun name =>
    match sources.files.find? ["configuration", name] with
    | some (.file content) => some (name, content)
    | _ => none

/-- The settings that the file of a name holds. -/
def file? (sources : Sources) (name : String) :
    Except SettingsError (Option (List (String × Setting))) :=
  match sources.found? name with
  | some (name, content) =>
    let origin := inside "configuration" name
    match Setting.membersOfFile origin (fileText content) with
    | .ok members => .ok (some members)
    | .error fault => .error (.malformed origin fault)
  | none => .ok none

/-- The settings of all sources; `mark` begins the names of variables. -/
def gather (sources : Sources) (mark : String) : Except SettingsError Setting := do
  let given := (sources.environment.lookup "APP_ENVIRONMENT").getD "local"
  let deployment ← (Deployment.read given).mapError .name
  let base ← match ← sources.file? "base.yaml" with
    | some members => pure members
    | none =>
      throw (.noSource (inside (inside sources.directory "configuration") "base.yaml"))
  let more := (← sources.file? (deployment.name ++ ".yaml")).getD []
  let named := sources.environment.filterMap (ofVariable? mark)
  return (Setting.table [] none).layAll (base ++ more ++ named)

/-- Refuses the path of a file that does not exist. -/
def check (sources : Sources) (path : String) : Except SettingsError Unit :=
  let isThere :=
    if isAbsolute path then sources.isPresent path
    else !path.isEmpty &&
      ((namesOf path).bind (Node.reach [] (.folder sources.files))).isOk
  if isThere then .ok () else .error (.noFile path)

end Sources

end FrameCourier
