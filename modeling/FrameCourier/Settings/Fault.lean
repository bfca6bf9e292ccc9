import FrameCourier.Number.Decimal
import FrameCourier.Settings.Value
import FrameCourier.Text.Lowercase
import FrameCourier.Text.Quoted

/-!
# What is wrong with a setting

A setting that cannot be used is named by its key, from the outermost table to itself, and
by its origin if the value itself is at fault.
-/

namespace FrameCourier

/-- A name from a fixed vocabulary that is not in it. -/
inductive NameFault where
  | deployment (given : String)
  /-- The service knows two levels. -/
  | serviceLevel (given : String)
  | level (given : String)
  deriving DecidableEq, Repr

def NameFault.message : NameFault → String
  | deployment given =>
    Text.lowercase given ++ " is not a supported environment. Use either `local` or `production`."
  | serviceLevel given =>
    Text.lowercase given ++
      " is not a supported minimum log level. Use either `debug` or `info`."
  | level given =>
    given ++ " is not a supported minimum log level. " ++
      "Use one of trace, debug, info, warn or error."

/-- What a setting turns out to be. -/
inductive FoundValue where
  | boolean (value : Bool)
  | integer (value : Int)
  | natural (value : Nat)
  | real (value : Number.Double)
  | text (value : String)
  | nothing
  | list
  | table
  deriving DecidableEq, Repr

namespace FoundValue

def ofScalar : Scalar → FoundValue
  | .null => nothing
  | .boolean value => boolean value
  | .integer value => integer value
  | .real value => real value
  | .text value => text value

def ofSetting : Setting → FoundValue
  | .scalar value _ => ofScalar value
  | .list .. => list
  | .table .. => table

/-- The words for a value where a scalar is wanted. -/
def words : FoundValue → String
  | boolean value => "boolean `" ++ toString value ++ "`"
  | integer value => "64-bit integer `" ++ toString value ++ "`"
  | natural value => "64-bit unsigned integer `" ++ toString value ++ "`"
  | real value => "floating point `" ++ value.text .message ++ "`"
  | text value => "string " ++ Text.quoted value
  | nothing => "unit value"
  | list => "sequence"
  | table => "map"

/-- Numbers where a group is wanted: as in other messages, but always with a point. -/
def groupNumber : Number.Layout := { Number.Layout.message with keepsFraction := true }

/-- The words for a value where a group of settings is wanted. -/
def groupWords : FoundValue → String
  | integer value => "integer `" ++ toString value ++ "`"
  | natural value => "integer `" ++ toString value ++ "`"
  | real value => "floating point `" ++ value.text groupNumber ++ "`"
  | other => other.words

end FoundValue

/-- What a scalar is wanted to be. -/
inductive Wanted where
  | boolean
  | integer
  /-- An integer that is not negative. -/
  | natural
  | real
  | text
  deriving DecidableEq, Repr

def Wanted.words : Wanted → String
  | boolean => "a boolean"
  | integer => "an integer"
  | natural => "an unsigned 64 bit or less integer"
  | real => "a floating point"
  | text => "a string"

/-- Why a setting cannot be used. -/
inductive SettingCause where
  | unconvertible (found : FoundValue) (wanted : Wanted) (origin : Option String)
  /-- A natural number that needs more than `bits` bits. -/
  | tooLarge (value bits : Nat)
  | missing
  /-- A value in the place of a group of settings. -/
  | notGroup (found : FoundValue) (group : String)
  /-- A list that is too short to be read as a group of settings. -/
  | tooFew (count : Nat) (group : String) (wanted : Nat)
  | unknownChoice (choice : String) (name : String)
  | notChoice (choice : String)
  | name (fault : NameFault)
  deriving DecidableEq, Repr

/-- What is wrong, and the key of the setting that it is wrong with. -/
structure SettingFault where
  key : List Setting.Step
  cause : SettingCause
  deriving DecidableEq, Repr

/-- A key as messages show it: names with points between them, positions in brackets. -/
def keyText : List Setting.Step → String
  | [] => ""
  | .name key :: rest =>
    let inner := keyText rest
    key ++ (if inner.isEmpty || inner.toList.head? = some '[' then "" else ".") ++ inner
  | .index position :: rest => "[" ++ toString position ++ "]" ++ keyText rest

namespace SettingFault

/-- The fault as seen from one step further out. -/
def within (step : Setting.Step) (fault : SettingFault) : SettingFault :=
  ⟨step :: fault.key, fault.cause⟩

/-- The words for a cause, and the origin of the value. -/
def causeWords : SettingCause → String × Option String
  | .unconvertible found wanted origin =>
    ("invalid type: " ++ found.words ++ ", expected " ++ wanted.words, origin)
  | .tooLarge value bits =>
    ("invalid type: " ++ (FoundValue.natural value).words ++ ", expected an unsigned " ++
      toString bits ++ " bit integer", none)
  | .missing => ("missing configuration field", none)
  | .notGroup found group =>
    ("invalid type: " ++ found.groupWords ++ ", expected struct " ++ group, none)
  | .tooFew count group wanted =>
    ("invalid length " ++ toString count ++ ", expected struct " ++ group ++ " with " ++
      toString wanted ++ (if wanted = 1 then " element" else " elements"), none)
  | .unknownChoice choice name =>
    ("enum " ++ choice ++ " does not have variant constructor " ++ name, none)
  | .notChoice choice =>
    ("value of enum " ++ choice ++
      " should be represented by either string or table with exactly one key", none)
  | .name fault => (fault.message, none)

def message (fault : SettingFault) : String :=
  let key := keyText fault.key
  if fault.cause = .missing then "missing configuration field " ++ Text.quoted key
  else
    let (words, origin) := causeWords fault.cause
    words ++ (if fault.key.isEmpty then "" else " for key `" ++ key ++ "`") ++
      (match origin with
        | some origin => " in " ++ origin
        | none => "")

end SettingFault

end FrameCourier
