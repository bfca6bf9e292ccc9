import FrameCourier.Number.Written
import FrameCourier.Settings.Fault

/-!
# Reading settings

A setting is converted to what is wanted of it where that makes sense: texts to truth values
and numbers, truth values to numbers and back, numbers to texts.  Settings that belong
together are a group, which is read from a table by their names, or from a list in their
order.
-/

namespace FrameCourier.Setting

/-- What a reader makes of a setting. -/
abbrev Reader (α : Type) := Setting → Except SettingFault α

/-- Refuses a value that is not converted. -/
def refused {α : Type} (found : FoundValue) (wanted : Wanted) (origin : Option String) :
    Except SettingFault α :=
  .error ⟨[], .unconvertible found wanted origin⟩

/-- The truth value that a text in lower case stands for. -/
def truthOf? (text : String) : Option Bool :=
  if ["true", "on", "yes"].contains text then some true
  else if ["false", "off", "no"].contains text then some false
  else none

/-- A truth value: numbers other than zero are true. -/
def boolean : Reader Bool
  | .scalar (.boolean value) _ => .ok value
  | .scalar (.integer value) _ => .ok (value ≠ 0)
  | .scalar (.real value) _ => .ok (!value.isZero)
  | .scalar (.text text) origin =>
    let text := Text.lowercase text
    if text = "1" then .ok true
    else if text = "0" then .ok false
    else
      match truthOf? text with
      | some value => .ok value
      | none => refused (.text text) .boolean origin
  | .scalar .null origin => refused .nothing .boolean origin
  | .list _ origin => refused .list .boolean origin
  | .table _ origin => refused .table .boolean origin

/-- A natural number that fits 64 bits: other numbers are rounded, halves away from zero. -/
def natural : Reader Nat
  | .scalar (.boolean value) _ => .ok value.toNat
  | .scalar (.integer value) origin =>
    if 0 ≤ value then .ok value.toNat else refused (.integer value) .natural origin
  | .scalar (.real value) _ => .ok (value.round.toIntWithin 0 Number.greatestWord64).toNat
  | .scalar (.text text) origin =>
    match truthOf? (Text.lowercase text) with
    | some value => .ok value.toNat
    | none =>
      match Number.naturalWithin? Number.greatestWord64 text.toList with
      | some value => .ok value
      | none => refused (.text text) .integer origin
  | .scalar .null origin => refused .nothing .integer origin
  | .list _ origin => refused .list .integer origin
  | .table _ origin => refused .table .integer origin

/-- A natural number of at most `bits` bits. -/
def naturalOfBits (bits : Nat) : Reader Nat := fun setting => do
  let value ← natural setting
  if value < Number.twoTo bits then return value else throw ⟨[], .tooLarge value bits⟩

/-- A number; texts are read as the nearest one. -/
def real : Reader Number.Double
  | .scalar (.boolean value) _ => .ok (Number.Binary.ofInt _ value.toNat)
  | .scalar (.integer value) _ => .ok (Number.Binary.ofInt _ value)
  | .scalar (.real value) _ => .ok value
  | .scalar (.text text) origin =>
    match truthOf? (Text.lowercase text) with
    | some value => .ok (Number.Binary.ofInt _ value.toNat)
    | none =>
      match Number.Binary.read? Number.Format.double text with
      | some value => .ok value
      | none => refused (.text text) .real origin
  | .scalar .null origin => refused .nothing .real origin
  | .list _ origin => refused .list .real origin
  | .table _ origin => refused .table .real origin

/-- A text; numbers are written with their shortest digits, and never with an exponent. -/
def text : Reader String
  | .scalar (.boolean value) _ => .ok (toString value)
  | .scalar (.integer value) _ => .ok (toString value)
  | .scalar (.real value) _ => .ok (value.text .message)
  | .scalar (.text value) _ => .ok value
  | .scalar .null origin => refused .nothing .text origin
  | .list _ origin => refused .list .text origin
  | .table _ origin => refused .table .text origin

/-- A setting that null leaves out. -/
def optional {α : Type} (read : Reader α) : Reader (Option α)
  | .scalar .null _ => .ok none
  | setting => (read setting).map some

/-- One of the names of a choice; a table with one member stands for its name. -/
def choice {α : Type} (kind : String) (names : List (String × α)) : Reader α := fun setting =>
  let named := fun name : String =>
    match names.lookup name with
    | some value => .ok value
    | none => .error ⟨[], .unknownChoice kind name⟩
  match setting with
  | .scalar (.text name) _ => named name
  | .table [(name, _)] _ => named name
  | _ => .error ⟨[], .notChoice kind⟩

/-- Settings that belong together, in their order. -/
structure Group where
  name : String
  members : List String

namespace Group

/-- What a setting holds for a member of a group, if it holds anything. -/
def member? {α : Type} (group : Group) (setting : Setting) (name : String) (read : Reader α) :
    Except SettingFault (Option α) :=
  match setting with
  | .table members _ =>
    match members.lookup name with
    | some member => ((read member).mapError (·.within (.name name))).map some
    | none => .ok none
  | .list items _ =>
    let position := group.members.idxOf name
    match items[position]? with
    | some item => ((read item).mapError (·.within (.index position))).map some
    | none => .ok none
  | .scalar value _ => .error ⟨[], .notGroup (.ofScalar value) group.name⟩

/-- What a setting has to hold for a member of a group. -/
def require {α : Type} (group : Group) (setting : Setting) (name : String) :
    Option α → Except SettingFault α
  | some value => .ok value
  | none =>
    match setting with
    | .list .. => .error ⟨[], .tooFew (group.members.idxOf name) group.name group.members.length⟩
    | _ => .error ⟨[.name name], .missing⟩

end Group

end FrameCourier.Setting
