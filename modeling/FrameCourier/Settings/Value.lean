import FrameCourier.Number.Binary

/-!
# Settings

A setting is a scalar, a list or a table of named settings; what was read from a source
remembers its origin.  Sources are laid over each other.  A table laid over a table changes
the members that it names and keeps the others, and anything else replaces what it is laid
over.
-/

namespace FrameCourier

/-- A setting without parts. -/
inductive Scalar where
  | null
  | boolean (value : Bool)
  | integer (value : Int)
  | real (value : Number.Double)
  | text (value : String)
  deriving DecidableEq, Repr

/-- A setting, and its origin if it was read from a source. -/
inductive Setting where
  | scalar (value : Scalar) (origin : Option String)
  | list (items : List Setting) (origin : Option String)
  | table (members : List (String × Setting)) (origin : Option String)
  deriving Repr

namespace Setting

/-- A step from a setting to one inside it. -/
inductive Step where
  | name (key : String)
  | index (position : Int)
  deriving DecidableEq, Repr

/-- The setting that stands for none. -/
def null : Setting := .scalar .null none

/-- The items of a list; nothing else has any. -/
def items : Setting → List Setting
  | .list items _ => items
  | _ => []

/-- Changes the member of a name, which is null if there is none. -/
def changeMember (key : String) (change : Setting → Setting) :
    List (String × Setting) → List (String × Setting)
  | [] => [(key, change null)]
  | (name, setting) :: rest =>
    if name = key then (name, change setting) :: rest
    else (name, setting) :: changeMember key change rest

/-- Changes the setting under a name.  What is no table becomes one. -/
def changeAt (key : String) (change : Setting → Setting) : Setting → Setting
  | .table members origin => .table (changeMember key change members) origin
  | _ => .table (changeMember key change []) none

/-- Changes the item of a list.  A list that is too short grows: at its end, or at its start
for a position that counts from the end.  What is no list becomes one. -/
def changeItem (position : Int) (change : Setting → Setting) (setting : Setting) : Setting :=
  let items := setting.items
  let missing := if 0 ≤ position then position.toNat + 1 - items.length
    else position.natAbs - items.length
  let fill := List.replicate missing null
  let items := if 0 ≤ position then items ++ fill else fill ++ items
  let place := if 0 ≤ position then position.toNat else items.length - position.natAbs
  .list (items.modify place change) none

/-- Changes the setting that a path leads to. -/
def changePath : List Step → (Setting → Setting) → Setting → Setting
  | [], change => change
  | .name key :: rest, change => changeAt key (changePath rest change)
  | .index position :: rest, change => changeItem position (changePath rest change)

/-- A table as it is, and an empty one in the place of anything else. -/
def asTable : Setting → Setting
  | .table members origin => .table members origin
  | _ => .table [] none

mutual

/-- What is left of `under` when `setting` is laid over it. -/
def laidOver (under : Setting) : Setting → Setting
  | .table members _ => membersLaidOver under.asTable members
  | setting => setting

/-- What is left of `under` when the members of a table are laid over it. -/
def membersLaidOver (under : Setting) : List (String × Setting) → Setting
  | [] => under
  | (key, setting) :: rest =>
    membersLaidOver (under.changeAt key fun under => laidOver under setting) rest

end

end Setting

end FrameCourier
