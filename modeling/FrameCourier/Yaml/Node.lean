import FrameCourier.Text.Quoted

/-!
# Nodes

What a document holds: scalars, lists of nodes, and tables from nodes to nodes.  Nodes are
equal if their parts are: the order of a table's entries counts, and a real number is
compared as it is written.
-/

namespace FrameCourier.Yaml

inductive Node where
  | null
  | boolean (value : Bool)
  | integer (value : Int)
  /-- A number as it is written. -/
  | real (written : String)
  | text (value : String)
  | list (items : List Node)
  | table (entries : List (Node × Node))
  /-- A node that is not what its tag says. -/
  | invalid
  deriving Repr

namespace Node

/-! ## Equality -/

mutual

def isEqual : Node → Node → Bool
  | null, null => true
  | boolean a, boolean b => a = b
  | integer a, integer b => a = b
  | real a, real b => a = b
  | text a, text b => a = b
  | list a, list b => areItemsEqual a b
  | table a, table b => areEntriesEqual a b
  | invalid, invalid => true
  | _, _ => false

def areItemsEqual : List Node → List Node → Bool
  | [], [] => true
  | a :: as, b :: bs => isEqual a b && areItemsEqual as bs
  | _, _ => false

def areEntriesEqual : List (Node × Node) → List (Node × Node) → Bool
  | [], [] => true
  | (key, value) :: as, (otherKey, otherValue) :: bs =>
    isEqual key otherKey && isEqual value otherValue && areEntriesEqual as bs
  | _, _ => false

end

mutual

theorem isEqual_refl : ∀ a : Node, isEqual a a = true
  | null => by simp [isEqual]
  | boolean _ => by simp [isEqual]
  | integer _ => by simp [isEqual]
  | real _ => by simp [isEqual]
  | text _ => by simp [isEqual]
  | list as => by simp [isEqual, areItemsEqual_refl as]
  | table as => by simp [isEqual, areEntriesEqual_refl as]
  | invalid => by simp [isEqual]

theorem areItemsEqual_refl : ∀ as : List Node, areItemsEqual as as = true
  | [] => by simp [areItemsEqual]
  | a :: as => by simp [areItemsEqual, isEqual_refl a, areItemsEqual_refl as]

theorem areEntriesEqual_refl : ∀ as : List (Node × Node), areEntriesEqual as as = true
  | [] => by simp [areEntriesEqual]
  | (key, value) :: as => by
    simp [areEntriesEqual, isEqual_refl key, isEqual_refl value, areEntriesEqual_refl as]

end

mutual

theorem eq_of_isEqual : ∀ {a b : Node}, isEqual a b = true → a = b
  | null, b => by cases b <;> simp [isEqual]
  | boolean _, b => by cases b <;> simp [isEqual]
  | integer _, b => by cases b <;> simp [isEqual]
  | real _, b => by cases b <;> simp [isEqual]
  | text _, b => by cases b <;> simp [isEqual]
  | list as, b => by
    cases b <;> simp only [isEqual, Bool.false_eq_true, false_implies]
    intro same
    rw [eq_of_areItemsEqual same]
  | table as, b => by
    cases b <;> simp only [isEqual, Bool.false_eq_true, false_implies]
    intro same
    rw [eq_of_areEntriesEqual same]
  | invalid, b => by cases b <;> simp [isEqual]

theorem eq_of_areItemsEqual : ∀ {as bs : List Node}, areItemsEqual as bs = true → as = bs
  | [], [] => fun _ => rfl
  | [], _ :: _ => by simp [areItemsEqual]
  | _ :: _, [] => by simp [areItemsEqual]
  | a :: as, b :: bs => by
    simp only [areItemsEqual, Bool.and_eq_true]
    intro ⟨first, rest⟩
    rw [eq_of_isEqual first, eq_of_areItemsEqual rest]

theorem eq_of_areEntriesEqual :
    ∀ {as bs : List (Node × Node)}, areEntriesEqual as bs = true → as = bs
  | [], [] => fun _ => rfl
  | [], _ :: _ => by simp [areEntriesEqual]
  | _ :: _, [] => by simp [areEntriesEqual]
  | (key, value) :: as, (otherKey, otherValue) :: bs => by
    simp only [areEntriesEqual, Bool.and_eq_true]
    intro ⟨⟨first, second⟩, rest⟩
    rw [eq_of_isEqual first, eq_of_isEqual second, eq_of_areEntriesEqual rest]

end

instance : DecidableEq Node := fun a b =>
  if same : isEqual a b = true then .isTrue (eq_of_isEqual same)
  else .isFalse fun equal => same (equal ▸ isEqual_refl a)

/-! ## Nodes in messages -/

mutual

/-- A node as messages show it. -/
def shown : Node → String
  | null => "Null"
  | boolean value => "Boolean(" ++ toString value ++ ")"
  | integer value => "Integer(" ++ toString value ++ ")"
  | real written => "Real(" ++ Text.quoted written ++ ")"
  | text value => "String(" ++ Text.quoted value ++ ")"
  | list items => "Array([" ++ ", ".intercalate (shownItems items) ++ "])"
  | table entries => "Hash(\x7b" ++ ", ".intercalate (shownEntries entries) ++ "\x7d)"
  | invalid => "BadValue"

def shownItems : List Node → List String
  | [] => []
  | item :: rest => shown item :: shownItems rest

def shownEntries : List (Node × Node) → List String
  | [] => []
  | (key, value) :: rest => (shown key ++ ": " ++ shown value) :: shownEntries rest

end

end Node

end FrameCourier.Yaml
