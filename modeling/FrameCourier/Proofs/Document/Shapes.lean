import FrameCourier.Proofs.Document.Members
import FrameCourier.Proofs.Traversal

/-!
# Shapes of settled records

What a record is read as is found by the names of its members, so a settled record is read like
the one that was written, provided that no name is repeated.
-/

namespace FrameCourier.Document

variable {α : Type}

/-! ## Scalars -/

@[simp] theorem asText_text (s : String) : asText (.text s) = .ok s := rfl

theorem asInteger_of_range {low high n : Int} (least : low ≤ n) (greatest : n ≤ high)
    (wanted : String) : asInteger low high wanted (.number (.integer n)) = .ok n := by
  simp [asInteger, least, greatest]

@[simp] theorem asUInt32_toNat (n : UInt32) : asUInt32 (.number (.integer n.toNat)) = .ok n := by
  have greatest : (n.toNat : Int) ≤ Number.greatestWord32 := by
    have bound := n.toNat_lt
    simp only [Number.greatestWord32]
    omega
  simp [asUInt32, asInteger_of_range (Int.natCast_nonneg _) greatest, Except.map]

@[simp] theorem asCount_toNat (n : UInt64) : asCount (.number (.integer n.toNat)) = .ok n := by
  have greatest : (n.toNat : Int) ≤ Number.greatestWord64 := by
    have bound := n.toNat_lt
    simp only [Number.greatestWord64]
    omega
  simp [asCount, asInteger_of_range (Int.natCast_nonneg _) greatest, Except.map]

@[simp] theorem asInt64_toInt (n : Int64) : asInt64 (.number (.integer n.toInt)) = .ok n := by
  have least : Number.leastInt64 ≤ n.toInt := n.le_toInt
  have greatest : n.toInt ≤ Number.greatestInt64 := Int.le_of_lt_add_one n.toInt_lt
  simp [asInt64, asInteger_of_range least greatest, Except.map]

@[simp] theorem asReal_real (x : Number.Double) : asReal (.number (.real x)) = .ok x := rfl

/-- A list is read from the documents of its items. -/
theorem asList_map {shape : Shape α} {written : α → Document} {xs : List α}
    (reads : ∀ x ∈ xs, shape (written x) = .ok x) :
    asList shape (.list (xs.map written)) = .ok xs := by
  show (xs.map written).mapM shape = .ok xs
  rw [List.mapM_map]
  exact (mapM_eq_ok_map reads).trans (congrArg Except.ok (List.map_id' xs))

/-- A list is refused for what some of its items are refused for, and the others for nothing
else. -/
theorem asList_map_error {shape : Shape α} {β : Type} {written : β → Document} {xs : List β}
    {mismatch : Mismatch}
    (reads : ∀ x ∈ xs, (∃ y, shape (written x) = .ok y) ∨ shape (written x) = .error mismatch)
    (refused : ∃ x ∈ xs, shape (written x) = .error mismatch) :
    asList shape (.list (xs.map written)) = .error mismatch := by
  show (xs.map written).mapM shape = .error mismatch
  induction xs with
  | nil =>
    obtain ⟨x, inside, -⟩ := refused
    cases inside
  | cons x xs ih =>
    rw [List.map_cons, List.mapM_cons]
    rcases reads x (by simp) with ⟨y, read⟩ | refusal
    · have behind : ∃ x ∈ xs, shape (written x) = .error mismatch := by
        obtain ⟨bad, inside, refusal⟩ := refused
        rcases List.mem_cons.mp inside with rfl | inside
        · rw [read] at refusal
          cases refusal
        · exact ⟨bad, inside, refusal⟩
      rw [read, ih (fun z inside => reads z (by simp [inside])) behind]
      rfl
    · rw [refusal]
      rfl

/-! ## Settled documents -/

theorem settleItems_eq_map (xs : List Document) : settleItems xs = xs.map settle := by
  induction xs with
  | nil => rfl
  | cons x xs ih => simp [settleItems, ih]

theorem settleMembers_eq_map (members : Members) :
    settleMembers members = members.map fun member => (member.1, settle member.2) := by
  induction members with
  | nil => rfl
  | cons member members ih => simp [settleMembers, ih]

namespace Members

theorem names_settleMembers (members : Members) : names (settleMembers members) = members.names := by
  simp [names, settleMembers_eq_map, Function.comp_def]

theorem value?_settleMembers (members : Members) (name : String) :
    value? (settleMembers members) name = (members.value? name).map settle := by
  induction members with
  | nil => rfl
  | cons member members ih =>
    rw [settleMembers, value?_cons, value?_cons, ih]
    split <;> rfl

/-- The members that an object is settled to. -/
def final (members : Members) : Members := settled (settleMembers members)

theorem value?_final {members : Members} (distinct : members.names.Nodup) (name : String) :
    value? members.final name = (members.value? name).map settle := by
  rw [final, value?_settled_of_nodup (by rwa [names_settleMembers]), value?_settleMembers]

/-- The tag of a record is no field of it; all other members are found as before. -/
theorem value?_final_without {members : Members} (distinct : members.names.Nodup) {tag name : String}
    (notTag : name ≠ tag) :
    value? (members.final.without tag) name = (members.value? name).map settle := by
  rw [value?_without, if_neg notTag, value?_final distinct]

/-- A member that fits once it is settled. -/
def FitsSettled (fields : List Field) (closed : Bool) (member : String × Document) : Prop :=
  Fitting fields closed (member.1, settle member.2)

theorem check_final {fields : List Field} {closed : Bool} {members : Members}
    (fitting : ∀ member ∈ members, FitsSettled fields closed member) :
    check fields closed [] members.final = .ok () := by
  refine check_settled fun member inside => ?_
  rw [settleMembers_eq_map] at inside
  obtain ⟨written, present, rfl⟩ := List.mem_map.mp inside
  exact fitting written present

theorem check_final_without {fields : List Field} {closed : Bool} {members : Members}
    {tag : String}
    (fitting : ∀ member ∈ members, member.1 = tag ∨ FitsSettled fields closed member) :
    check fields closed [] (members.final.without tag) = .ok () := by
  refine check_settled_without fun member inside => ?_
  rw [settleMembers_eq_map] at inside
  obtain ⟨written, present, rfl⟩ := List.mem_map.mp inside
  exact fitting written present

/-- A member that is refused once it is settled. -/
def RefusedSettled (fields : List Field) (mismatch : Mismatch) (member : String × Document) : Prop :=
  Refused fields mismatch (member.1, settle member.2)

theorem check_final_error {fields : List Field} {closed : Bool} {members : Members}
    (distinct : members.names.Nodup) {bad : String × Document} {mismatch : Mismatch}
    (inside : bad ∈ members) (refused : RefusedSettled fields mismatch bad)
    (others : ∀ member ∈ members, member.1 ≠ bad.1 → FitsSettled fields closed member) :
    check fields closed [] members.final = .error mismatch := by
  have settledInside : (bad.1, settle bad.2) ∈ settleMembers members := by
    rw [settleMembers_eq_map]
    exact List.mem_map_of_mem inside
  refine check_settled_error (by rwa [names_settleMembers]) settledInside refused
    fun member present other => ?_
  rw [settleMembers_eq_map] at present
  obtain ⟨written, known, rfl⟩ := List.mem_map.mp present
  exact others written known other

theorem check_final_without_error {fields : List Field} {closed : Bool} {members : Members}
    (distinct : members.names.Nodup) {bad : String × Document} {mismatch : Mismatch} {tag : String}
    (inside : bad ∈ members) (notTag : bad.1 ≠ tag) (refused : RefusedSettled fields mismatch bad)
    (others : ∀ member ∈ members, member.1 ≠ bad.1 →
      member.1 = tag ∨ FitsSettled fields closed member) :
    check fields closed [] (members.final.without tag) = .error mismatch := by
  have settledInside : (bad.1, settle bad.2) ∈ settleMembers members := by
    rw [settleMembers_eq_map]
    exact List.mem_map_of_mem inside
  refine check_settled_without_error (by rwa [names_settleMembers]) settledInside notTag refused
    fun member present other => ?_
  rw [settleMembers_eq_map] at present
  obtain ⟨written, known, rfl⟩ := List.mem_map.mp present
  exact others written known other

end Members

/-- A tagged record is told apart by the value of its tag. -/
theorem untag_object {union tag : String} {members : Members} (distinct : members.names.Nodup)
    {value : String} (tagged : members.value? tag = some (.text value)) :
    untag union tag (Document.object members).settle =
      .ok (.text value, .members (members.final.without tag)) := by
  have found : Members.value? members.final tag = some (.text value) := by
    rw [Members.value?_final distinct, tagged]
    rfl
  rw [Members.final] at found
  simp only [settle, untag, found]
  rfl

end FrameCourier.Document
