import FrameCourier.Document.Shape
import Mathlib.Data.List.Induction
import Mathlib.Data.List.Nodup
import Mathlib.Data.String.Basic

/-!
# Members by name

Settled members are the last ones of their names, in the order of the names.  A record is
read from the values of its fields alone, so it does not matter in which order they come.
-/

namespace FrameCourier.Document.Members

variable {α : Type}

/-- The names of the members. -/
def names (members : Members) : List String := members.map (·.1)

/-- Members in the order of their names, none of which is repeated. -/
def Ordered (members : Members) : Prop := members.names.Pairwise (· < ·)

/-! ## Values by name -/

@[simp] theorem value?_nil (name : String) : value? [] name = none := by
  rw [value?, List.lookup_nil]

theorem value?_cons (other : String) (kept : Document) (rest : Members) (name : String) :
    value? ((other, kept) :: rest) name = if name = other then some kept else rest.value? name := by
  by_cases same : name = other
  · simp [value?, same]
  · have differs : (name == other) = false := by simpa using same
    simp only [value?, List.lookup_cons, differs, same, if_false]

theorem mem_of_value? {members : Members} {name : String} {document : Document}
    (found : members.value? name = some document) : (name, document) ∈ members := by
  induction members with
  | nil => cases found
  | cons member members ih =>
    rw [value?_cons] at found
    split at found
    · next same =>
      cases found
      simp [same]
    · exact List.mem_cons_of_mem _ (ih found)

theorem value?_eq_none_iff {members : Members} {name : String} :
    members.value? name = none ↔ name ∉ members.names := by
  induction members with
  | nil => simp [names]
  | cons member members ih =>
    rw [value?_cons]
    split
    · next same => simp [names, same]
    · next other =>
      rw [ih]
      simp [names, other]

/-- The only member of its name is the one that is found. -/
theorem value?_of_mem {members : Members} (distinct : members.names.Nodup)
    {member : String × Document} (inside : member ∈ members) :
    members.value? member.1 = some member.2 := by
  induction members with
  | nil => cases inside
  | cons first members ih =>
    obtain ⟨fresh, distinct⟩ := List.nodup_cons.mp distinct
    rw [value?_cons]
    rcases List.mem_cons.mp inside with rfl | behind
    · simp
    · have other : member.1 ≠ first.1 := by
        intro same
        have known : member.1 ∈ names members := List.mem_map_of_mem behind
        rw [same] at known
        exact fresh known
      rw [if_neg other]
      exact ih distinct behind

theorem value?_reverse {members : Members} (distinct : members.names.Nodup) (name : String) :
    value? members.reverse name = members.value? name := by
  have reversed : (names members.reverse).Nodup := by
    rw [names, List.map_reverse]
    exact List.nodup_reverse.mpr distinct
  cases found : members.value? name with
  | none =>
    rw [value?_eq_none_iff] at found ⊢
    simpa [names] using found
  | some document =>
    exact value?_of_mem reversed (List.mem_reverse.mpr (mem_of_value? found))

theorem value?_without (members : Members) (tag name : String) :
    value? (members.without tag) name = if name = tag then none else members.value? name := by
  induction members with
  | nil => simp [without]
  | cons member members ih =>
    rw [value?_cons]
    by_cases dropped : member.1 = tag
    · rw [without, List.filter_cons_of_neg (by simp [dropped])]
      refine ih.trans ?_
      split
      · rfl
      · next other => rw [if_neg (by rwa [dropped])]
    · rw [without, List.filter_cons_of_pos (by simp [dropped]), value?_cons]
      by_cases here : name = member.1
      · rw [if_pos here, if_pos here, if_neg (by rwa [here])]
      · rw [if_neg here, if_neg here]
        exact ih

/-! ## Settled members -/

theorem value?_put (name : String) (document : Document) (members : Members) (other : String) :
    value? (put name document members) other =
      if other = name then some document else members.value? other := by
  induction members with
  | nil => simp [put, value?_cons]
  | cons member members ih =>
    unfold put
    split
    · next same =>
      rw [value?_cons, value?_cons, ← same]
      split <;> rfl
    split
    · rw [value?_cons]
    · next different notBefore =>
      rw [value?_cons, value?_cons, ih]
      by_cases here : other = member.1
      · have notName : other ≠ name := by
          rw [here]
          exact Ne.symm different
        rw [if_pos here, if_neg notName, if_pos here]
      · rw [if_neg here, if_neg here]

theorem settled_append (members : Members) (name : String) (document : Document) :
    settled (members ++ [(name, document)]) = put name document (settled members) := by
  simp [settled]

/-- Of every name the last member counts. -/
theorem value?_settled (members : Members) (name : String) :
    value? (settled members) name = value? members.reverse name := by
  induction members using List.reverseRecOn with
  | nil => rfl
  | append_singleton members member ih =>
    rw [settled_append, value?_put, List.reverse_append, ih]
    exact (value?_cons member.1 member.2 members.reverse name).symm

theorem value?_settled_of_nodup {members : Members} (distinct : members.names.Nodup)
    (name : String) : value? (settled members) name = members.value? name := by
  rw [value?_settled, value?_reverse distinct]

theorem mem_put {name : String} {document : Document} {members : Members}
    {member : String × Document} (inside : member ∈ put name document members) :
    member = (name, document) ∨ member ∈ members := by
  induction members with
  | nil => exact .inl (List.mem_singleton.mp inside)
  | cons first members ih =>
    unfold put at inside
    split at inside
    · rcases List.mem_cons.mp inside with here | behind
      · exact .inl here
      · exact .inr (List.mem_cons_of_mem first behind)
    split at inside
    · exact List.mem_cons.mp inside
    · rcases List.mem_cons.mp inside with rfl | behind
      · exact .inr List.mem_cons_self
      · rcases ih behind with new | old
        · exact .inl new
        · exact .inr (List.mem_cons_of_mem first old)

/-- Settling brings no new members. -/
theorem mem_of_mem_settled {members : Members} {member : String × Document}
    (inside : member ∈ settled members) : member ∈ members := by
  induction members using List.reverseRecOn with
  | nil => cases inside
  | append_singleton members last ih =>
    rw [settled_append] at inside
    rcases mem_put inside with rfl | old
    · simp
    · exact List.mem_append_left [last] (ih old)

theorem ordered_put {members : Members} (ordered : members.Ordered) (name : String)
    (document : Document) : (put name document members).Ordered := by
  induction members with
  | nil => exact List.pairwise_singleton _ _
  | cons first members ih =>
    obtain ⟨least, rest⟩ := List.pairwise_cons.mp ordered
    unfold put
    split
    · next same => exact List.pairwise_cons.mpr ⟨same ▸ least, rest⟩
    split
    · next different before =>
      refine List.pairwise_cons.mpr ⟨fun other inside => ?_, ordered⟩
      rcases List.mem_cons.mp inside with rfl | behind
      · exact before
      · exact lt_trans before (least other behind)
    · next different notBefore =>
      refine List.pairwise_cons.mpr ⟨fun other inside => ?_, ih rest⟩
      obtain ⟨member, present, rfl⟩ := List.mem_map.mp inside
      rcases mem_put present with rfl | old
      · exact lt_of_le_of_ne (not_lt.mp notBefore) (Ne.symm different)
      · exact least member.1 (List.mem_map_of_mem old)

theorem ordered_settled (members : Members) : (settled members).Ordered := by
  induction members using List.reverseRecOn with
  | nil => exact List.Pairwise.nil
  | append_singleton members last ih =>
    rw [settled_append]
    exact ordered_put ih last.1 last.2

theorem Ordered.nodup {members : Members} (ordered : members.Ordered) : members.names.Nodup :=
  List.Pairwise.imp (fun before => ne_of_lt before) ordered

/-! ## Records -/

/-- A member that a record with the given fields can have. -/
def Fitting (fields : List Field) (closed : Bool) (member : String × Document) : Prop :=
  match fields.find? fun field => field.name == member.1 with
  | none => closed = false
  | some field => field.check member.2 = .ok ()

/-- Members are in order if they fit and no name is repeated. -/
theorem check_eq_ok {fields : List Field} {closed : Bool} {seen : List String} {members : Members}
    (fitting : ∀ member ∈ members, Fitting fields closed member) (distinct : members.names.Nodup)
    (fresh : ∀ name ∈ names members, name ∉ seen) : check fields closed seen members = .ok () := by
  induction members generalizing seen with
  | nil => rfl
  | cons member members ih =>
    obtain ⟨new, distinct⟩ := List.nodup_cons.mp distinct
    have fits := fitting member (by simp)
    have restFits : ∀ other ∈ members, Fitting fields closed other :=
      fun other inside => fitting other (by simp [inside])
    have restFresh : ∀ name ∈ names members, name ∉ seen :=
      fun name inside => fresh name (List.mem_cons_of_mem member.1 inside)
    unfold Fitting at fits
    cases known : fields.find? fun field => field.name == member.1 with
    | none =>
      have passedOver : closed = false := by rwa [known] at fits
      subst passedOver
      simp only [check, known, Bool.false_eq_true, if_false]
      exact ih restFits distinct restFresh
    | some field =>
      have passes : field.check member.2 = .ok () := by rwa [known] at fits
      have notSeen : seen.contains member.1 = false := by
        simpa using fresh member.1 (by simp [names])
      simp only [check, known, notSeen, Bool.false_eq_true, if_false, passes]
      refine ih restFits distinct fun name inside => ?_
      simp only [List.mem_cons, not_or]
      refine ⟨?_, restFresh name inside⟩
      rintro rfl
      exact new inside

/-- A member of a known field whose value is refused. -/
def Refused (fields : List Field) (mismatch : Mismatch) (member : String × Document) : Prop :=
  ∃ field, (fields.find? fun field => field.name == member.1) = some field ∧
    field.check member.2 = .error mismatch

/-- If one member is refused and all others fit, it is the one that is reported. -/
theorem check_eq_error {fields : List Field} {closed : Bool} {seen : List String}
    {members : Members} {bad : String × Document} {mismatch : Mismatch} (inside : bad ∈ members)
    (refused : Refused fields mismatch bad)
    (others : ∀ member ∈ members, member.1 ≠ bad.1 → Fitting fields closed member)
    (distinct : members.names.Nodup) (fresh : ∀ name ∈ names members, name ∉ seen) :
    check fields closed seen members = .error mismatch := by
  induction members generalizing seen with
  | nil => cases inside
  | cons member members ih =>
    obtain ⟨new, distinct⟩ := List.nodup_cons.mp distinct
    have notSeen : seen.contains member.1 = false := by
      simpa using fresh member.1 (by simp [names])
    rcases List.mem_cons.mp inside with rfl | behind
    · obtain ⟨field, known, refuses⟩ := refused
      simp only [check, known, notSeen, Bool.false_eq_true, if_false, refuses]
    · have other : member.1 ≠ bad.1 := by
        intro same
        have known : bad.1 ∈ names members := List.mem_map_of_mem behind
        rw [← same] at known
        exact new known
      have fits := others member (by simp) other
      have restOthers : ∀ other ∈ members, other.1 ≠ bad.1 → Fitting fields closed other :=
        fun other inside => others other (by simp [inside])
      have restFresh : ∀ name ∈ names members, name ∉ seen :=
        fun name inside => fresh name (List.mem_cons_of_mem member.1 inside)
      unfold Fitting at fits
      cases known : fields.find? fun field => field.name == member.1 with
      | none =>
        have passedOver : closed = false := by rwa [known] at fits
        subst passedOver
        simp only [check, known, Bool.false_eq_true, if_false]
        exact ih behind restOthers distinct restFresh
      | some field =>
        have passes : field.check member.2 = .ok () := by rwa [known] at fits
        simp only [check, known, notSeen, Bool.false_eq_true, if_false, passes]
        refine ih behind restOthers distinct fun name inside => ?_
        simp only [List.mem_cons, not_or]
        refine ⟨?_, restFresh name inside⟩
        rintro rfl
        exact new inside

theorem nodup_without {members : Members} (distinct : members.names.Nodup) (tag : String) :
    (names (members.without tag)).Nodup :=
  List.Nodup.sublist (List.Sublist.map _ List.filter_sublist) distinct

/-- Settled members pass the check if all that were written do. -/
theorem check_settled {fields : List Field} {closed : Bool} {members : Members}
    (fitting : ∀ member ∈ members, Fitting fields closed member) :
    check fields closed [] (settled members) = .ok () :=
  check_eq_ok (fun member inside => fitting member (mem_of_mem_settled inside))
    (ordered_settled members).nodup fun _ _ => List.not_mem_nil

/-- The tag of a record is not checked with its fields. -/
theorem check_settled_without {fields : List Field} {closed : Bool} {members : Members}
    {tag : String}
    (fitting : ∀ member ∈ members, member.1 = tag ∨ Fitting fields closed member) :
    check fields closed [] (without (settled members) tag) = .ok () := by
  refine check_eq_ok (fun member inside => ?_) (nodup_without (ordered_settled members).nodup tag)
    fun _ _ => List.not_mem_nil
  obtain ⟨present, notTag⟩ := List.mem_filter.mp inside
  exact (fitting member (mem_of_mem_settled present)).resolve_left (by simpa using notTag)

theorem mem_settled {members : Members} (distinct : members.names.Nodup)
    {member : String × Document} (inside : member ∈ members) : member ∈ settled members := by
  have found := value?_settled_of_nodup distinct member.1
  rw [value?_of_mem distinct inside] at found
  exact mem_of_value? found

/-- Of settled members the one is reported that would be before. -/
theorem check_settled_error {fields : List Field} {closed : Bool} {members : Members}
    (distinct : members.names.Nodup) {bad : String × Document} {mismatch : Mismatch}
    (inside : bad ∈ members) (refused : Refused fields mismatch bad)
    (others : ∀ member ∈ members, member.1 ≠ bad.1 → Fitting fields closed member) :
    check fields closed [] (settled members) = .error mismatch :=
  check_eq_error (mem_settled distinct inside) refused
    (fun member present => others member (mem_of_mem_settled present))
    (ordered_settled members).nodup fun _ _ => List.not_mem_nil

theorem check_settled_without_error {fields : List Field} {closed : Bool} {members : Members}
    (distinct : members.names.Nodup) {bad : String × Document} {mismatch : Mismatch} {tag : String}
    (inside : bad ∈ members) (notTag : bad.1 ≠ tag) (refused : Refused fields mismatch bad)
    (others : ∀ member ∈ members, member.1 ≠ bad.1 →
      member.1 = tag ∨ Fitting fields closed member) :
    check fields closed [] (without (settled members) tag) = .error mismatch := by
  have stays : bad ∈ without (settled members) tag :=
    List.mem_filter.mpr ⟨mem_settled distinct inside, by simpa using notTag⟩
  refine check_eq_error stays refused (fun member present other => ?_)
    (nodup_without (ordered_settled members).nodup tag) fun _ _ => List.not_mem_nil
  obtain ⟨known, otherThanTag⟩ := List.mem_filter.mp present
  exact (others member (mem_of_mem_settled known) other).resolve_left (by simpa using otherThanTag)

end FrameCourier.Document.Members
