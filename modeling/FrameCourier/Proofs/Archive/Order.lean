import FrameCourier.Archive.Folder
import FrameCourier.Proofs.Folder
import Mathlib.Data.String.Basic

/-!
# The order of an archive

The entries of an archive are its stored frames, by number, then by name as a text, then by the
bytes of the name.  The bytes differ, so only one order does that: the entries are the same
however the system lists the folder.
-/

namespace FrameCourier.Archive

/-! ## Names by their bytes -/

theorem comesFirst_total (a b : Bytes) : (comesFirst a b || comesFirst b a) = true := by
  induction a generalizing b with
  | nil => rfl
  | cons x a ih =>
    cases b with
    | nil => rfl
    | cons y b =>
      by_cases same : x = y
      · simpa [comesFirst, same] using ih b
      · have apart : x.toNat ≠ y.toNat := fun equal => same (UInt8.toNat_inj.mp equal)
        simp only [comesFirst, same, Ne.symm same, if_false, Bool.or_eq_true, decide_eq_true_eq,
          UInt8.lt_iff_toNat_lt]
        omega

theorem comesFirst_trans {a b c : Bytes} (first : comesFirst a b = true)
    (second : comesFirst b c = true) : comesFirst a c = true := by
  induction a generalizing b c with
  | nil => rfl
  | cons x a ih =>
    cases b with
    | nil => cases first
    | cons y b =>
      cases c with
      | nil => cases second
      | cons z c =>
        rw [comesFirst] at first second ⊢
        by_cases same : x = y
        · subst same
          by_cases equal : x = z
          · rw [if_pos equal] at second ⊢
            exact ih (by simpa using first) second
          · rwa [if_neg equal] at second ⊢
        · rw [if_neg same, decide_eq_true_eq] at first
          by_cases equal : y = z
          · rwa [← equal, if_neg same, decide_eq_true_eq]
          · rw [if_neg equal, decide_eq_true_eq] at second
            have below := UInt8.lt_trans first second
            rwa [if_neg (UInt8.ne_of_lt below), decide_eq_true_eq]

theorem eq_of_comesFirst {a b : Bytes} (first : comesFirst a b = true)
    (second : comesFirst b a = true) : a = b := by
  induction a generalizing b with
  | nil =>
    cases b with
    | nil => rfl
    | cons y b => cases second
  | cons x a ih =>
    cases b with
    | nil => cases first
    | cons y b =>
      rw [comesFirst] at first second
      by_cases same : x = y
      · subst same
        rw [ih (by simpa using first) (by simpa using second)]
      · rw [if_neg same, decide_eq_true_eq] at first
        rw [if_neg (Ne.symm same), decide_eq_true_eq] at second
        exact absurd (UInt8.lt_trans first second) (UInt8.lt_irrefl _)

/-! ## Entries -/

namespace Entry

theorem le_iff {a b : Entry} :
    Entry.le a b = true ↔ a.number < b.number ∨ a.number = b.number ∧
      (a.name < b.name ∨ a.name = b.name ∧ comesFirst a.listed b.listed = true) := by
  unfold Entry.le
  by_cases number : a.number = b.number
  · by_cases name : a.name = b.name
    · simp [number, name]
    · simp [number, name]
  · simp [number]

theorem transitive (a b c : Entry) (first : Entry.le a b = true) (second : Entry.le b c = true) :
    Entry.le a c = true := by
  rw [le_iff] at first second ⊢
  rcases first with below | ⟨number, first⟩ <;> rcases second with below' | ⟨number', second⟩
  · exact .inl (UInt32.lt_trans below below')
  · exact .inl (number' ▸ below)
  · exact .inl (number ▸ below')
  refine .inr ⟨number.trans number', ?_⟩
  rcases first with below | ⟨name, first⟩ <;> rcases second with below' | ⟨name', second⟩
  · exact .inl (below.trans below')
  · exact .inl (name' ▸ below)
  · exact .inl (name ▸ below')
  · exact .inr ⟨name.trans name', comesFirst_trans first second⟩

theorem total (a b : Entry) : (Entry.le a b || Entry.le b a) = true := by
  rw [Bool.or_eq_true, le_iff, le_iff]
  rcases Nat.lt_trichotomy a.number.toNat b.number.toNat with below | same | above
  · exact .inl (.inl (UInt32.lt_iff_toNat_lt.mpr below))
  · have number := UInt32.toNat_inj.mp same
    rcases lt_trichotomy a.name b.name with below | name | above
    · exact .inl (.inr ⟨number, .inl below⟩)
    · have listed := comesFirst_total a.listed b.listed
      rw [Bool.or_eq_true] at listed
      exact listed.imp (fun first => .inr ⟨number, .inr ⟨name, first⟩⟩)
        fun first => .inr ⟨number.symm, .inr ⟨name.symm, first⟩⟩
    · exact .inr (.inr ⟨number.symm, .inl above⟩)
  · exact .inr (.inl (UInt32.lt_iff_toNat_lt.mpr above))

theorem listed_eq_of_le_of_le {a b : Entry} (first : Entry.le a b = true)
    (second : Entry.le b a = true) : a.listed = b.listed := by
  rw [le_iff] at first second
  rcases first with below | ⟨number, first⟩ <;> rcases second with below' | ⟨number', second⟩
  · exact absurd (UInt32.lt_trans below below') (UInt32.lt_irrefl _)
  · exact absurd (number' ▸ below) (UInt32.lt_irrefl _)
  · exact absurd (number ▸ below') (UInt32.lt_irrefl _)
  rcases first with below | ⟨name, first⟩ <;> rcases second with below' | ⟨name', second⟩
  · exact absurd (below.trans below') (lt_irrefl _)
  · exact absurd (name' ▸ below) (lt_irrefl _)
  · exact absurd (name ▸ below') (lt_irrefl _)
  · exact eq_of_comesFirst first second

theorem of?_eq_some_iff {listed : Bytes × Node} {stored : Entry} :
    of? listed = some stored ↔
      listed = (stored.listed, stored.node) ∧ stored.name = Text.lossy stored.listed ∧
        frameNumber? stored.name = some stored.number := by
  obtain ⟨number, name, bytes, node⟩ := stored
  obtain ⟨listedBytes, listedNode⟩ := listed
  constructor
  · intro found
    obtain ⟨n, read, equal⟩ := Option.map_eq_some_iff.mp found
    cases equal
    exact ⟨rfl, rfl, read⟩
  · rintro ⟨equal, text, read⟩
    cases equal
    simp only at text read
    rw [of?, ← text, read, Option.map_some]

end Entry

theorem entriesOf_perm_filterMap (directory : Directory) :
    (entriesOf directory).Perm (directory.filterMap Entry.of?) :=
  List.mergeSort_perm _ _

theorem pairwise_entriesOf (directory : Directory) :
    (entriesOf directory).Pairwise fun a b => Entry.le a b = true :=
  List.pairwise_mergeSort Entry.transitive Entry.total _

theorem mem_entriesOf {directory : Directory} {entry : Entry} :
    entry ∈ entriesOf directory ↔
      (entry.listed, entry.node) ∈ directory ∧ entry.name = Text.lossy entry.listed ∧
        frameNumber? entry.name = some entry.number := by
  rw [(entriesOf_perm_filterMap directory).mem_iff, List.mem_filterMap]
  constructor
  · rintro ⟨listed, inside, found⟩
    obtain ⟨rfl, stored⟩ := Entry.of?_eq_some_iff.mp found
    exact ⟨inside, stored⟩
  · rintro ⟨inside, stored⟩
    exact ⟨_, inside, Entry.of?_eq_some_iff.mpr ⟨rfl, stored⟩⟩

/-- In a folder whose names are texts, an entry is listed under its name. -/
theorem listed_of_mem_entriesOf {listing : Listing} {entry : Entry}
    (inside : entry ∈ entriesOf listing.directory) : entry.listed = .ofText entry.name := by
  obtain ⟨found, text, -⟩ := mem_entriesOf.mp inside
  obtain ⟨⟨name, node⟩, -, same⟩ := List.mem_map.mp found
  have listed : Bytes.ofText name = entry.listed := congrArg Prod.fst same
  rw [text, ← listed, Bytes.lossy_ofText]

/-- Entries that are listed under one name are one entry. -/
theorem eq_of_mem_entriesOf {directory : Directory} (distinct : directory.Distinct) {a b : Entry}
    (first : a ∈ entriesOf directory) (second : b ∈ entriesOf directory)
    (names : a.listed = b.listed) : a = b := by
  obtain ⟨inside, text, number⟩ := mem_entriesOf.mp first
  obtain ⟨inside', text', number'⟩ := mem_entriesOf.mp second
  have nodes := distinct.eq_of_name_eq inside inside' names
  obtain ⟨aNumber, aName, aListed, aNode⟩ := a
  obtain ⟨bNumber, bName, bListed, bNode⟩ := b
  cases nodes
  cases text.trans text'.symm
  rw [number'] at number
  cases number
  rfl

theorem nodup_listed_entriesOf {directory : Directory} (distinct : directory.Distinct) :
    ((entriesOf directory).map Entry.listed).Nodup := by
  have names : (directory.filterMap Entry.of?).map Entry.listed =
      (directory.filter fun entry => (frameNumber? (Text.lossy entry.1)).isSome).map Prod.fst := by
    rw [List.map_filterMap, ← List.filterMap_eq_map, List.filterMap_filter]
    refine List.filterMap_congr fun entry _ => ?_
    cases number : frameNumber? (Text.lossy entry.1) <;> simp [Entry.of?, number]
  rw [((entriesOf_perm_filterMap directory).map Entry.listed).nodup_iff, names]
  exact distinct.filter _

/-- In whatever order the stored frames of a folder come, sorted they are its entries. -/
theorem entriesOf_eq_of_perm {directory : Directory} (distinct : directory.Distinct)
    {sorted : List Entry} (perm : sorted.Perm (directory.filterMap Entry.of?))
    (inOrder : sorted.Pairwise fun a b => Entry.le a b = true) : entriesOf directory = sorted := by
  have same := (entriesOf_perm_filterMap directory).trans perm.symm
  refine List.Perm.eq_of_pairwise (fun a b left right before after => ?_)
    (pairwise_entriesOf directory) inOrder same
  exact eq_of_mem_entriesOf distinct left (same.mem_iff.mpr right)
    (Entry.listed_eq_of_le_of_le before after)

/-- The entries do not depend on the order in which the system lists the folder. -/
theorem entriesOf_perm {directory others : Directory} (distinct : directory.Distinct)
    (perm : directory.Perm others) : entriesOf directory = entriesOf others :=
  entriesOf_eq_of_perm distinct
    ((entriesOf_perm_filterMap others).trans (perm.filterMap _).symm) (pairwise_entriesOf others)

/-- The entries of some names are the entries of what is listed under such names. -/
theorem filter_entriesOf {directory : Directory} (distinct : directory.Distinct)
    (selected : String → Bool) :
    (entriesOf directory).filter (fun entry => selected entry.name) =
      entriesOf (directory.filter fun entry => selected (Text.lossy entry.1)) := by
  refine (entriesOf_eq_of_perm (distinct.filter _) ?_ ((pairwise_entriesOf directory).filter _)).symm
  have perm := (entriesOf_perm_filterMap directory).filter fun entry => selected entry.name
  refine perm.trans (List.Perm.of_eq ?_)
  rw [List.filter_filterMap, List.filterMap_filter]
  refine List.filterMap_congr fun entry _ => ?_
  cases number : frameNumber? (Text.lossy entry.1) <;> simp [Entry.of?, number, Option.filter]

end FrameCourier.Archive
