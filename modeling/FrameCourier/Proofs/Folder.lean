import FrameCourier.Folder
import FrameCourier.Proofs.Text.Utf8
import Mathlib.Data.List.Nodup

/-!
# Names in a folder

A folder has every name once.  Writing a file keeps that, replaces what the name stood for, and
leaves everything under other names as it was and where it was.  Names that are texts are told
apart by their bytes as well, and read from them.
-/

namespace FrameCourier

namespace Listing

variable {listing : Listing} {name other : String} {node : Node}

/-- The names in a folder. -/
def names (listing : Listing) : List String := listing.map Prod.fst

/-- Every name stands for one thing. -/
def Distinct (listing : Listing) : Prop := listing.names.Nodup

theorem Distinct.eq_of_name_eq (distinct : listing.Distinct) {entry same : String × Node}
    (inside : entry ∈ listing) (insideToo : same ∈ listing) (names : entry.1 = same.1) :
    entry = same :=
  List.inj_on_of_nodup_map distinct inside insideToo names

theorem Distinct.perm {others : Listing} (distinct : listing.Distinct)
    (perm : listing.Perm others) : others.Distinct :=
  (perm.map Prod.fst).nodup_iff.mp distinct

theorem lookup_eq_none_iff_not_mem_names :
    listing.lookup name = none ↔ name ∉ listing.names := by
  induction listing with
  | nil => simp [names]
  | cons entry rest ih =>
    rw [List.lookup_cons]
    by_cases same : name = entry.1
    · simp [names, same]
    · have apart : (name == entry.1) = false := by simpa using same
      simp only [apart, ih, names, List.map_cons, List.mem_cons, same, false_or]

theorem mem_of_lookup_eq_some (found : listing.lookup name = some node) :
    (name, node) ∈ listing := by
  induction listing with
  | nil => cases found
  | cons entry rest ih =>
    rw [List.lookup_cons] at found
    by_cases same : name = entry.1
    · have equal : (name == entry.1) = true := by simpa using same
      rw [equal] at found
      cases found
      rw [same]
      exact List.mem_cons_self
    · have apart : (name == entry.1) = false := by simpa using same
      rw [apart] at found
      exact List.mem_cons_of_mem _ (ih found)

theorem Distinct.lookup_of_mem (distinct : listing.Distinct) (inside : (name, node) ∈ listing) :
    listing.lookup name = some node := by
  cases found : listing.lookup name with
  | none =>
    refine absurd ?_ (lookup_eq_none_iff_not_mem_names.mp found)
    exact List.mem_map_of_mem inside
  | some other =>
    have same := distinct.eq_of_name_eq inside (mem_of_lookup_eq_some found) rfl
    cases same
    rfl

/-- Under a new name a node is put last. -/
theorem put_of_not_mem (fresh : name ∉ listing.names) (node : Node) :
    put name node listing = listing ++ [(name, node)] := by
  induction listing with
  | nil => rfl
  | cons entry rest ih =>
    simp only [names, List.map_cons, List.mem_cons, not_or] at fresh
    have apart : ¬ entry.1 = name := fun same => fresh.1 same.symm
    rw [put, if_neg apart, ih fresh.2]
    rfl

theorem names_put_of_mem (taken : name ∈ listing.names) (node : Node) :
    (put name node listing).names = listing.names := by
  induction listing with
  | nil => cases taken
  | cons entry rest ih =>
    unfold put
    split
    · next same => simp [names, same]
    · next apart =>
      have later : name ∈ names rest := by
        simp only [names, List.map_cons, List.mem_cons] at taken
        exact taken.resolve_left fun same => apart same.symm
      simp only [names, List.map_cons] at ih ⊢
      rw [ih later]

theorem Distinct.put (distinct : listing.Distinct) (name : String) (node : Node) :
    (put name node listing).Distinct := by
  by_cases taken : name ∈ listing.names
  · rw [Distinct, names_put_of_mem taken]
    exact distinct
  · rw [put_of_not_mem taken, Distinct, names, List.map_append]
    exact distinct.append (List.nodup_singleton _) (by simpa using taken)

/-- What is kept without regard to a name is the same after something was put there. -/
theorem filter_put {keep : String → Bool} (left : keep name = false) (node : Node)
    (listing : Listing) :
    (put name node listing).filter (fun entry => keep entry.1) =
      listing.filter fun entry => keep entry.1 := by
  induction listing with
  | nil => simp [Listing.put, left]
  | cons entry rest ih =>
    unfold Listing.put
    split
    · next same => simp [same, left]
    · simp only [List.filter_cons, ih]

/-- A file that is written stands under its name. -/
theorem write_eq_ok {content : Bytes} {written : Listing}
    (success : listing.write name content = .ok written) :
    written = listing.put name (.file content) := by
  unfold write at success
  split at success
  · cases success
  · exact (Except.ok.inj success).symm

/-- A file is written unless its name stands for a folder. -/
theorem write_of_not_folder (noFolder : ∀ inner, listing.lookup name ≠ some (.folder inner))
    (content : Bytes) : listing.write name content = .ok (listing.put name (.file content)) := by
  unfold write
  split
  · next inner found => exact absurd found (noFolder inner)
  · rfl

theorem not_folder_of_write_eq_ok {content : Bytes} {written : Listing}
    (success : listing.write name content = .ok written) (inner : Listing) :
    listing.lookup name ≠ some (.folder inner) := by
  intro found
  rw [write, found] at success
  cases success

end Listing

/-! ## What the system lists -/

namespace Directory

variable {directory : Directory}

/-- Every listed name stands for one thing. -/
def Distinct (directory : Directory) : Prop := (directory.map Prod.fst).Nodup

theorem Distinct.perm {others : Directory} (distinct : directory.Distinct)
    (perm : directory.Perm others) : others.Distinct :=
  (perm.map Prod.fst).nodup_iff.mp distinct

theorem Distinct.filter (distinct : directory.Distinct) (keep : Bytes × Node → Bool) :
    Distinct (List.filter keep directory) :=
  distinct.sublist (List.filter_sublist.map _)

theorem Distinct.eq_of_name_eq (distinct : directory.Distinct) {entry same : Bytes × Node}
    (inside : entry ∈ directory) (insideToo : same ∈ directory) (names : entry.1 = same.1) :
    entry = same :=
  List.inj_on_of_nodup_map distinct inside insideToo names

end Directory

namespace Listing

variable {listing : Listing}

theorem Distinct.directory (distinct : listing.Distinct) : listing.directory.Distinct := by
  have names : listing.directory.map Prod.fst = listing.names.map Bytes.ofText := by
    simp [Listing.directory, Listing.names]
  rw [Directory.Distinct, names]
  exact distinct.map fun _ _ => Bytes.ofText_inj.mp

/-- What is listed under some names is what the folder has under these names. -/
theorem filter_directory (selected : String → Bool) (listing : Listing) :
    listing.directory.filter (fun entry => selected (Text.lossy entry.1)) =
      directory (listing.filter fun entry => selected entry.1) := by
  rw [directory, List.filter_map]
  congr 1
  refine List.filter_congr fun entry _ => ?_
  simp only [Function.comp_apply, Bytes.lossy_ofText]

end Listing

end FrameCourier
