import FrameCourier.Processing
import FrameCourier.Proofs.Archive.Loading

/-!
# Storing records

Records are stored one after the other, each over what its name stood for.  What a name stands
for in the end is the last record of that name; everything under other names stays.
-/

namespace FrameCourier.Processing

open Archive

variable {path : String} {before after : Listing} {records : List Record}

/-- A folder that records were put into, each over what its name stood for. -/
def putAll (before : Listing) (records : List Record) : Listing :=
  records.foldl (fun listing record => listing.put record.fileName (.file record.toBytes)) before

/-- Records are stored one after the other if no folder has one of their names. -/
theorem store_of_not_folder
    (noFolder : ∀ record ∈ records, ∀ inner, before.lookup record.fileName ≠ some (.folder inner)) :
    store path before records = (putAll before records, .ok ()) := by
  induction records generalizing before with
  | nil => rfl
  | cons record records ih =>
    have written : Archive.write path (some before) record =
        .ok (before.put record.fileName (.file record.toBytes)) :=
      write_eq_ok_iff.mpr
        ⟨before, rfl, Listing.write_of_not_folder (noFolder record List.mem_cons_self) _⟩
    simp only [store, written]
    refine ih fun other inside inner => ?_
    by_cases same : other.fileName = record.fileName
    · rw [same, Listing.lookup_put_self]
      rintro ⟨⟩
    · rw [Listing.lookup_put_of_ne same]
      exact noFolder other (List.mem_cons_of_mem _ inside) inner

theorem putAll_of_fresh (names : (records.map Record.fileName).Nodup)
    (fresh : ∀ record ∈ records, record.fileName ∉ before.names) :
    putAll before records = before ++ records.map Record.stored := by
  induction records generalizing before with
  | nil => simp [putAll]
  | cons record records ih =>
    rw [List.map_cons, List.nodup_cons] at names
    have freshAfter : ∀ other ∈ records,
        other.fileName ∉ Listing.names (before ++ [record.stored]) := by
      intro other inside taken
      rw [Listing.names, List.map_append, List.mem_append] at taken
      rcases taken with old | same
      · exact fresh other (List.mem_cons_of_mem _ inside) old
      · refine names.1 (List.mem_map.mpr ⟨other, inside, ?_⟩)
        simpa [Record.stored] using same
    have later := ih names.2 freshAfter
    rw [List.append_assoc, List.singleton_append] at later
    rw [putAll, List.foldl_cons, Listing.put_of_not_mem (fresh record List.mem_cons_self)]
    exact later

/-- Records of new names are added to a folder in their order. -/
theorem store_of_fresh (names : (records.map Record.fileName).Nodup)
    (fresh : ∀ record ∈ records, record.fileName ∉ before.names) :
    store path before records = (before ++ records.map Record.stored, .ok ()) := by
  rw [store_of_not_folder, putAll_of_fresh names fresh]
  intro record inside inner
  rw [Listing.lookup_eq_none_iff_not_mem_names.mpr (fresh record inside)]
  rintro ⟨⟩

theorem store_eq_ok (success : store path before records = (after, .ok ())) :
    after = putAll before records := by
  induction records generalizing before with
  | nil => exact (Prod.mk.inj success).1.symm
  | cons record records ih =>
    simp only [store] at success
    split at success
    · cases (Prod.mk.inj success).2
    · next listing written =>
      obtain ⟨here, same, placed⟩ := write_eq_ok_iff.mp written
      cases same
      rw [Listing.write_eq_ok placed] at success
      exact ih success

theorem distinct_putAll (distinct : before.Distinct) (records : List Record) :
    (putAll before records).Distinct := by
  induction records generalizing before with
  | nil => exact distinct
  | cons record records ih => exact ih (distinct.put _ _)

/-- What is kept without regard to the names of the records is as before. -/
theorem filter_putAll {keep : String → Bool}
    (left : ∀ record ∈ records, keep record.fileName = false) :
    (putAll before records).filter (fun entry => keep entry.1) =
      before.filter fun entry => keep entry.1 := by
  induction records generalizing before with
  | nil => rfl
  | cons record records ih =>
    rw [← Listing.filter_put (left record List.mem_cons_self) (.file record.toBytes) before]
    exact ih fun other inside => left other (List.mem_cons_of_mem _ inside)

theorem lookup_putAll_of_not_mem {name : String} (other : name ∉ records.map Record.fileName) :
    (putAll before records).lookup name = before.lookup name := by
  induction records generalizing before with
  | nil => rfl
  | cons record records ih =>
    rw [List.map_cons, List.mem_cons, not_or] at other
    rw [← Listing.lookup_put_of_ne other.1 (.file record.toBytes) before]
    exact ih other.2

/-- The name of a record stands for the last record of that name. -/
theorem exists_lookup_putAll {name : String} (written : name ∈ records.map Record.fileName) :
    ∃ last ∈ records, last.fileName = name ∧
      (putAll before records).lookup name = some (.file last.toBytes) := by
  induction records generalizing before with
  | nil => cases written
  | cons record records ih =>
    by_cases later : name ∈ records.map Record.fileName
    · obtain ⟨last, inside, same, found⟩ :=
        @ih (before.put record.fileName (.file record.toBytes)) later
      exact ⟨last, List.mem_cons_of_mem _ inside, same, found⟩
    · obtain rfl : name = record.fileName :=
        (List.mem_cons.mp (List.map_cons ▸ written)).resolve_right later
      refine ⟨record, List.mem_cons_self, rfl, ?_⟩
      rw [← Listing.lookup_put_self record.fileName (.file record.toBytes) before]
      exact lookup_putAll_of_not_mem later

end FrameCourier.Processing
