import FrameCourier.Detector.Network
import FrameCourier.Proofs.Number.Edges
import Mathlib.Data.List.Nodup

/-!
# Candidates of a table

What the rows of a table are, which class is best in a row, and in which order the candidates
come: the most confident first, and equally confident ones in the order of their rows.
-/

namespace FrameCourier.Network

open Number Binary

/-! ## The best class -/

/-- A class is best with a score that no score exceeds, the first such class.  What is no number
exceeds nothing and is not exceeded, so the first class stays if its score is no number, and no
other one becomes best with such a score. -/
structure IsBest (scores : List Single) (classNumber : Nat) (score : Single) : Prop where
  here : scores[classNumber]? = some score
  greatest : ∀ other ∈ scores, score.lt other = false
  first : ∀ earlier < classNumber, ∀ other, scores[earlier]? = some other →
    other.lt score = true ∨ (0 < earlier ∧ other.isNotANumber = true)

variable {scores : List Single} {classNumber classNumber' : Nat} {score score' : Single}

namespace IsBest

theorem lt_length (best : IsBest scores classNumber score) : classNumber < scores.length :=
  (List.getElem?_eq_some_iff.mp best.here).1

/-- A best score that is no number is the first one. -/
theorem eq_zero_of_isNotANumber (best : IsBest scores classNumber score)
    (noNumber : score.isNotANumber = true) : classNumber = 0 := by
  by_contra later
  have inside := Nat.lt_of_le_of_lt (Nat.zero_le _) best.lt_length
  have start : scores[0]? = some scores[0] := List.getElem?_eq_getElem inside
  rcases best.first 0 (Nat.pos_of_ne_zero later) _ start with less | ⟨no, -⟩
  · rw [(lt_iff.mp less).2.1] at noNumber
    cases noNumber
  · exact absurd no (Nat.lt_irrefl 0)

/-- A first score that is no number is the best one. -/
theorem eq_of_first (best : IsBest scores classNumber score) {other : Single}
    (start : scores[0]? = some other) (noNumber : other.isNotANumber = true) : score = other := by
  rcases Nat.eq_zero_or_pos classNumber with rfl | later
  · rw [best.here, Option.some_inj] at start
    exact start
  · rcases best.first 0 later other start with less | ⟨no, -⟩
    · rw [(lt_iff.mp less).1] at noNumber
      cases noNumber
    · exact absurd no (Nat.lt_irrefl 0)

theorem le_of_isBest (best : IsBest scores classNumber score)
    (best' : IsBest scores classNumber' score') : classNumber ≤ classNumber' := by
  by_contra later
  rw [Nat.not_le] at later
  have notLess := best'.greatest score (List.mem_of_getElem? best.here)
  rcases best.first _ later _ best'.here with less | ⟨notFirst, noNumber⟩
  · rw [less] at notLess
    cases notLess
  · exact absurd (best'.eq_zero_of_isNotANumber noNumber) (Nat.ne_of_gt notFirst)

/-- One class is best, with its score. -/
theorem unique (best : IsBest scores classNumber score)
    (best' : IsBest scores classNumber' score') : classNumber = classNumber' ∧ score = score' := by
  have same := Nat.le_antisymm (best.le_of_isBest best') (best'.le_of_isBest best)
  have here := best.here
  rw [same, best'.here, Option.some_inj] at here
  exact ⟨same, here.symm⟩

/-- A score that exceeds the best one is the best one up to there. -/
theorem append_of_lt (best : IsBest scores classNumber score) {next : Single}
    (exceeded : score.lt next = true) : IsBest (scores ++ [next]) scores.length next := by
  obtain ⟨number, numberNext, less⟩ := lt_iff.mp exceeded
  have notGreater : ∀ other ∈ scores, other.isNotANumber = false → other.key ≤ score.key := by
    intro other mem numberOther
    have notLess := best.greatest other mem
    rw [← Bool.not_eq_true, lt_iff] at notLess
    exact Int.not_lt.mp fun greater => notLess ⟨number, numberOther, greater⟩
  refine ⟨by simp, fun other mem => ?_, fun earlier before other place => ?_⟩
  · rw [← Bool.not_eq_true, lt_iff]
    rintro ⟨-, numberOther, greater⟩
    rcases List.mem_append.mp mem with mem | mem
    · have small := notGreater other mem numberOther
      omega
    · rw [List.mem_singleton.mp mem] at greater
      exact absurd greater (Int.lt_irrefl _)
  · rw [List.getElem?_append_left before] at place
    cases numberOther : other.isNotANumber with
    | false =>
      have small := notGreater other (List.mem_of_getElem? place) numberOther
      exact .inl (lt_iff.mpr ⟨numberOther, numberNext, by omega⟩)
    | true =>
      refine .inr ⟨Nat.pos_of_ne_zero ?_, rfl⟩
      rintro rfl
      rw [best.eq_of_first place numberOther, numberOther] at number
      cases number

/-- A score that does not exceed the best one leaves it. -/
theorem append_of_not_lt (best : IsBest scores classNumber score) {next : Single}
    (notExceeded : score.lt next = false) : IsBest (scores ++ [next]) classNumber score := by
  refine ⟨?_, fun other mem => ?_, fun earlier before other place => ?_⟩
  · rw [List.getElem?_append_left best.lt_length]
    exact best.here
  · rcases List.mem_append.mp mem with mem | mem
    · exact best.greatest other mem
    · rw [List.mem_singleton.mp mem]
      exact notExceeded
  · rw [List.getElem?_append_left (Nat.lt_trans before best.lt_length)] at place
    exact best.first earlier before other place

end IsBest

/-- The comparison goes on with the scores that are left. -/
theorem isBest_foldl (rest : List Single) :
    ∀ {done : List Single} {best : Nat × Single}, IsBest done best.1 best.2 →
      IsBest (done ++ rest)
        ((rest.zipIdx done.length).foldl
          (fun best score => if best.2.lt score.1 then (score.2, score.1) else best) best).1
        ((rest.zipIdx done.length).foldl
          (fun best score => if best.2.lt score.1 then (score.2, score.1) else best) best).2 := by
  induction rest with
  | nil =>
    intro done best isBest
    simpa using isBest
  | cons next rest ih =>
    intro done best isBest
    have length : (done ++ [next]).length = done.length + 1 := by simp
    rw [List.zipIdx_cons, List.foldl_cons, List.append_cons, ← length]
    apply ih
    split
    · next exceeded => exact isBest.append_of_lt exceeded
    · next notExceeded => exact isBest.append_of_not_lt (Bool.eq_false_iff.mpr notExceeded)

/-- Of any scores one is best. -/
theorem isBest_bestClass {best : Nat × Single} (found : bestClass scores = some best) :
    IsBest scores best.1 best.2 := by
  cases scores with
  | nil => cases found
  | cons first rest =>
    have start : IsBest [first] 0 first := by
      refine ⟨rfl, fun other mem => ?_, fun earlier before => absurd before (Nat.not_lt_zero _)⟩
      rw [List.mem_singleton.mp mem, ← Bool.not_eq_true, lt_iff]
      exact fun less => Int.lt_irrefl _ less.2.2
    cases found
    exact @isBest_foldl rest [first] (0, first) start

theorem bestClass_eq_some_iff :
    bestClass scores = some (classNumber, score) ↔ IsBest scores classNumber score := by
  refine ⟨isBest_bestClass, fun best => ?_⟩
  cases found : bestClass scores with
  | none =>
    cases scores with
    | nil => cases best.here
    | cons first rest => cases found
  | some other =>
    obtain ⟨sameClass, sameScore⟩ := (isBest_bestClass found).unique best
    rw [← sameClass, ← sameScore]

/-! ## The rows of a table -/

/-- A row of a table: in each column the first value along the third axis. -/
inductive Table.IsRow (table : Table) (number : Nat) (row : List Single) : Prop where
  | of {rows columns depth : Nat} (shape : table.shape = [rows, columns, depth])
    (inside : number < rows) (length : row.length = columns)
    (values : ∀ column < columns,
      row[column]? = table.values[(number * columns + column) * depth]?)

theorem Table.IsRow.unique {table : Table} {number : Nat} {row row' : List Single}
    (isRow : table.IsRow number row) (isRow' : table.IsRow number row') : row = row' := by
  obtain ⟨shape, -, length, values⟩ := isRow
  obtain ⟨shape', -, length', values'⟩ := isRow'
  rw [shape, List.cons.injEq, List.cons.injEq, List.cons.injEq] at shape'
  obtain ⟨rfl, rfl, rfl, -⟩ := shape'
  refine List.ext_getElem? fun column => ?_
  rcases Nat.lt_or_ge column row.length with before | behind
  · rw [values column (length ▸ before), values' column (length ▸ before)]
  · rw [List.getElem?_eq_none behind, List.getElem?_eq_none (by omega)]

/-- A table that is not refused has as many values as its extents say. -/
theorem size_of_checked {table : Table} (checked : table.checked = .ok table) :
    table.values.size = table.shape.foldl (fun size extent => size * extent) 1 := by
  unfold Table.checked at checked
  dsimp only at checked
  split at checked
  · cases checked
  split at checked
  · cases checked
  split at checked
  · cases checked
  · omega

/-- Nothing is left out of a range where something stands in each place. -/
theorem filterMap_range_of_full {f : Nat → Option Single} {size : Nat}
    (full : ∀ place < size, ∃ value, f place = some value) :
    ((List.range size).filterMap f).length = size ∧
      ∀ place < size, ((List.range size).filterMap f)[place]? = f place := by
  induction size with
  | zero => exact ⟨rfl, fun place inside => absurd inside (Nat.not_lt_zero place)⟩
  | succ size ih =>
    obtain ⟨length, values⟩ := ih fun place inside => full place (Nat.lt_succ_of_lt inside)
    obtain ⟨value, last⟩ := full size (Nat.lt_succ_self size)
    have step : (List.range (size + 1)).filterMap f = (List.range size).filterMap f ++ [value] := by
      rw [List.range_succ, List.filterMap_append, List.filterMap_cons_some last, List.filterMap_nil]
    rw [step, List.length_append, length]
    refine ⟨rfl, fun place inside => ?_⟩
    rcases Nat.lt_succ_iff_lt_or_eq.mp inside with earlier | rfl
    · rw [List.getElem?_append_left (length.symm ▸ earlier), values place earlier]
    · rw [List.getElem?_append_right (Nat.le_of_eq length), length, Nat.sub_self, last]
      rfl

section

variable {table : Table} {rows columns depth number : Nat}

/-- No value of a row is missing. -/
theorem place_lt_of_checked (checked : table.checked = .ok table)
    (shape : table.shape = [rows, columns, depth]) (deep : 0 < depth) (inside : number < rows)
    {column : Nat} (before : column < columns) :
    (number * columns + column) * depth < table.values.size := by
  have size : table.values.size = columns * rows * depth := by
    rw [size_of_checked checked, shape, Nat.mul_comm columns]
    simp
  rw [size]
  exact Nat.mul_lt_mul_of_pos_right (Picture.Canvas.place_lt before inside) deep

/-- The rows of a table are as the table's extents and values say. -/
theorem isRow_iff {row : List Single} (checked : table.checked = .ok table)
    (shape : table.shape = [rows, columns, depth]) (deep : 0 < depth) :
    table.IsRow number row ↔ table.rows[number]? = some row := by
  have whole : ∀ number < rows, table.IsRow number ((List.range columns).filterMap fun column =>
      table.values[(number * columns + column) * depth]?) := by
    intro number inside
    have full : ∀ column < columns, ∃ value,
        table.values[(number * columns + column) * depth]? = some value := fun column before =>
      ⟨_, Array.getElem?_eq_getElem (place_lt_of_checked checked shape deep inside before)⟩
    obtain ⟨length, values⟩ := filterMap_range_of_full full
    exact ⟨shape, inside, length, values⟩
  rw [Table.rows, shape]
  simp only [List.getElem?_map, Option.map_eq_some_iff]
  constructor
  · intro isRow
    have inside : number < rows := by
      obtain ⟨shape', inside, -, -⟩ := isRow
      rw [shape, List.cons.injEq] at shape'
      rw [shape'.1]
      exact inside
    exact ⟨number, List.getElem?_range inside, (whole number inside).unique isRow⟩
  · rintro ⟨same, found, rfl⟩
    obtain ⟨inside, rfl⟩ := List.getElem?_eq_some_iff.mp found
    rw [List.length_range] at inside
    rw [List.getElem_range]
    exact whole number inside

end

/-! ## The candidate of a row -/

/-- A row gives a candidate: its best class and score, unless the score is below `least`, and the
box around its center, scaled. -/
inductive IsCandidateOf (least scaleX scaleY : Single) : List Single → Candidate → Prop where
  | of {x y width height score : Single} {scores : List Single} {classNumber : Nat}
    (best : IsBest scores classNumber score) (notBelow : score.lt least = false) :
    IsCandidateOf least scaleX scaleY (x :: y :: width :: height :: scores)
      ⟨classNumber, score, x * scaleX - width * scaleX / Binary.ofInt _ 2,
        y * scaleY - height * scaleY / Binary.ofInt _ 2,
        x * scaleX + width * scaleX / Binary.ofInt _ 2,
        y * scaleY + height * scaleY / Binary.ofInt _ 2⟩

theorem candidate?_eq_some_iff {least scaleX scaleY : Single} {row : List Single}
    {candidate : Candidate} :
    candidate? least scaleX scaleY row = some candidate ↔
      IsCandidateOf least scaleX scaleY row candidate := by
  constructor
  · intro found
    unfold candidate? at found
    split at found
    · next x y width height scores =>
      split at found
      · cases found
      · next classNumber score best =>
        split at found
        · cases found
        · next notBelow =>
          cases found
          exact .of (bestClass_eq_some_iff.mp best) (Bool.eq_false_iff.mpr notBelow)
    · cases found
  · rintro ⟨best, notBelow⟩
    simp [candidate?, bestClass_eq_some_iff.mpr best, notBelow]

theorem IsCandidateOf.unique {least scaleX scaleY : Single} {row : List Single}
    {candidate candidate' : Candidate} (first : IsCandidateOf least scaleX scaleY row candidate)
    (second : IsCandidateOf least scaleX scaleY row candidate') : candidate = candidate' := by
  rw [← candidate?_eq_some_iff] at first second
  exact Option.some_inj.mp (first.symm.trans second)

/-! ## The order of the candidates -/

/-- The first of two candidates of rows is more confident, or as confident and in an earlier
row. -/
def Precedes (a b : Candidate × Nat) : Prop :=
  b.1.confidence.totalKey < a.1.confidence.totalKey ∨
    (a.1.confidence.totalKey = b.1.confidence.totalKey ∧ a.2 < b.2)

/-- The candidates of a table with the numbers of their rows, in their order. -/
structure IsRanking (least : Single) (width height : Nat) (table : Table)
    (ranked : List (Candidate × Nat)) : Prop where
  mem_iff : ∀ candidate number, (candidate, number) ∈ ranked ↔
    ∃ row, table.IsRow number row ∧
      IsCandidateOf least (Binary.ofInt _ width / inputExtent) (Binary.ofInt _ height / inputExtent)
        row candidate
  ordered : ranked.Pairwise Precedes

/-- The candidates of rows, with the numbers of the rows and in their order. -/
def entries (least : Single) (width height : Nat) (table : Table) : List (Candidate × Nat) :=
  table.rows.zipIdx.filterMap fun row =>
    (candidate? least (Binary.ofInt _ width / inputExtent) (Binary.ofInt _ height / inputExtent)
      row.1).map (·, row.2)

/-- The candidates in their order, with the numbers of their rows. -/
def ranking (least : Single) (width height : Nat) (table : Table) : List (Candidate × Nat) :=
  (entries least width height table).mergeSort fun a b => Candidate.le a.1 b.1

section

variable {least : Single} {width height : Nat} {table : Table}

theorem map_fst_ranking :
    (ranking least width height table).map Prod.fst = candidates least width height table := by
  have rows : (entries least width height table).map Prod.fst = table.rows.filterMap
      (candidate? least (Binary.ofInt _ width / inputExtent)
        (Binary.ofInt _ height / inputExtent)) := by
    conv_rhs => rw [← List.zipIdx_map_fst 0 table.rows, List.filterMap_map]
    rw [entries, List.map_filterMap]
    congr 1
    funext row
    simp [Function.comp_def]
  rw [ranking, candidates, ← rows]
  exact List.map_mergeSort fun _ _ _ _ => rfl

theorem mem_entries_iff {candidate : Candidate} {number : Nat} :
    (candidate, number) ∈ entries least width height table ↔
      ∃ row, table.rows[number]? = some row ∧
        candidate? least (Binary.ofInt _ width / inputExtent) (Binary.ofInt _ height / inputExtent)
          row = some candidate := by
  simp only [entries, List.mem_filterMap, List.mem_zipIdx_iff_getElem?, Option.map_eq_some_iff]
  constructor
  · rintro ⟨⟨row, _⟩, place, _, found, ⟨⟩⟩
    exact ⟨row, place, found⟩
  · rintro ⟨row, place, found⟩
    exact ⟨(row, number), place, candidate, found, rfl⟩

/-- Before sorting, the candidates are in the order of their rows. -/
theorem pairwise_entries : (entries least width height table).Pairwise fun a b => a.2 < b.2 := by
  have rows : table.rows.zipIdx.Pairwise fun a b => a.2 < b.2 := by
    rw [← List.pairwise_map (f := Prod.snd) (R := (· < ·)), List.zipIdx_map_snd]
    exact List.pairwise_lt_range'
  refine rows.filterMap _ fun a b before c fromA d fromB => ?_
  obtain ⟨_, -, rfl⟩ := Option.map_eq_some_iff.mp fromA
  obtain ⟨_, -, rfl⟩ := Option.map_eq_some_iff.mp fromB
  exact before

theorem le_trans (a b c : Candidate × Nat) :
    Candidate.le a.1 b.1 = true → Candidate.le b.1 c.1 = true → Candidate.le a.1 c.1 = true := by
  simp only [Candidate.le, decide_eq_true_eq]
  omega

theorem le_total (a b : Candidate × Nat) :
    (Candidate.le a.1 b.1 || Candidate.le b.1 a.1) = true := by
  simp only [Candidate.le, Bool.or_eq_true, decide_eq_true_eq]
  omega

/-- Sorting leaves equally confident candidates as they are. -/
theorem filter_ranking (key : Int) :
    (ranking least width height table).filter (fun a => a.1.confidence.totalKey = key) =
      (entries least width height table).filter fun a => a.1.confidence.totalKey = key := by
  have alike : ((entries least width height table).filter fun a =>
      a.1.confidence.totalKey = key).Pairwise fun a b => Candidate.le a.1 b.1 := by
    refine List.pairwise_of_forall_mem_list fun a left b right => ?_
    have keyA := (List.mem_filter.mp left).2
    have keyB := (List.mem_filter.mp right).2
    simp only [decide_eq_true_eq] at keyA keyB
    simp [Candidate.le, keyA, keyB]
  have sublist := (List.sublist_mergeSort le_trans le_total alike List.filter_sublist).filter
    fun a => a.1.confidence.totalKey = key
  rw [List.filter_filter] at sublist
  simp only [Bool.and_self] at sublist
  refine (sublist.eq_of_length ?_).symm
  exact ((List.mergeSort_perm _ _).filter _).length_eq.symm

/-- Sorting by confidence leaves equally confident candidates in the order of their rows. -/
theorem pairwise_ranking : (ranking least width height table).Pairwise Precedes := by
  have sorted : (ranking least width height table).Pairwise fun a b => Candidate.le a.1 b.1 :=
    List.pairwise_mergeSort le_trans le_total _
  rw [List.pairwise_iff_forall_sublist] at sorted ⊢
  intro a b both
  have notLess := sorted both
  simp only [Candidate.le, decide_eq_true_eq] at notLess
  rcases Int.lt_or_eq_of_le notLess with less | same
  · exact .inl less
  · refine .inr ⟨same.symm, ?_⟩
    have alike := both.filter fun c => c.1.confidence.totalKey = a.1.confidence.totalKey
    rw [filter_ranking] at alike
    simp only [List.filter_cons, same, decide_true, if_true, List.filter_nil] at alike
    exact List.pairwise_iff_forall_sublist.mp pairwise_entries (alike.trans List.filter_sublist)

theorem isRanking_ranking {rows columns depth : Nat} (checked : table.checked = .ok table)
    (shape : table.shape = [rows, columns, depth]) (deep : 0 < depth) :
    IsRanking least width height table (ranking least width height table) := by
  refine ⟨fun candidate number => ?_, pairwise_ranking⟩
  rw [ranking, List.mem_mergeSort, mem_entries_iff]
  simp only [isRow_iff checked shape deep, candidate?_eq_some_iff]

end

namespace IsRanking

variable {least : Single} {width height : Nat} {table : Table}
  {ranked other : List (Candidate × Nat)}

theorem nodup (ranking : IsRanking least width height table ranked) : ranked.Nodup := by
  refine ranking.ordered.imp ?_
  rintro a _ precedes rfl
  rcases precedes with less | ⟨-, less⟩
  · exact Int.lt_irrefl _ less
  · exact Nat.lt_irrefl _ less

/-- There is one ranking. -/
theorem unique (first : IsRanking least width height table ranked)
    (second : IsRanking least width height table other) : ranked = other := by
  have antisymm : ∀ a b, a ∈ ranked → b ∈ other → Precedes a b → Precedes b a → a = b := by
    intro a b _ _ before after
    unfold Precedes at before after
    omega
  refine List.Perm.eq_of_pairwise antisymm first.ordered second.ordered ?_
  rw [List.perm_ext_iff_of_nodup first.nodup second.nodup]
  rintro ⟨candidate, number⟩
  rw [first.mem_iff, second.mem_iff]

end IsRanking

end FrameCourier.Network
