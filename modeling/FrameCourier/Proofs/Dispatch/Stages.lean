import FrameCourier.Proofs.Dispatch.Recording
import FrameCourier.Proofs.Dispatch.Runs
import Mathlib.Data.List.Perm.Subperm

/-!
# The batch under way

At every point of a run all calls of the earlier batches have ended with a report, and all others
that have begun are for frames of one batch.  Nothing is asked of the numbers of the frames, which
need not tell them apart if there are more frames than numbers: batches are told by their places
in the list, and the ends of calls are counted.
-/

namespace FrameCourier.Dispatch

variable {policy : Policy} {size : Nat} {frames : List Frame} {seen : List Occurrence}
  {state : State} {due : List Act} {index : UInt32} {outcome : Outcome}

/-- The number of the frame whose call ends, and what it has come to. -/
def Occurrence.answer? : Occurrence → Option (UInt32 × Outcome)
  | heard (.ended index outcome) => some (index, outcome)
  | _ => none

/-- What the calls that have ended have come to, in the order in which they have. -/
def answered (seen : List Occurrence) : List (UInt32 × Outcome) :=
  seen.filterMap Occurrence.answer?

/-- What comes of a call is a report. -/
def isReport : Outcome → Bool
  | .ok _ => true
  | .error _ => false

/-- The numbers of the frames whose calls have ended with a report. -/
def reported (seen : List Occurrence) : List UInt32 :=
  ((answered seen).filter fun answer => isReport answer.2).map Prod.fst

theorem exists_of_isReport (report : isReport outcome = true) :
    ∃ found, outcome = .ok found := by
  cases outcome with
  | ok found => exact ⟨found, rfl⟩
  | error error => cases report

theorem map_fst_answered (seen : List Occurrence) : (answered seen).map Prod.fst = ended seen := by
  rw [answered, ended, List.map_filterMap]
  refine List.filterMap_congr fun occurrence _ => ?_
  rcases occurrence with act | (⟨index, outcome⟩ | _) <;> rfl

@[simp] theorem answered_did (seen : List Occurrence) (act : Act) :
    answered (seen ++ [.did act]) = answered seen := by
  simp [answered, Occurrence.answer?]

@[simp] theorem answered_ended (seen : List Occurrence) (index : UInt32) (outcome : Outcome) :
    answered (seen ++ [.heard (.ended index outcome)]) = answered seen ++ [(index, outcome)] := by
  simp [answered, Occurrence.answer?]

theorem exists_of_mem_reported (member : index ∈ reported seen) :
    ∃ report, .heard (.ended index (.ok report)) ∈ seen := by
  obtain ⟨⟨same, outcome⟩, inside, rfl⟩ := List.mem_map.mp member
  obtain ⟨answer, report⟩ := List.mem_filter.mp inside
  obtain ⟨found, rfl⟩ := exists_of_isReport report
  obtain ⟨occurrence, here, equal⟩ := List.mem_filterMap.mp answer
  unfold Occurrence.answer? at equal
  split at equal
  · cases equal
    exact ⟨found, here⟩
  · cases equal

/-! ## The calls of a batch that have ended -/

/-- What the calls of a batch that have ended have come to. -/
def noted (calls : List Call) : List (UInt32 × Outcome) :=
  calls.filterMap fun call => call.outcome.map fun outcome => (call.frame.index, outcome)

theorem noted_begun (batch : List Frame) : noted (batch.map fun frame => ⟨frame, none⟩) = [] := by
  simp [noted]

/-- To note the end of a call changes no frame. -/
theorem map_frame_note (index : UInt32) (outcome : Outcome) (calls : List Call) :
    (note index outcome calls).map Call.frame = calls.map Call.frame := by
  fun_induction note index outcome calls with
  | case1 => rfl
  | case2 call rest awaited => rfl
  | case3 call rest other ih => rw [List.map_cons, List.map_cons, ih]

/-- The end of a call is noted once, if fewer calls of its number have ended than there are. -/
theorem noted_note {calls : List Call}
    (awaited : ((noted calls).map Prod.fst).count index <
      (calls.map fun call => call.frame.index).count index) :
    (noted (note index outcome calls)).Perm ((index, outcome) :: noted calls) := by
  induction calls with
  | nil => simp at awaited
  | cons call calls ih =>
    obtain ⟨frame, past⟩ := call
    cases past with
    | none =>
      by_cases same : frame.index = index
      · simp [note, noted, same]
      · have rest := ih (by simpa [noted, same] using awaited)
        simpa [note, noted, same] using rest
    | some earlier =>
      have fewer : ((noted calls).map Prod.fst).count index <
          (calls.map fun call => call.frame.index).count index := by
        simp only [noted, List.filterMap_cons, Option.map_some, List.map_cons,
          List.count_cons] at awaited ⊢
        omega
      have rest := (ih fewer).cons (frame.index, earlier)
      simpa [note, noted] using rest.trans (List.Perm.swap _ _ _)

/-- The outcomes of a batch are all that is noted, one for each frame. -/
theorem of_outcomes?_eq_some {calls : List Call} {outcomes : List (UInt32 × Outcome)}
    (whole : outcomes? calls = some outcomes) :
    noted calls = outcomes ∧ outcomes.map Prod.fst = calls.map fun call => call.frame.index := by
  induction calls generalizing outcomes with
  | nil =>
    cases whole
    exact ⟨rfl, rfl⟩
  | cons call calls ih =>
    obtain ⟨frame, past⟩ := call
    simp only [outcomes?, List.mapM_cons, bind, Option.bind_eq_some_iff, pure] at whole ih
    obtain ⟨first, found, rest, others, equal⟩ := whole
    cases equal
    obtain ⟨outcome, same, rfl⟩ := Option.map_eq_some_iff.mp found
    obtain ⟨all, numbers⟩ := ih others
    subst same
    constructor
    · simpa [noted] using all
    · rw [List.map_cons, List.map_cons, numbers]

/-- With no failure among them, outcomes are reports. -/
theorem isReport_of_firstFailure? {outcomes : List (UInt32 × Outcome)}
    (fine : firstFailure? outcomes = none) : ∀ answer ∈ outcomes, isReport answer.2 = true := by
  intro answer member
  induction outcomes with
  | nil => cases member
  | cons first outcomes ih =>
    obtain ⟨number, outcome⟩ := first
    cases outcome with
    | error error => cases fine
    | ok report =>
      rcases List.mem_cons.mp member with rfl | later
      · rfl
      · exact ih fine later

/-! ## The batch under way -/

/-- The calls for the frames in `done`, which fill the earlier batches, have come to the reports
in `past`; all other calls that have begun are for frames of one batch, and those of them that have
ended have come to what is in `present`. -/
structure Window (size : Nat) (frames : List Frame) (seen : List Occurrence)
    (done batch later : List Frame) (past present : List (UInt32 × Outcome)) (earlier : Nat) :
    Prop where
  whole : done ++ batch ++ later = frames
  place : done.length = earlier * max 1 size
  full : batch.length = min (max 1 size) (batch ++ later).length
  settled : past.map Prod.fst = done.map Frame.index
  fine : ∀ answer ∈ past, isReport answer.2 = true
  ends : (answered seen).Perm (past ++ present)
  unpaused : paused seen = 0

/-- How far a dispatch in batches is. -/
inductive Stage (size : Nat) (frames : List Frame) :
    List Occurrence → State → List Act → Prop where
  /-- A batch is under way; the calls for the frames in `waiting` have not begun yet. -/
  | calling {seen : List Occurrence} {done later waiting : List Frame} {calls : List Call}
      {past : List (UInt32 × Outcome)} {earlier begun : Nat} {job : Job}
      (window : Window size frames seen done (calls.map Call.frame) later past (noted calls)
        earlier)
      (begins : called seen ++ waiting = done ++ calls.map Call.frame) :
      Stage size frames seen
        (.calling calls ⟨.batched size, begun, batches (max 1 size) later, job⟩)
        (waiting.map .call)
  | finished {seen : List Occurrence} {done batch later : List Frame}
      {past present : List (UInt32 × Outcome)} {earlier : Nat} {result : Except Error Job}
      (window : Window size frames seen done batch later past present earlier)
      (begins : called seen = done ++ batch)
      (past : present.map Prod.fst = batch.map Frame.index) :
      Stage size frames seen (.finished result) []

namespace Window

variable {done batch later : List Frame} {past present : List (UInt32 × Outcome)} {earlier : Nat}
  (window : Window size frames seen done batch later past present earlier)

include window

theorem small : batch.length ≤ max 1 size := by
  have full := window.full
  omega

theorem ended_perm : (ended seen).Perm (done.map Frame.index ++ present.map Prod.fst) := by
  rw [← map_fst_answered, ← window.settled, ← List.map_append]
  exact window.ends.map Prod.fst

/-- All frames of the earlier batches are reported. -/
theorem subperm_reported : (done.map Frame.index).Subperm (reported seen) := by
  have fine : past.filter (fun answer => isReport answer.2) = past :=
    List.filter_eq_self.mpr window.fine
  have reports := (window.ends.filter fun answer => isReport answer.2).map Prod.fst
  rw [List.filter_append, fine, List.map_append, window.settled] at reports
  exact (List.sublist_append_left _ _).subperm.trans reports.symm.subperm

/-- The calls under way are no more than the batch holds. -/
theorem few (begins : called seen <+: done ++ batch) :
    (begun seen).length ≤ (ended seen).length + max 1 size := by
  have ends := window.ended_perm.length_eq
  have calls := begins.length_le
  have small := window.small
  simp only [begun, List.length_append, List.length_map] at ends calls ⊢
  omega

end Window

/-- At every stage there is a batch under way. -/
theorem Stage.exists_window (stage : Stage size frames seen state due) :
    ∃ done batch later past present earlier,
      Window size frames seen done batch later past present earlier ∧
        called seen <+: done ++ batch := by
  cases stage with
  | calling window begins => exact ⟨_, _, _, _, _, _, window, ⟨_, begins⟩⟩
  | finished window begins past => exact ⟨_, _, _, _, _, _, window, begins ▸ List.prefix_rfl⟩

/-! ## From stage to stage -/

/-- When the earlier batches have their reports, the next one begins, or nothing is left. -/
theorem stage_launch {done later : List Frame} {past : List (UInt32 × Outcome)}
    {earlier begun : Nat} {job : Job} (whole : done ++ later = frames)
    (place : done.length = earlier * max 1 size) (begins : called seen = done)
    (settled : past.map Prod.fst = done.map Frame.index)
    (fine : ∀ answer ∈ past, isReport answer.2 = true) (ends : (answered seen).Perm past)
    (unpaused : paused seen = 0) :
    let next := launch ⟨.batched size, begun, batches (max 1 size) later, job⟩
    Stage size frames seen next.1 next.2 := by
  intro next
  have split : later.take (max 1 size) ++ later.drop (max 1 size) = later :=
    List.take_append_drop _ _
  have window : Window size frames seen done (later.take (max 1 size))
      (later.drop (max 1 size)) past [] earlier := by
    refine ⟨?_, place, ?_, settled, fine, ?_, unpaused⟩
    · rw [List.append_assoc, split, whole]
    · rw [split, List.length_take]
    · rwa [List.append_nil]
  by_cases nothing : later = []
  · subst nothing
    simp only [next, launch_nil]
    exact .finished window (by simpa using begins) (by rw [List.take_nil]; rfl)
  · have positive : 0 < max 1 size := by omega
    have frame : ((later.take (max 1 size)).map fun frame => (⟨frame, none⟩ : Call)).map
        Call.frame = later.take (max 1 size) := by
      simp [Function.comp_def]
    simp only [next]
    rw [launch_batches positive nothing]
    rw [← frame, ← noted_begun] at window
    exact .calling window (by rw [frame, begins])

/-- The last call of a batch ends it: the dispatch ends with it, or goes on. -/
theorem stage_settle {done batch later : List Frame} {past outcomes : List (UInt32 × Outcome)}
    {earlier begun : Nat} {job : Job}
    (window : Window size frames seen done batch later past outcomes earlier)
    (begins : called seen = done ++ batch)
    (whole : outcomes.map Prod.fst = batch.map Frame.index) :
    let next := settle ⟨.batched size, begun, batches (max 1 size) later, job⟩ outcomes
    Stage size frames seen next.1 next.2 := by
  intro next
  simp only [next, settle]
  split
  · exact .finished window begins whole
  simp only [proceed]
  split
  · exact .finished window begins whole
  · next fine =>
    by_cases nothing : later = []
    · rw [nothing] at window ⊢
      rw [launch_nil]
      exact .finished window begins whole
    · have some := List.length_pos_iff.mpr nothing
      have full := window.full
      have place : (done ++ batch).length = (earlier + 1) * max 1 size := by
        rw [List.length_append] at full
        rw [List.length_append, window.place, Nat.succ_mul]
        omega
      have settled : (past ++ outcomes).map Prod.fst = (done ++ batch).map Frame.index := by
        rw [List.map_append, List.map_append, window.settled, whole]
      refine stage_launch window.whole place begins settled ?_ window.ends window.unpaused
      intro answer member
      exact (List.mem_append.mp member).elim (window.fine answer)
        (isReport_of_firstFailure? fine answer)

/-- A call begins, and nothing else changes. -/
theorem Stage.act {act : Act} (stage : Stage size frames seen state (act :: due)) :
    Stage size frames (seen ++ [.did act]) state due := by
  generalize equal : act :: due = pending at stage
  cases stage with
  | @calling done later waiting calls past earlier begun job window begins =>
    cases waiting with
    | nil => cases equal
    | cons frame waiting =>
      obtain ⟨rfl, rfl⟩ := List.cons.inj equal
      have beginsToo : called (seen ++ [.did (.call frame)]) ++ waiting =
          done ++ calls.map Call.frame := by
        simpa using begins
      have windowToo : Window size frames (seen ++ [.did (.call frame)]) done
          (calls.map Call.frame) later past (noted calls) earlier :=
        ⟨window.whole, window.place, window.full, window.settled, window.fine,
          by simpa using window.ends, by simpa using window.unpaused⟩
      exact .calling windowToo beginsToo
  | finished window begins past => cases equal

/-- A call ends: its batch goes on, or it ends with it. -/
theorem Stage.ended (stage : Stage size frames seen state due)
    (awaited : Awaits seen (.ended index outcome))
    (bound : (Dispatch.ended (seen ++ [.heard (.ended index outcome)])).length ≤
      (begun (seen ++ [.heard (.ended index outcome)])).length) :
    Stage size frames (seen ++ [.heard (.ended index outcome)])
      (step state (.ended index outcome)).1 (due ++ (step state (.ended index outcome)).2) := by
  have room : (Dispatch.ended seen).count index < (begun seen).count index := awaited
  cases stage with
  | @calling done later waiting calls past earlier number job window begins =>
    -- Of the calls of that number, those of earlier batches have all ended.
    have begins' := congrArg (fun list => (list.map Frame.index).count index) begins
    simp only [List.map_append, List.map_map, List.count_append] at begins'
    rw [window.ended_perm.count_eq, List.count_append] at room
    have pending : ((noted calls).map Prod.fst).count index <
        (calls.map fun call => call.frame.index).count index := by
      simp only [begun, Function.comp_def] at room begins'
      omega
    have changed : (noted (note index outcome calls)).Perm ((index, outcome) :: noted calls) :=
      noted_note pending
    have windowToo : Window size frames (seen ++ [.heard (.ended index outcome)]) done
        ((note index outcome calls).map Call.frame) later past
        (noted (note index outcome calls)) earlier := by
      rw [map_frame_note]
      refine ⟨window.whole, window.place, window.full, window.settled, window.fine, ?_,
        by simpa using window.unpaused⟩
      have last : (noted calls ++ [(index, outcome)]).Perm (noted (note index outcome calls)) :=
        (List.perm_append_singleton _ _).trans changed.symm
      rw [answered_ended]
      refine (window.ends.append_right _).trans ?_
      rw [List.append_assoc]
      exact last.append_left past
    have beginsToo : called (seen ++ [.heard (.ended index outcome)]) ++ waiting =
        done ++ (note index outcome calls).map Call.frame := by
      rw [map_frame_note, called_heard, begins]
    simp only [step]
    cases outcomes : outcomes? (note index outcome calls) with
    | none =>
      rw [List.append_nil]
      exact .calling windowToo beginsToo
    | some outcomes' =>
      obtain ⟨rfl, numbers⟩ := of_outcomes?_eq_some outcomes
      have wholeBatch : (noted (note index outcome calls)).map Prod.fst =
          ((note index outcome calls).map Call.frame).map Frame.index := by
        rw [numbers, List.map_map]
        rfl
      have nothing : waiting = [] := by
        have ends := windowToo.ended_perm.length_eq
        have begins := congrArg List.length beginsToo
        rw [wholeBatch] at ends
        simp only [begun, List.length_append, List.length_map] at ends begins bound
        exact List.length_eq_zero_iff.mp (by omega)
      subst nothing
      rw [List.append_nil] at beginsToo
      exact stage_settle windowToo beginsToo wholeBatch
  | @finished done batch later past present earlier result window begins whole =>
    rw [window.ended_perm.count_eq, whole, ← List.map_append, begun, begins] at room
    exact absurd room (Nat.lt_irrefl _)

/-! ## Runs -/

/-- No more calls end than begin. -/
theorem Run.length_ended_le (run : Run policy frames seen state due) :
    (ended seen).length ≤ (begun seen).length :=
  (List.subperm_ext_iff.mpr fun index _ => run.count_ended_le index).length_le

/-- Frames that pass for numbered go through the stages batch after batch. -/
theorem Run.stage (run : Run (.batched size) frames seen state due)
    (passes : misnumbered? frames = none) : Stage size frames seen state due := by
  induction run with
  | start =>
    rw [start_eq_launch passes]
    have place : ([] : List Frame).length = 0 * max 1 size := (Nat.zero_mul _).symm
    have noAnswers : ∀ answer ∈ ([] : List (UInt32 × Outcome)), isReport answer.2 = true := by
      intro answer member
      cases member
    exact stage_launch (List.nil_append frames) place rfl rfl noAnswers (List.Perm.refl []) rfl
  | act before ih => exact ih.act
  | @event seen state due event before awaited ih =>
    cases event with
    | resumed =>
      obtain ⟨done, batch, later, past, present, earlier, window, -⟩ := ih.exists_window
      have room : resumed seen < paused seen := awaited
      rw [window.unpaused] at room
      exact absurd room (Nat.not_lt_zero _)
    | ended index outcome => exact ih.ended awaited (before.event awaited).length_ended_le

theorem Run.exists_window (run : Run (.batched size) frames seen state due)
    (passes : misnumbered? frames = none) :
    ∃ done batch later past present earlier,
      Window size frames seen done batch later past present earlier ∧
        called seen <+: done ++ batch :=
  (run.stage passes).exists_window

/-- The calls that have begun are for the first frames of the list.  If they go beyond some
batches, all frames of these batches are reported. -/
theorem Run.apart (run : Run (.batched size) frames seen state due)
    (passes : misnumbered? frames = none) :
    called seen <+: frames ∧ (begun seen).length ≤ (ended seen).length + max 1 size ∧
      ∀ batch, batch * max 1 size < (called seen).length →
        ((frames.take (batch * max 1 size)).map Frame.index).Subperm (reported seen) := by
  obtain ⟨done, batch, later, past, present, earlier, window, begins⟩ := run.exists_window passes
  refine ⟨begins.trans ⟨later, window.whole⟩, window.few begins, fun batches beyond => ?_⟩
  have calls := begins.length_le
  have small := window.small
  have place := window.place
  have below : batches * max 1 size < (earlier + 1) * max 1 size := by
    rw [List.length_append] at calls
    rw [Nat.succ_mul]
    omega
  have few : batches * max 1 size ≤ done.length := by
    rw [place]
    exact Nat.mul_le_mul_right _ (Nat.le_of_lt_succ (Nat.lt_of_mul_lt_mul_right below))
  have first : frames.take (batches * max 1 size) = done.take (batches * max 1 size) := by
    rw [← window.whole, List.append_assoc, List.take_append_of_le_length few]
  rw [first]
  exact ((List.take_sublist _ done).map Frame.index).subperm.trans window.subperm_reported

end FrameCourier.Dispatch
