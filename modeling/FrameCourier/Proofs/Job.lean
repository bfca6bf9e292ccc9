import FrameCourier.Job
import Mathlib.Data.List.Nodup

/-!
# What a job holds

Outcomes may come for any frame, in any order and more than once, and some for frames that the job
does not have.  The slot of a frame holds the outcome that came first for it; every other outcome is
refused and changes nothing.  So a job does not depend on the order in which the outcomes of
different frames come, and it tells how many of them it has taken.
-/

namespace FrameCourier.Job

/-- An outcome that comes for a frame. -/
structure Entry where
  index : UInt32
  outcome : Except String Report

/-- The job after an outcome has come; one that is refused leaves it as it is. -/
def enter (job : Job) (entry : Entry) : Job :=
  match job.record entry.index entry.outcome with
  | .ok next => next
  | .error _ => job

/-- The job after several outcomes have come, one after the other. -/
def enterAll (job : Job) (entries : List Entry) : Job := entries.foldl enter job

/-- How each of several outcomes is received. -/
def answers (job : Job) : List Entry → List (Except JobError Job)
  | [] => []
  | entry :: later => job.record entry.index entry.outcome :: (job.enter entry).answers later

/-! ## What came first -/

/-- What the outcomes leave in the slot of the frame with a number: the first one for it. -/
def held (entries : List Entry) (number : Nat) : Slot :=
  match entries.find? fun entry => entry.index.toNat = number with
  | none => .pending
  | some entry => .ofOutcome entry.outcome

/-- No outcome leaves a slot pending. -/
theorem ofOutcome_ne_pending (outcome : Except String Report) :
    Slot.ofOutcome outcome ≠ .pending := by
  cases outcome <;> exact Slot.noConfusion

theorem held_eq_pending_iff {entries : List Entry} {number : Nat} :
    held entries number = .pending ↔ ∀ entry ∈ entries, entry.index.toNat ≠ number := by
  unfold held
  split
  · next nothing => simpa using nothing
  · next entry found =>
    constructor
    · intro pending
      exact absurd pending (ofOutcome_ne_pending entry.outcome)
    · intro others
      have member := List.mem_of_find?_eq_some found
      exact absurd (by simpa using List.find?_some found) (others entry member)

/-- An outcome counts only if it is the first one for its frame. -/
theorem held_append_singleton (entries : List Entry) (entry : Entry) (number : Nat) :
    held (entries ++ [entry]) number =
      if held entries number = .pending ∧ entry.index.toNat = number then
        .ofOutcome entry.outcome
      else held entries number := by
  have or : (entries ++ [entry]).find? (fun entry => decide (entry.index.toNat = number)) =
      (entries.find? fun entry => decide (entry.index.toNat = number)).or
        ([entry].find? fun entry => decide (entry.index.toNat = number)) := List.find?_append
  cases found : entries.find? fun entry => decide (entry.index.toNat = number) with
  | none =>
    rw [found, Option.none_or] at or
    by_cases own : entry.index.toNat = number
    · simp [held, or, found, own]
    · simp [held, or, found, own]
  | some earlier =>
    rw [found, Option.some_or] at or
    simp [held, or, found, ofOutcome_ne_pending]

/-- Among outcomes of different frames there is one at most for each. -/
theorem find?_eq_some_iff_mem {entries : List Entry}
    (distinct : (entries.map Entry.index).Nodup) (number : Nat) (entry : Entry) :
    entries.find? (fun entry => entry.index.toNat = number) = some entry ↔
      entry ∈ entries ∧ entry.index.toNat = number := by
  constructor
  · intro found
    exact ⟨List.mem_of_find?_eq_some found, by simpa using List.find?_some found⟩
  · rintro ⟨member, own⟩
    have exists_found : (entries.find? fun entry => entry.index.toNat = number).isSome := by
      simpa using ⟨entry, member, own⟩
    obtain ⟨first, found⟩ := Option.isSome_iff_exists.mp exists_found
    have ownToo : first.index.toNat = number := by simpa using List.find?_some found
    have sameIndex := UInt32.toNat_inj.mp (ownToo.trans own.symm)
    rw [found, List.inj_on_of_nodup_map distinct (List.mem_of_find?_eq_some found) member sameIndex]

/-- So it does not matter in which order they come. -/
theorem held_eq_of_perm {entries others : List Entry} (same : others.Perm entries)
    (distinct : (entries.map Entry.index).Nodup) (number : Nat) :
    held others number = held entries number := by
  have distinctToo : (others.map Entry.index).Nodup :=
    (same.map Entry.index).nodup_iff.mpr distinct
  have found : others.find? (fun entry => entry.index.toNat = number) =
      entries.find? fun entry => entry.index.toNat = number := by
    ext entry
    rw [find?_eq_some_iff_mem distinctToo, find?_eq_some_iff_mem distinct, same.mem_iff]
  rw [held, held, found]

/-! ## Slots -/

/-- The job on as many frames as `total` whose slots hold what came first for each. -/
def filled (total : Nat) (entries : List Entry) : Job :=
  ⟨(List.range total).map fun place => held entries (place + 1)⟩

variable {total : Nat} {entries : List Entry} {entry : Entry}

@[simp] theorem length_slots_filled : (filled total entries).slots.length = total := by
  simp [filled]

theorem getElem?_filled {place : Nat} (inside : place < total) :
    (filled total entries).slots[place]? = some (held entries (place + 1)) := by
  simp [filled, inside]

theorem slot?_filled_of_mem {index : UInt32} (inside : 1 ≤ index.toNat ∧ index.toNat ≤ total) :
    (filled total entries).slot? index = some (held entries index.toNat) := by
  have nonzero : index ≠ 0 := by
    rintro rfl
    simp at inside
  have place : index.toNat - 1 + 1 = index.toNat := by omega
  rw [slot?, if_neg nonzero, getElem?_filled (by omega), place]

theorem slot?_filled_of_not_mem {index : UInt32}
    (outside : ¬ (1 ≤ index.toNat ∧ index.toNat ≤ total)) :
    (filled total entries).slot? index = none := by
  unfold slot?
  split
  · rfl
  · next nonzero =>
    have positive : index.toNat ≠ 0 := fun zero => nonzero (UInt32.toNat_inj.mp zero)
    rw [List.getElem?_eq_none (by simp; omega)]

/-! ## One outcome -/

theorem record_filled_of_not_mem
    (outside : ¬ (1 ≤ entry.index.toNat ∧ entry.index.toNat ≤ total)) :
    (filled total entries).record entry.index entry.outcome =
      .error (.outOfRange entry.index total) := by
  simp [record, slot?_filled_of_not_mem outside, Job.total]

theorem record_filled_of_used
    (inside : 1 ≤ entry.index.toNat ∧ entry.index.toNat ≤ total)
    (used : held entries entry.index.toNat ≠ .pending) :
    (filled total entries).record entry.index entry.outcome =
      .error (.alreadyWritten entry.index) := by
  unfold record
  rw [slot?_filled_of_mem inside]
  split
  · next missing => cases missing
  · next pending => exact absurd (Option.some.inj pending) used
  · rfl

/-- Writing the slot of a frame is what the first outcome for it leaves. -/
theorem record_filled_of_pending
    (inside : 1 ≤ entry.index.toNat ∧ entry.index.toNat ≤ total)
    (pending : held entries entry.index.toNat = .pending) :
    (filled total entries).record entry.index entry.outcome =
      .ok (filled total (entries ++ [entry])) := by
  have written : (filled total entries).slots.set (entry.index.toNat - 1)
      (.ofOutcome entry.outcome) = (filled total (entries ++ [entry])).slots := by
    refine List.ext_getElem? fun place => ?_
    rw [List.getElem?_set, length_slots_filled]
    by_cases bound : place < total
    · rw [getElem?_filled bound, getElem?_filled bound, held_append_singleton]
      by_cases own : entry.index.toNat = place + 1
      · rw [if_pos (by omega), if_pos (by omega), if_pos ⟨own ▸ pending, own⟩]
      · rw [if_neg (by omega), if_neg fun both => own both.2]
    · have outside : ¬ entry.index.toNat - 1 = place := by omega
      rw [if_neg outside, List.getElem?_eq_none (by simpa using bound),
        List.getElem?_eq_none (by simpa using bound)]
  unfold record
  rw [slot?_filled_of_mem inside, pending]
  simp only [written]

/-- An outcome is taken if it is for a frame of the job that none has come for. -/
theorem record_filled (total : Nat) (entries : List Entry) (entry : Entry) :
    (filled total entries).record entry.index entry.outcome =
      if 1 ≤ entry.index.toNat ∧ entry.index.toNat ≤ total then
        if entry.index ∈ entries.map Entry.index then .error (.alreadyWritten entry.index)
        else .ok (filled total (entries ++ [entry]))
      else .error (.outOfRange entry.index total) := by
  have used : entry.index ∈ entries.map Entry.index ↔ held entries entry.index.toNat ≠ .pending := by
    rw [ne_eq, held_eq_pending_iff]
    simp [UInt32.toNat_inj]
  split
  · next inside =>
    split
    · next already => exact record_filled_of_used inside (used.mp already)
    · next free =>
      exact record_filled_of_pending inside (not_not.mp fun taken => free (used.mpr taken))
  · next outside => exact record_filled_of_not_mem outside

/-- An outcome changes the job if it is the first one for a frame of the job, and only then. -/
theorem enter_filled (total : Nat) (entries : List Entry) (entry : Entry) :
    (filled total entries).enter entry = filled total (entries ++ [entry]) := by
  unfold enter
  by_cases inside : 1 ≤ entry.index.toNat ∧ entry.index.toNat ≤ total
  · by_cases pending : held entries entry.index.toNat = .pending
    · rw [record_filled_of_pending inside pending]
    · rw [record_filled_of_used inside pending]
      have same : ∀ number, held (entries ++ [entry]) number = held entries number := by
        intro number
        rw [held_append_singleton, if_neg]
        rintro ⟨empty, rfl⟩
        exact pending empty
      simp [filled, same]
  · rw [record_filled_of_not_mem inside]
    have same : ∀ place < total, held (entries ++ [entry]) (place + 1) = held entries (place + 1) := by
      intro place bound
      rw [held_append_singleton, if_neg]
      rintro ⟨-, number⟩
      exact inside (by omega)
    simp only [filled, mk.injEq]
    exact List.map_congr_left fun place member => (same place (List.mem_range.mp member)).symm

/-! ## All outcomes -/

/-- A job that nothing has come for holds what first came for each frame from then on. -/
theorem enterAll_fresh (total : Nat) (entries : List Entry) :
    (fresh total).enterAll entries = filled total entries := by
  have further : ∀ before, (filled total before).enterAll entries = filled total (before ++ entries) := by
    induction entries with
    | nil => intro before; rw [List.append_nil]; rfl
    | cons entry later ih =>
      intro before
      have next := ih (before ++ [entry])
      rw [List.append_assoc] at next
      rw [enterAll, List.foldl_cons, enter_filled]
      exact next
  have start : fresh total = filled total [] := by
    simp [fresh, filled, held, List.map_const']
  rw [start, further, List.nil_append]

/-! ## Counts -/

theorem isSuccess_iff (slot : Slot) :
    slot.isSuccess = true ↔ ∃ report, slot = .completed report ∧ report.status = .success := by
  cases slot <;> simp [Slot.isSuccess, Report.isSuccess]

/-- The frames that were attempted are those whose slots are not pending. -/
theorem attempted_progress (job : Job) :
    job.progress.attempted = job.slots.countP fun slot => !slot.isPending := by
  have parts := job.slots.length_eq_countP_add_countP Slot.isPending
  have successes : job.slots.countP Slot.isSuccess ≤ job.slots.countP fun slot => !slot.isPending := by
    refine List.countP_mono_left fun slot _ success => ?_
    cases slot <;> simp_all [Slot.isSuccess, Slot.isPending]
  simp only [progress, Progress.attempted, Job.total, decide_not, Bool.decide_eq_true] at parts ⊢
  omega

/-- An outcome that is taken is one attempt more. -/
theorem attempted_record {job next : Job} {index : UInt32} {outcome : Except String Report}
    (success : job.record index outcome = .ok next) :
    next.progress.attempted = job.progress.attempted + 1 := by
  have before := slot?_eq_pending_of_record success
  unfold record at success
  rw [before] at success
  cases success
  unfold slot? at before
  split at before
  · cases before
  · obtain ⟨inside, pending⟩ := List.getElem?_eq_some_iff.mp before
    have taken : (Slot.ofOutcome outcome).isPending = false := by cases outcome <;> rfl
    rw [attempted_progress, attempted_progress, List.countP_set inside, pending]
    simp [taken, show Slot.pending.isPending = true from rfl]

/-- A job has as many attempts as it has taken outcomes. -/
theorem attempted_enterAll (job : Job) (entries : List Entry) :
    (job.enterAll entries).progress.attempted =
      job.progress.attempted + (job.answers entries).countP Except.isOk := by
  induction entries generalizing job with
  | nil => rfl
  | cons entry later ih =>
    have rest := ih (job.enter entry)
    rw [enterAll, List.foldl_cons, ← enterAll, rest, answers, List.countP_cons]
    cases answer : job.record entry.index entry.outcome with
    | ok next =>
      have one := attempted_record answer
      have entered : job.enter entry = next := by simp only [enter, answer]
      rw [entered, one, show (Except.ok next : Except JobError Job).isOk = true from rfl, if_pos rfl]
      omega
    | error reason =>
      have entered : job.enter entry = job := by simp only [enter, answer]
      rw [entered, if_neg Bool.noConfusion]
      rfl

/-- A job is done when every frame was attempted. -/
theorem isDone_iff (job : Job) :
    job.isDone = true ↔ job.progress.attempted = job.total := by
  rw [attempted_progress, Job.total, List.countP_eq_length]
  simp [isDone]

theorem attempted_fresh (total : Nat) : (fresh total).progress.attempted = 0 := by
  rw [attempted_progress]
  simp [fresh, List.countP_replicate, Slot.isPending]

/-- Whatever outcomes come for a job on so many frames: each slot holds the one that came first for
its frame, or is pending; the next one is taken if it is for a frame of the job that none has come
for, and refused for its reason otherwise, which changes nothing; the job tells the successes among
its slots and how many outcomes it has taken, and it is done when these are as many as its frames.
The same outcomes in another order give the same job if they are for different frames. -/
theorem enterAll_keeps_first (total : Nat) (entries : List Entry) :
    let job := (fresh total).enterAll entries
    (job.total = total ∧
      ∀ number, 1 ≤ number → number ≤ total → job.slots[number - 1]? = some (held entries number)) ∧
    (∀ entry : Entry,
      job.record entry.index entry.outcome =
        (if 1 ≤ entry.index.toNat ∧ entry.index.toNat ≤ total then
          if entry.index ∈ entries.map Entry.index then .error (.alreadyWritten entry.index)
          else .ok ((fresh total).enterAll (entries ++ [entry]))
        else .error (.outOfRange entry.index total)) ∧
      ∀ error, job.record entry.index entry.outcome = .error error →
        (fresh total).enterAll (entries ++ [entry]) = job) ∧
    job.progress.total = total ∧
    (job.progress.succeeded = job.slots.countP Slot.isSuccess ∧
      ∀ slot : Slot, slot.isSuccess = true ↔
        ∃ report, slot = .completed report ∧ report.status = .success) ∧
    job.progress.attempted = ((fresh total).answers entries).countP Except.isOk ∧
    (job.isDone = true ↔ job.progress.attempted = total) ∧
    ∀ others : List Entry, others.Perm entries → (entries.map Entry.index).Nodup →
      (fresh total).enterAll others = job := by
  intro job
  have holds : job = filled total entries := enterAll_fresh total entries
  have size : job.total = total := by rw [holds, Job.total, length_slots_filled]
  refine ⟨⟨size, ?_⟩, fun entry => ⟨?_, ?_⟩, size, ⟨rfl, isSuccess_iff⟩, ?_, ?_, ?_⟩
  · intro number least most
    rw [holds, getElem?_filled (by omega), Nat.sub_add_cancel least]
  · rw [holds, enterAll_fresh]
    exact record_filled total entries entry
  · intro error refused
    rw [enterAll, List.foldl_append]
    show job.enter entry = job
    simp only [enter, refused]
  · rw [← Nat.zero_add (List.countP _ _), ← attempted_fresh total]
    exact attempted_enterAll (fresh total) entries
  · rw [isDone_iff, size]
  · intro others same distinct
    rw [holds, enterAll_fresh]
    simp only [filled, held_eq_of_perm same distinct]

/-- Two outcomes for the second frame, and one for a frame beyond. -/
def strayEntries : List Entry :=
  [⟨2, .error "lost"⟩, ⟨2, .error "lost again"⟩, ⟨3, .error "beyond"⟩]

/-- A job of two frames holds the first of these alone, and the next one for the first frame is
taken. -/
theorem enterAll_keeps_first_twoFrames :
    let job := (fresh 2).enterAll strayEntries
    job.slots[1]? = some (.failed "lost") ∧ job.slots[0]? = some .pending ∧
      job.record 2 (.error "late") = .error (.alreadyWritten 2) ∧
      job.record 1 (.error "late") =
        .ok ((fresh 2).enterAll (strayEntries ++ [⟨1, .error "late"⟩])) ∧
      job.progress.attempted = 1 ∧ job.isDone = false := by
  intro job
  obtain ⟨⟨-, slots⟩, records, -, -, attempted, done, -⟩ := enterAll_keeps_first 2 strayEntries
  have one : job.progress.attempted = 1 := attempted
  refine ⟨slots 2 (by decide) (by decide), slots 1 (by decide) (by decide),
    (records ⟨2, .error "late"⟩).1, (records ⟨1, .error "late"⟩).1, one, ?_⟩
  rw [Bool.eq_false_iff, ne_eq, done, one]
  exact Nat.succ_ne_self 1 ∘ Eq.symm

end FrameCourier.Job
