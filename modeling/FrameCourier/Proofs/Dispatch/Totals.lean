import FrameCourier.Dispatch.Timeline

/-!
# The slots of a dispatch

A dispatch begins with a slot for each frame and neither adds nor drops one: in every state it
comes to, its job has as many slots as there are frames.
-/

namespace FrameCourier.Dispatch

/-- The job of a state; none is left if the dispatch has failed. -/
def State.job? : State → Option Job
  | calling _ agenda => some agenda.job
  | pausing agenda => some agenda.job
  | finished result => result.toOption

/-- The job of a state has so many slots. -/
def State.HasTotal (total : Nat) (state : State) : Prop :=
  ∀ job ∈ state.job?, job.total = total

variable {total : Nat}

theorem hasTotal_launch {agenda : Agenda} (held : agenda.job.total = total) :
    (launch agenda).1.HasTotal total := by
  unfold launch
  split <;> · rintro job ⟨⟩; exact held

theorem total_recordAll {job next : Job} {outcomes : List (UInt32 × Outcome)}
    (success : recordAll job outcomes = .ok next) : next.total = job.total := by
  induction outcomes generalizing job with
  | nil =>
    cases success
    rfl
  | cons outcome outcomes ih =>
    simp only [recordAll] at success
    split at success
    · cases success
    · next recorded => exact (ih success).trans (Job.total_record recorded)

theorem hasTotal_proceed {agenda : Agenda} (held : agenda.job.total = total)
    (outcomes : List (UInt32 × Outcome)) : (proceed agenda outcomes).1.HasTotal total := by
  unfold proceed
  split
  · split <;> · rintro job ⟨⟩; exact held
  · split
    · rintro job ⟨⟩
    · exact hasTotal_launch held

theorem hasTotal_settle {agenda : Agenda} (held : agenda.job.total = total)
    (outcomes : List (UInt32 × Outcome)) : (settle agenda outcomes).1.HasTotal total := by
  unfold settle
  split
  · rintro job ⟨⟩
  · next recorded => exact hasTotal_proceed ((total_recordAll recorded).trans held) outcomes

theorem hasTotal_step {state : State} (held : state.HasTotal total) (event : Event) :
    (step state event).1.HasTotal total := by
  unfold step
  split
  · dsimp only
    split
    · exact held
    · exact hasTotal_settle (held _ rfl) _
  · exact hasTotal_launch (held _ rfl)
  · exact held

theorem hasTotal_start (policy : Policy) (frames : List Frame) :
    (start policy frames).1.HasTotal frames.length := by
  unfold start
  split
  · rintro job ⟨⟩
  · exact hasTotal_launch List.length_replicate

theorem hasTotal_elapse (service : Service) {count : Nat} {state : State}
    (held : state.HasTotal total) (awaited : List (Nat × Event)) :
    (elapse service count state awaited).1.HasTotal total := by
  induction count generalizing state awaited with
  | zero => exact held
  | succ count ih =>
    unfold elapse
    split
    · exact held
    · next now event others _ => exact ih (hasTotal_step held event) _

/-- A dispatch on a clock keeps a slot for each frame. -/
theorem hasTotal_course (policy : Policy) (service : Service) (frames : List Frame) :
    (course policy service frames).1.HasTotal frames.length :=
  hasTotal_elapse service (hasTotal_start policy frames) _

end FrameCourier.Dispatch
