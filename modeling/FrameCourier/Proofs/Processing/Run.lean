import FrameCourier.Processing
import FrameCourier.Proofs.Dispatch.Totals
import FrameCourier.Proofs.Traversal

/-!
# Runs that succeed

A run that succeeds has gone through all of its parts: images were extracted, frames were loaded
from the archive, every loaded frame has a slot in the job, and as many output frames as the job
has slots were made into the video.
-/

namespace FrameCourier.Processing

variable {order : Order} {around : Surroundings} {site : Site}

/-! ## Parts -/

section

variable {α β : Type}

/-- A part that follows another one has succeeded only if the other one has, where that one has
left the site. -/
theorem exists_of_andThen_eq_ok {first : Part α} {second : α → Part β} {y : β}
    (success : (first.andThen second site).2 = .ok y) :
    ∃ between x, first site = (between, .ok x) ∧
      first.andThen second site = second x between := by
  unfold Part.andThen at success ⊢
  split at success
  · cases success
  · next between x done => exact ⟨between, x, done, rfl⟩

theorem of_convert_eq_ok {attempt : Video.Attempt α} {wrap : Video.Error → Error} {after : Site}
    {x : α} (success : convert attempt wrap site = (after, .ok x)) :
    attempt.result = .ok x ∧ after.folder = site.folder := by
  obtain ⟨rfl, result⟩ := Prod.mk.inj success
  exact ⟨mapError_eq_ok.mp result, rfl⟩

theorem within_result {name : String} {work : Option Node → Option Node × Except Error α} :
    (within name work site).2 = (work (site.folder.lookup name)).2 := by
  unfold within
  split <;> simp only [*]

end

/-! ## What a part comes to -/

/-- A dispatch that ends well has a slot for each frame. -/
theorem total_of_dispatch {frames : List Frame} {job : Job}
    (success : (dispatch order around frames site).2 = .ok job) : job.total = frames.length := by
  refine Dispatch.hasTotal_course order.policy around.service frames job ?_
  simp only [dispatch] at success
  split at success
  · next ended =>
    rw [ended, mapError_eq_ok.mp success]
    rfl
  · next ended =>
    rw [ended]
    cases success
    rfl
  · next ended =>
    rw [ended]
    cases success
    rfl

/-- Outcomes are read back for each slot of the job. -/
theorem length_of_archiveAndReload {path : String} {before : Option Node} {now : Time.Instant}
    {frames : List Frame} {job : Job} {fallback : Bool} {output : List OutputFrame}
    (success : (archiveAndReload path before now frames job fallback).2 = .ok output) :
    output.length = job.total := by
  unfold archiveAndReload at success
  split at success
  · cases success
  · split at success
    · cases success
    · dsimp only at success
      split at success
      · cases success
      · split at success
        · next length =>
          cases success
          exact length
        · cases success

/-- If there are output frames, they were made into the video that is written. -/
theorem video_of_finish {output : List OutputFrame}
    (success : (finish order around output site).2 = .ok ()) :
    output = [] ∨ ∃ video,
      (Video.encodeFrames around.program around.programFolder output order.options).result =
        .ok video ∧ (finish order around output site).1.video = some video := by
  by_cases nothing : output = []
  · exact .inl nothing
  · have isEmpty : output.isEmpty = false := List.isEmpty_eq_false_iff.mpr nothing
    simp only [finish, Reassembly.encoded, isEmpty, Bool.false_eq_true, if_false] at success ⊢
    obtain ⟨between, video, converted, rest⟩ := exists_of_andThen_eq_ok success
    rw [rest] at success ⊢
    refine .inr ⟨video, (of_convert_eq_ok converted).1, ?_⟩
    cases fault : around.outputFault with
    | none => rfl
    | some fault' =>
      simp only [fault] at success
      cases success

/-- What a run that succeeds has come to on its way. -/
theorem exists_of_run_eq_ok {progress : Progress} (success : (run order around site).2 = .ok progress) :
    ∃ (images : List Bytes) (loaded : List Frame) (job : Job) (output : List OutputFrame),
      (Video.extractImages around.program around.programFolder order.inputVideo
        around.inputPresent).result = .ok images ∧
      (archiveFrames (inside order.work framesName) (site.folder.lookup framesName)
        (Frame.ofImages images "jpg" around.now)).2 = .ok loaded ∧
      job.total = loaded.length ∧ progress = job.progress ∧
      output.length = job.total ∧
      (output = [] ∨ ∃ video,
        (Video.encodeFrames around.program around.programFolder output order.options).result =
          .ok video ∧ (run order around site).1.video = some video) := by
  obtain ⟨reached, _, reach, afterReach⟩ := exists_of_andThen_eq_ok success
  obtain ⟨rfl, _⟩ := Prod.mk.inj reach
  have ran : run order around site = _ := afterReach
  rw [ran] at success
  obtain ⟨extracted, images, extraction, afterExtraction⟩ := exists_of_andThen_eq_ok success
  obtain ⟨imagesFound, folder⟩ := of_convert_eq_ok extraction
  rw [afterExtraction] at ran success
  obtain ⟨archived, loaded, archive, afterArchive⟩ := exists_of_andThen_eq_ok success
  have loads := within_result.symm.trans (congrArg Prod.snd archive)
  rw [folder] at loads
  rw [afterArchive] at ran success
  obtain ⟨dispatched, job, dispatch, afterDispatch⟩ := exists_of_andThen_eq_ok success
  have total := total_of_dispatch (congrArg Prod.snd dispatch)
  rw [afterDispatch] at ran success
  obtain ⟨reloaded, output, reload, afterReload⟩ := exists_of_andThen_eq_ok success
  have length := length_of_archiveAndReload (within_result.symm.trans (congrArg Prod.snd reload))
  rw [afterReload] at ran success
  obtain ⟨finished, _, finish, afterFinish⟩ := exists_of_andThen_eq_ok success
  have video := video_of_finish (congrArg Prod.snd finish)
  rw [finish] at video
  rw [afterFinish] at ran success
  refine ⟨images, loaded, job, output, imagesFound, loads, total, (Except.ok.inj success).symm,
    length, ?_⟩
  rw [ran]
  exact video

end FrameCourier.Processing
