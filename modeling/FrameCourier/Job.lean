import FrameCourier.Report

/-!
# Jobs

A job has one slot for each frame of a video, numbered like the frames from 1.  A slot is
written at most once, so what it holds is the outcome that came first, in whatever order
outcomes come.
-/

namespace FrameCourier

/-- What is known of one frame. -/
inductive Slot where
  | pending
  | completed (report : Report)
  /-- The attempt ended without a report. -/
  | failed (message : String)
  deriving DecidableEq, Repr

namespace Slot

def isPending : Slot → Bool
  | pending => true
  | _ => false

/-- Whether the service reported success. -/
def isSuccess : Slot → Bool
  | completed report => report.isSuccess
  | _ => false

/-- What an outcome leaves in a slot. -/
def ofOutcome : Except String Report → Slot
  | .ok report => completed report
  | .error message => failed message

/-- The annotated image that the slot holds. -/
def annotated? : Slot → Option Bytes
  | completed report => report.annotated
  | _ => none

end Slot

/-- How far a job is. -/
structure Progress where
  succeeded : Nat
  failed : Nat
  total : Nat
  deriving DecidableEq, Repr

namespace Progress

def attempted (progress : Progress) : Nat := progress.succeeded + progress.failed

def text (progress : Progress) : String :=
  toString progress.succeeded ++ "/" ++ toString progress.total

end Progress

/-- Why an outcome is not recorded. -/
inductive JobError where
  | outOfRange (index : UInt32) (total : Nat)
  | alreadyWritten (index : UInt32)
  deriving DecidableEq, Repr

def JobError.message : JobError → String
  | outOfRange index total =>
    "Frame " ++ toString index.toNat ++ " is outside the job (1..=" ++ toString total ++ ")"
  | alreadyWritten index => "Frame " ++ toString index.toNat ++ " already has a result"

/-- One slot for each frame. -/
structure Job where
  slots : List Slot
  deriving DecidableEq, Repr

namespace Job

/-- A job on as many frames as `total`, none of them attempted. -/
def fresh (total : Nat) : Job := ⟨List.replicate total .pending⟩

def total (job : Job) : Nat := job.slots.length

/-- The slot of a frame, if the job has it. -/
def slot? (job : Job) (index : UInt32) : Option Slot :=
  if index = 0 then none else job.slots[index.toNat - 1]?

/-- Writes an outcome into the slot of a frame. -/
def record (job : Job) (index : UInt32) (outcome : Except String Report) :
    Except JobError Job :=
  match job.slot? index with
  | none => .error (.outOfRange index job.total)
  | some .pending => .ok ⟨job.slots.set (index.toNat - 1) (.ofOutcome outcome)⟩
  | some _ => .error (.alreadyWritten index)

/-- Recording keeps the number of slots. -/
theorem total_record {job next : Job} {index : UInt32} {outcome : Except String Report}
    (success : job.record index outcome = .ok next) : next.total = job.total := by
  unfold record at success
  split at success
  · cases success
  · cases success
    simp [total]
  · cases success

/-- The frame of a recorded outcome was pending. -/
theorem slot?_eq_pending_of_record {job next : Job} {index : UInt32}
    {outcome : Except String Report} (success : job.record index outcome = .ok next) :
    job.slot? index = some .pending := by
  unfold record at success
  split at success
  · cases success
  · assumption
  · cases success

/-- The slots with their numbers. -/
def numbered (job : Job) : List (UInt32 × Slot) :=
  job.slots.mapIdx fun position slot => (UInt32.ofNat (position + 1), slot)

/-- A frame on which the service reported an error counts as failed, like one whose
connection was lost. -/
def progress (job : Job) : Progress :=
  let succeeded := job.slots.countP Slot.isSuccess
  let pending := job.slots.countP Slot.isPending
  ⟨succeeded, job.total - succeeded - pending, job.total⟩

/-- Whether every frame was attempted. -/
def isDone (job : Job) : Bool := job.slots.all fun slot => !slot.isPending

end Job

end FrameCourier
