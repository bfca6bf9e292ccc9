import FrameCourier.Client
import FrameCourier.Job

/-!
# Dispatch

The frames of a video go to the detection service in batches.  The calls of a batch are
under way together and may end in any order; the next batch begins when all of them have
ended.  One at a time, a failure is recorded and the job goes on; in larger batches a
failure ends the job once its batch has.

A dispatch is a machine: `launch` begins the calls of the next batch, `step` is told what
happened and says what is done next.  Nothing here knows in which order calls end or how
long they take.
-/

namespace FrameCourier

/-- How frames are put to the service. -/
inductive Policy where
  /-- One request at a time, with a pause of so many milliseconds between two. -/
  | sequential (pause : Nat)
  /-- Up to `size` requests at once, but at least one. -/
  | batched (size : Nat)
  deriving DecidableEq, Repr

def Policy.default : Policy := .batched 5

/-- Frames that are not numbered 1, 2, 3 and so on. -/
structure Misnumbered where
  expected : UInt32
  found : UInt32
  deriving DecidableEq, Repr

def Misnumbered.message (fault : Misnumbered) : String :=
  "Frames are not numbered 1..N: expected " ++ toString fault.expected.toNat ++ ", found " ++
    toString fault.found.toNat

/-- The first frame that does not have its place for a number, where the places begin with
`position`.  Places are counted like numbers, in 32 bits. -/
def misnumberedFrom? (position : Nat) : List Frame → Option Misnumbered
  | [] => none
  | frame :: rest =>
    let expected := UInt32.ofNat position
    if frame.index = expected then misnumberedFrom? (position + 1) rest
    else some ⟨expected, frame.index⟩

/-- The first frame that does not have its place for a number. -/
def misnumbered? (frames : List Frame) : Option Misnumbered := misnumberedFrom? 1 frames

namespace Dispatch

/-- What a call of the service comes to. -/
abbrev Outcome := Except Client.Error Report

/-- Why a dispatch ends without a complete job. -/
inductive Error where
  | misnumbered (fault : Misnumbered)
  | job (error : JobError)
  /-- The first failure of a batch in the order of its frames, and how far the job was when
  the batch had ended. -/
  | batchFailed (batch : Nat) (frame : UInt32) (progress : Progress) (source : Client.Error)
  deriving DecidableEq, Repr

namespace Error

def message : Error → String
  | misnumbered fault => fault.message
  | job error => "Job error: " ++ error.message
  | batchFailed batch frame progress source =>
    "Batch " ++ toString batch ++ " failed on frame " ++ toString frame.toNat ++ " (" ++
      progress.text ++ " succeeded): " ++ source.message

/-- The message and the messages of what it comes from, the nearest first. -/
def chain (error : Error) : List String :=
  match error with
  | misnumbered _ => [error.message]
  | job source => [error.message, source.message]
  | batchFailed _ _ _ source => error.message :: source.chain

end Error

/-- A list in batches of `size`, the last one perhaps smaller. -/
def batches {α : Type} (size : Nat) : List α → List (List α)
  | [] => []
  | first :: rest =>
    (first :: rest.take (size - 1)) :: batches size (rest.drop (size - 1))
termination_by items => items.length
decreasing_by
  simp only [List.length_drop, List.length_cons]
  omega

/-- The batches hold the list, in its order. -/
theorem flatten_batches {α : Type} (size : Nat) (items : List α) :
    (batches size items).flatten = items := by
  fun_induction batches size items with
  | case1 => rfl
  | case2 first rest ih => simp [ih]

/-- A batch is never empty. -/
theorem ne_nil_of_mem_batches {α : Type} {size : Nat} {items batch : List α}
    (member : batch ∈ batches size items) : batch ≠ [] := by
  fun_induction batches size items with
  | case1 => simp at member
  | case2 first rest ih =>
    rcases List.mem_cons.mp member with rfl | later
    · simp
    · exact ih later

/-- A batch is no longer than `size`, but one item is always a batch. -/
theorem length_le_of_mem_batches {α : Type} {size : Nat} {items batch : List α}
    (member : batch ∈ batches size items) : batch.length ≤ max 1 size := by
  fun_induction batches size items with
  | case1 => simp at member
  | case2 first rest ih =>
    rcases List.mem_cons.mp member with rfl | later
    · simp only [List.length_cons, List.length_take]
      omega
    · exact ih later

/-- The batches in which a policy puts frames. -/
def batchesOf : Policy → List Frame → List (List Frame)
  | .sequential _, frames => batches 1 frames
  | .batched size, frames => batches (max 1 size) frames

/-- What a dispatch does. -/
inductive Act where
  | call (frame : Frame)
  | pause (milliseconds : Nat)
  deriving DecidableEq, Repr

/-- What a dispatch is told. -/
inductive Event where
  /-- The call for the frame of the given number has ended. -/
  | ended (index : UInt32) (outcome : Outcome)
  /-- The pause is over. -/
  | resumed
  deriving Repr

/-- A call of the batch under way, with its outcome once it has ended. -/
structure Call where
  frame : Frame
  outcome : Option Outcome
  deriving Repr

/-- What is left to do when a batch has ended. -/
structure Agenda where
  policy : Policy
  /-- The number of batches that have begun. -/
  begun : Nat
  /-- The batches that have not begun. -/
  later : List (List Frame)
  /-- What has been recorded. -/
  job : Job
  deriving Repr

/-- The state of a dispatch. -/
inductive State where
  | calling (calls : List Call) (agenda : Agenda)
  | pausing (agenda : Agenda)
  | finished (result : Except Error Job)
  deriving Repr

/-- Begins the next batch, all its calls at once. -/
def launch (agenda : Agenda) : State × List Act :=
  match agenda.later with
  | [] => (.finished (.ok agenda.job), [])
  | batch :: later =>
    (.calling (batch.map fun frame => ⟨frame, none⟩)
      { agenda with begun := agenda.begun + 1, later := later }, batch.map .call)

/-- Begins the dispatch of frames. -/
def start (policy : Policy) (frames : List Frame) : State × List Act :=
  match misnumbered? frames with
  | some fault => (.finished (.error (.misnumbered fault)), [])
  | none => launch ⟨policy, 0, batchesOf policy frames, .fresh frames.length⟩

/-- Notes the outcome of the call for a frame, if that call is under way. -/
def note (index : UInt32) (outcome : Outcome) : List Call → List Call
  | [] => []
  | call :: rest =>
    if call.frame.index = index && call.outcome.isNone then ⟨call.frame, some outcome⟩ :: rest
    else call :: note index outcome rest

/-- The outcomes of a batch in the order of its frames, once every call has ended. -/
def outcomes? (calls : List Call) : Option (List (UInt32 × Outcome)) :=
  calls.mapM fun call => call.outcome.map fun outcome => (call.frame.index, outcome)

/-- Records outcomes one after the other. -/
def recordAll (job : Job) : List (UInt32 × Outcome) → Except JobError Job
  | [] => .ok job
  | (index, outcome) :: rest =>
    match job.record index (outcome.mapError Client.Error.message) with
    | .error error => .error error
    | .ok job => recordAll job rest

/-- The first failure among outcomes. -/
def firstFailure? : List (UInt32 × Outcome) → Option (UInt32 × Client.Error)
  | [] => none
  | (index, .error error) :: _ => some (index, error)
  | (_, .ok _) :: rest => firstFailure? rest

/-- What follows a batch whose outcomes are recorded. -/
def proceed (agenda : Agenda) (outcomes : List (UInt32 × Outcome)) : State × List Act :=
  match agenda.policy with
  | .sequential milliseconds =>
    if agenda.later.isEmpty then (.finished (.ok agenda.job), [])
    else (.pausing agenda, [.pause milliseconds])
  | .batched _ =>
    match firstFailure? outcomes with
    | some (index, error) =>
      (.finished (.error (.batchFailed agenda.begun index agenda.job.progress error)), [])
    | none => launch agenda

/-- Ends a batch. -/
def settle (agenda : Agenda) (outcomes : List (UInt32 × Outcome)) : State × List Act :=
  match recordAll agenda.job outcomes with
  | .error error => (.finished (.error (.job error)), [])
  | .ok job => proceed { agenda with job := job } outcomes

/-- What an event changes, and what is done then.  An event that nothing waits for changes
nothing. -/
def step (state : State) (event : Event) : State × List Act :=
  match state, event with
  | .calling calls agenda, .ended index outcome =>
    let calls := note index outcome calls
    match outcomes? calls with
    | none => (.calling calls agenda, [])
    | some outcomes => settle agenda outcomes
  | .pausing agenda, .resumed => launch agenda
  | state, _ => (state, [])

/-- The state after events, and all that was done on the way. -/
def run (state : State) : List Event → State × List Act
  | [] => (state, [])
  | event :: rest =>
    let (next, acts) := step state event
    let (last, later) := run next rest
    (last, acts ++ later)

/-- The numbers of the frames whose calls are under way. -/
def State.inFlight : State → List UInt32
  | calling calls _ =>
    (calls.filter fun call => call.outcome.isNone).map fun call => call.frame.index
  | _ => []

end Dispatch

end FrameCourier
