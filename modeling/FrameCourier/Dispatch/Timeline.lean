import FrameCourier.Dispatch.Basic

/-!
# Dispatch on a clock

When every call takes a known time, a dispatch has one course.  What is awaited is kept
with the time at which it happens, and the earliest of it happens next.
-/

namespace FrameCourier.Dispatch

/-- A service with known outcomes: how many milliseconds the call for a frame takes, and
what it comes to. -/
abbrev Service := Frame → Nat × Outcome

/-- Something that happens to a call. -/
inductive Moment where
  | started (time : Nat) (index : UInt32)
  | ended (time : Nat) (index : UInt32)
  deriving DecidableEq, Repr

/-- The longest time that the clock lets pass at once: thirty years of 365 days. -/
def longestWait : Nat := 30 * 365 * 24 * 60 * 60 * 1000

/-- When the clock has let some milliseconds pass since `now`. -/
def after (now milliseconds : Nat) : Nat := now + min milliseconds longestWait

/-- When the dispatch hears of an act at the time `now`, and what. -/
def Act.due (service : Service) (now : Nat) : Act → Nat × Event
  | .call frame =>
    let (duration, outcome) := service frame
    (after now duration, .ended frame.index outcome)
  | .pause milliseconds => (after now milliseconds, .resumed)

/-- The calls that begin with acts. -/
def starts (now : Nat) (acts : List Act) : List Moment :=
  acts.filterMap fun
    | .call frame => some (.started now frame.index)
    | .pause _ => none

/-- What an event is on the clock. -/
def Event.moment? (time : Nat) : Event → Option Moment
  | .ended index _ => some (.ended time index)
  | .resumed => none

/-- The earliest of what is awaited, and the rest in its order. -/
def earliest? : List (Nat × Event) → Option ((Nat × Event) × List (Nat × Event))
  | [] => none
  | first :: rest =>
    match earliest? rest with
    | none => some (first, [])
    | some (other, others) =>
      if first.1 ≤ other.1 then some (first, rest) else some (other, first :: others)

/-- Lets up to `count` awaited events happen, the earliest first. -/
def elapse (service : Service) (count : Nat) (state : State) (awaited : List (Nat × Event)) :
    State × List Moment :=
  match count with
  | 0 => (state, [])
  | count + 1 =>
    match earliest? awaited with
    | none => (state, [])
    | some ((now, event), others) =>
      let (next, acts) := step state event
      let (last, moments) :=
        elapse service count next (others ++ acts.map (Act.due service now))
      (last, (event.moment? now).toList ++ starts now acts ++ moments)

/-- The dispatch of frames from its beginning to its end.  A frame has one call and, at
most, one pause after it. -/
def course (policy : Policy) (service : Service) (frames : List Frame) : State × List Moment :=
  let (state, acts) := start policy frames
  let (last, moments) :=
    elapse service (2 * frames.length) state (acts.map (Act.due service 0))
  (last, starts 0 acts ++ moments)

end FrameCourier.Dispatch
