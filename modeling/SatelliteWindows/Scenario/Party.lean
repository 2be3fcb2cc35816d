import SatelliteWindows.Coordinator

/-!
# Who takes part in a run

A run of a scenario has several parties. The script takes the steps, the coordinator serves the
letters in its mailbox, the listener collects the activity, the watcher waits for an interruption,
and for every opening that may time out there is an alarm.

The parties take turns, in rounds. One that has something to do is woken and queues up; one that
has used up its allowance in a turn rests until the end of the round, which comes when nobody queues
any more, or when sixty-one turns have been taken. The script does not queue: if it is awake when a
round begins, it goes first.

This is one schedule of many. It is the one of an executor with a single thread, which runs one
party at a time, and of a virtual clock, which moves on only when nobody has anything to do; both
numbers are the executor's. On several threads, or by a clock on the wall, turns come in an order
that nobody can foretell. `Office` has the coordinator and its clients take their turns in any
order, and what holds there holds of every schedule.
-/

namespace SatelliteWindows

/-- Who takes part in a run. -/
inductive Party where
  /-- The one who takes the steps. -/
  | script
  /-- The one who serves requests. -/
  | coordinator
  /-- The one who collects the activity. -/
  | listener
  /-- The one who closes the main window when the run is interrupted. -/
  | watcher
  /-- The one who gives up an opening. -/
  | alarm (timer : Timer)
  deriving DecidableEq, Repr

/-- What the coordinator finds in its mailbox. -/
inductive Letter where
  /-- A request, and who made it. -/
  | request (sender : Party) (request : Request)
  /-- There will be no more requests. -/
  | farewell
  deriving DecidableEq

/-- Who is to have a turn. -/
structure Turns where
  /-- Those who queue, first come first. -/
  queue : List Party := []
  /-- Those who rest, last come first. -/
  resting : List Party := []
  /-- Whether the script is awake. -/
  scriptAwake : Bool := false
  deriving DecidableEq, Repr

namespace Turns

/-- How much a party may do in one turn: letters served, receipts read, or waits that were over. The
executor has a party that runs give way to the others after that many operations that would
otherwise not have made it wait. -/
def allowance : Nat := 128

/-- How many turns the parties take until the script is looked after again. The executor runs that
many of those who queue before it looks at what has woken since and at the one that it was started
with, which is the script. -/
def perRound : Nat := 61

/-- Wake a party; one that is to have a turn anyway is not disturbed. -/
def wake (p : Party) (t : Turns) : Turns :=
  if p = .script then { t with scriptAwake := true }
  else if p ∈ t.queue ∨ p ∈ t.resting then t
  else { t with queue := t.queue ++ [p] }

/-- Let a party rest. -/
def rest (p : Party) (t : Turns) : Turns := { t with resting := p :: t.resting }

/-- Wake all who rest. -/
def wakeResting (t : Turns) : Turns :=
  t.resting.foldl (fun t p => t.wake p) { t with resting := [] }

/-- Whether nobody is to have a turn. -/
def isQuiet (t : Turns) : Bool := t.queue.isEmpty && t.resting.isEmpty && !t.scriptAwake

end Turns

end SatelliteWindows
