import SatelliteWindows.Coordinator
import SatelliteWindows.Simulation

/-!
# Windows that call back

A window may call the coordinator when it is handed an event. The calls wait until the request at
hand is finished and are then served in a round, one after the other; serving them may hand further
events to windows, and the calls that come of that wait for the next round.

Rounds come to an end: every call that is served takes itself off the queue, and it adds no more
calls than it passes on events that were held back, since a satellite has one registered window at
most. So the calls that wait and the events that are held back bound the number of calls that are
ever served.
-/

namespace SatelliteWindows

/-- A desktop whose windows call back. The calls wait there until somebody takes them on. -/
class Switchboard (σ : Type) extends Desktop σ where
  /-- The calls that wait, oldest first. -/
  calls : σ → List Invocation
  /-- All calls that wait are taken on. -/
  hangUp : σ → σ

instance : Switchboard Simulation where
  calls := Simulation.calls
  hangUp d := { d with calls := [] }

namespace Coordinator

variable {σ : Type}

/-- Serve calls one after the other. -/
def serveCalls [Desktop σ] (calls : List Invocation) (c : Coordinator σ) :
    List (Except Fault Answer) × Coordinator σ :=
  c.serveAll (calls.map fun call => .invoke call.operation call.caller)

variable [Switchboard σ]

/-- The calls that wait. -/
def calls (c : Coordinator σ) : List Invocation := Switchboard.calls c.scene.world

/-- A coordinator that has taken on all calls that wait. -/
def hangUp (c : Coordinator σ) : Coordinator σ :=
  { c with scene := { c.scene with world := Switchboard.hangUp c.scene.world } }

/-- Serve the calls that wait. -/
def round (c : Coordinator σ) : List (Except Fault Answer) × Coordinator σ :=
  serveCalls c.calls c.hangUp

/-- Serve the calls that wait and those that come of it, in as many rounds as given at most. -/
def rounds : Nat → Coordinator σ → List (Except Fault Answer) × Coordinator σ
  | 0, c => ([], c)
  | n + 1, c =>
    if c.calls.isEmpty then ([], c)
    else
      let (answers, c) := c.round
      (rounds n c).map (answers ++ ·) id

/-- How many calls can come of those that wait now. -/
def cascadeBound (c : Coordinator σ) : Nat := c.calls.length + c.scene.fleet.backlog.total

/-- Serve calls until none waits. -/
def settle (c : Coordinator σ) : List (Except Fault Answer) × Coordinator σ :=
  rounds c.cascadeBound c

end Coordinator

end SatelliteWindows
