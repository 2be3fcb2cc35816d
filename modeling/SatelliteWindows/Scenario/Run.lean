import SatelliteWindows.Scenario.Script

/-!
# Running scenarios

A scenario runs on a fresh simulated desktop, in rounds, on one thread and by a virtual clock. The
schedule is the one that `Party` describes, so a scenario and its settings determine the report.

In a round the script has its turn if it is awake, and then up to sixty-one turns are taken from the
queue. After that those who rest are woken; if nobody is to have a turn, time passes up to the next
moment that somebody waits for. The run is over when the coordinator has stopped and the listener
has read everything.

A run can be interrupted at a given moment, which closes the main window as if the user had. What
has been overwritten in the feed before the listener has its turn is lost to it.
-/

namespace SatelliteWindows

namespace Run

/-- A party's turn. -/
def turn : Party → Run → Run
  | .script, r => r.goOn
  | .coordinator, r => r.work Turns.allowance
  | .listener, r => r.listen
  | .watcher, r => r.watch
  | .alarm t, r => r.ring t

/-- Take turns from the queue, as many as given at most. -/
def takeTurns : Nat → Run → Run
  | 0, r => r
  | n + 1, r =>
    match r.turns.queue with
    | [] => r
    | p :: rest => takeTurns n ({ r with turns := { r.turns with queue := rest } }.turn p)

/-- The script's turn, if it is awake. -/
def scriptTurn (r : Run) : Run :=
  if r.turns.scriptAwake then
    { r with turns := { r.turns with scriptAwake := false } }.goOn
  else r

/-- The moments that somebody waits for. -/
def moments (r : Run) : List Nat :=
  (r.script.hold.moment?.toList ++ r.watcher.moment.toList
    ++ r.alarms.map Timer.deadline).filter (r.clock < ·)

/-- Wake those who waited for a moment: the script, the watcher, and then the alarms. -/
def wakeAt (time : Nat) (r : Run) : Run :=
  let r := if r.script.hold.moment? = some time then r.wake .script else r
  let r := if r.watcher.moment = some time then r.wake .watcher else r
  let (due, later) := r.alarms.partition fun t => t.deadline ≤ time
  due.foldl (fun r t => r.wake (.alarm t)) { r with alarms := later }

/-- Let time pass up to the next moment that somebody waits for. -/
def passTime (r : Run) : Run :=
  match r.moments.min? with
  | some time => { r with coordinator := { r.coordinator with clock := time } }.wakeAt time
  | none => r

/-- A round. -/
def round (r : Run) : Run :=
  let r := r.scriptTurn.takeTurns Turns.perRound
  if r.turns.isQuiet then r.passTime else { r with turns := r.turns.wakeResting }

/-- Rounds until the run is over, as many as given at most. -/
def rounds : Nat → Run → Run
  | 0, r => r
  | n + 1, r => if r.heardOut then r else rounds n r.round

/-- A run before its first round: all are to have a turn. -/
def start (settings : Settings) (s : Scenario) (interruption : Option Nat) : Run :=
  let c := Coordinator.start settings.coordinator (s.platform.getD settings.platform) s.session
    ({ screen := settings.screen } : Simulation)
  let (listener, feed) := c.feed.subscribe
  { coordinator := { c with feed := feed }
    mailbox := { free := max settings.coordinator.channelBuffer.toNat 1 }
    turns := { queue := [.coordinator, .listener, .watcher], scriptAwake := true }
    listener := listener
    watcher := { moment := interruption.map delay }
    script := { defaultSize := settings.defaultSize, steps := s.steps } }

/-- How many rounds a run takes at most. Each step takes a few, and so does its alarm; all the
others are for the listener, which never finds more to read than the feed keeps. -/
def bound (settings : Settings) (s : Scenario) : Nat :=
  let feed : Feed Activity := { capacity := settings.coordinator.busCapacity.toNat }
  8 * (feed.slots + 8) * (s.steps.length + 8)

end Run

namespace Scenario

/-- Run a scenario and report what came of it. -/
def run (settings : Settings) (s : Scenario) (interruption : Option Nat) :
    Except RunFault Report :=
  match s.flaw? with
  | some f => .error (.flawed f)
  | none =>
    let r := (Run.start settings s interruption).rounds (Run.bound settings s)
    match r.script.fault with
    | some f => .error f
    | none => .ok {
        scenario := s.name
        platform := s.platform.getD settings.platform
        steps := r.script.results
        satellites := r.script.satellites
        activities := r.collected
        metrics := r.script.metrics.getD r.coordinator.scene.fleet.metrics }

end Scenario

end SatelliteWindows
