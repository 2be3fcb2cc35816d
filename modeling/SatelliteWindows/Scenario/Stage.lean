import SatelliteWindows.Mailbox
import SatelliteWindows.Scenario.Deed
import SatelliteWindows.Scenario.Party
import SatelliteWindows.Scenario.Report

/-!
# The stage of a run

The state of a run, and the turns of all parties but the script. Every party makes requests by
letter: it needs a place in the coordinator's mailbox, and waits for one when all are taken. The
coordinator serves the letters in their order. Serving takes no time; time passes when nobody has
anything to do.
-/

namespace SatelliteWindows

/-- What the watcher is at. -/
inductive Watch where
  /-- It waits for an interruption, or for a place for its letter. -/
  | watching
  /-- It waits for the answer to its letter. -/
  | awaiting
  /-- It has been answered. -/
  | answered
  /-- It is done. -/
  | over
  deriving DecidableEq, Repr

/-- The watcher. -/
structure Watcher where
  /-- When the run is interrupted, if it is. -/
  moment : Option Nat
  /-- What it is at. -/
  watch : Watch := .watching
  /-- Whether it has been dismissed. -/
  dismissed : Bool := false
  deriving DecidableEq, Repr

/-- What the script waits for. -/
inductive Hold where
  /-- Nothing. -/
  | free
  /-- A place for a letter. -/
  | place (request : Request)
  /-- The answer to its letter, which may be there. -/
  | answer (given : Option (Except Fault Answer))
  /-- A moment. -/
  | moment (time : Nat)
  /-- The end of the watcher. -/
  | watcher
  /-- A place for the last letter. -/
  | farewell
  /-- The end of the run. -/
  | ending

/-- The moment that is waited for, if it is a moment. -/
def Hold.moment? : Hold → Option Nat
  | .moment time => some time
  | _ => none

/-- The script. -/
structure Script where
  /-- How large a window is when nothing else is said. -/
  defaultSize : Size
  /-- The steps that were not finished, the one at work first. -/
  steps : List Step
  /-- What the other steps did. -/
  results : List StepResult := []
  /-- Why no more steps are taken, if one failed. -/
  fault : Option RunFault := none
  /-- What it waits for. -/
  hold : Hold := .free
  /-- What was counted, once the steps are over. -/
  metrics : Option Metrics := none
  /-- The satellites, once the steps are over. -/
  satellites : List SatelliteReport := []

/-- A run under way. -/
structure Run where
  /-- The coordinator with its desktop. -/
  coordinator : Coordinator Simulation
  /-- The letters for the coordinator. -/
  mailbox : Mailbox Party Letter
  /-- Who is to have a turn. -/
  turns : Turns
  /-- The alarms that sleep, in the order in which they will go off. -/
  alarms : List Timer := []
  /-- The number of the listener's subscription. -/
  listener : Nat
  /-- What the listener has read. -/
  collected : List Activity := []
  /-- Whether the listener has read everything that was ever to come. -/
  heardOut : Bool := false
  /-- The watcher. -/
  watcher : Watcher
  /-- The script. -/
  script : Script

namespace Run

/-- How many milliseconds have passed. -/
def clock (r : Run) : Nat := r.coordinator.clock

/-- The desktop. -/
def desktop (r : Run) : Simulation := r.coordinator.scene.world

/-- Change the desktop. -/
def alterDesktop (f : Simulation → Simulation) (r : Run) : Run :=
  let c := r.coordinator
  { r with coordinator := { c with scene := { c.scene with world := f c.scene.world } } }

/-- Wake a party. -/
def wake (p : Party) (r : Run) : Run := { r with turns := r.turns.wake p }

/-- Let a party rest. -/
def rest (p : Party) (r : Run) : Run := { r with turns := r.turns.rest p }

/-- Wake the party that a place in the mailbox went to, if there is one. -/
def grant (given : Option Party × Mailbox Party Letter) (r : Run) : Run :=
  let r := { r with mailbox := given.2 }
  match given.1 with
  | some p => r.wake p
  | none => r

/-- Send a letter, if there is a place for it; otherwise the sender waits for one. -/
def send (sender : Party) (letter : Letter) (r : Run) : Bool × Run :=
  match r.mailbox.reserve sender with
  | (true, mailbox) => (true, { r with mailbox := mailbox.put letter }.wake .coordinator)
  | (false, mailbox) => (false, { r with mailbox := mailbox })

/-! ### The coordinator -/

/-- Tell whoever made a request what it was answered with. Alarms do not listen. -/
def reply (sender : Party) (answer : Except Fault Answer) (r : Run) : Run :=
  match sender with
  | .script => { r with script := { r.script with hold := .answer (some answer) } }.wake .script
  | .watcher =>
    if r.watcher.watch = .awaiting then
      { r with watcher := { r.watcher with watch := .answered } }.wake .watcher
    else r
  | _ => r

/-- Serve a request: the listener is woken if there is news, and then the alarm that was set. -/
def serve (sender : Party) (request : Request) (r : Run) : Run :=
  let (answer, c) := r.coordinator.serve request
  let before := r.coordinator.feed.sent
  let r := { r with coordinator := { c with timers := [] } }
  let r := if before < c.feed.sent then r.wake .listener else r
  (c.timers.foldl (fun r t => r.wake (.alarm t)) r).reply sender answer

/-- Close all satellites and stop. -/
def stop (r : Run) : Run := { r with coordinator := r.coordinator.shutdown.2 }.wake .listener

/-- The coordinator's turn: serve letters, as many as are allowed. The place of a letter is given
away before it is served. -/
def work : Nat → Run → Run
  | 0, r => r.rest .coordinator
  | n + 1, r =>
    match r.mailbox.take? with
    | none => r
    | some (letter, mailbox) =>
      let r := r.grant mailbox.release
      match letter with
      | .request sender request => work n (r.serve sender request)
      | .farewell => r.stop

/-! ### The listener, the watcher and the alarms -/

/-- The listener's turn: read what there is, but no more than is allowed. -/
def listen (r : Run) : Run :=
  let (read, feed) := r.coordinator.feed.receiveSome Turns.allowance r.listener
  let read := read.getD []
  let r := { r with
    coordinator := { r.coordinator with feed := feed }
    collected := r.collected ++ Feed.itemsOf read }
  if read.length = Turns.allowance then r.rest .listener
  else { r with heardOut := !r.coordinator.running }

/-- Whether the moment of the interruption has come. -/
def isInterrupted (r : Run) : Bool :=
  match r.watcher.moment with
  | some moment => moment ≤ r.clock
  | none => false

/-- The watcher is done, and the script may go on. -/
def endWatch (r : Run) : Run :=
  { r with watcher := { r.watcher with watch := .over } }.wake .script

/-- The watcher's turn: close the main window when the run is interrupted. -/
def watch (r : Run) : Run :=
  if r.watcher.dismissed then (r.grant (r.mailbox.withdraw .watcher)).endWatch
  else match r.watcher.watch with
    | .watching =>
      if !r.isInterrupted then r
      else match r.send .watcher (.request .watcher .mainWindowClosed) with
        | (true, r) => { r with watcher := { r.watcher with watch := .awaiting } }
        | (false, r) => r
    | .answered => { r with watcher := { r.watcher with watch := .over } }
    | .awaiting | .over => r

/-- An alarm's turn: give up the opening when it is time to, and sleep until then. -/
def ring (t : Timer) (r : Run) : Run :=
  if t.deadline ≤ r.clock then
    (r.send (.alarm t) (.request (.alarm t) (.expire t.name t.generation))).2
  else { r with alarms := r.alarms ++ [t] }

end Run

end SatelliteWindows
