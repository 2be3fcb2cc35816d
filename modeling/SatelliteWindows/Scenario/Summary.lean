import SatelliteWindows.Scenario.Report
import SatelliteWindows.Text.Columns

/-!
# Reports for readers

The summary of a report is set for a terminal: the steps, the satellites with the messages they
took, the problems, if there were any, and the counts.
-/

namespace SatelliteWindows

open Text

/-- A message in words. -/
def Message.describe : Message → String
  | .setSession _ => "session snapshot"
  | .setStartup params => "startup params " ++ params.render
  | .reactivated (some params) => "reactivated " ++ params.render
  | .reactivated none => "reactivated"
  | .pendingReactivate => "pending reactivate"
  | .event e => "event " ++ e.eventType ++ " " ++ e.data.render
  | .command id => "command " ++ id

namespace Report

variable (colour : Bool)

/-- The line of a step. -/
def stepLine (r : StepResult) : String :=
  "  " ++ alignRight 3 (toString r.index) ++ ". " ++ paint colour .yellow 20 r.action ++ " "
    ++ alignLeft 12 (r.target.getD "") ++ " " ++ paint colour .dimmed 0 r.outcome

/-- The lines of a satellite. -/
def satelliteLines (s : SatelliteReport) : List String :=
  let state := if s.alive then paint colour .green 0 "open" else paint colour .red 0 "closed"
  ("  " ++ paint colour .cyan 0 s.name ++ " [" ++ state ++ "] loads=" ++ toString s.loads
    ++ " focused=" ++ toString s.focused)
  :: s.inbox.map fun m => "    " ++ paint colour .dimmed 0 "←" ++ " " ++ m.describe

/-- Whether an activity is a problem. -/
def isProblem : Activity → Bool
  | .deliveryFailed .. | .openTimedOut .. => true
  | _ => false

/-- The lines of the problems. -/
def problemLines (activities : List Activity) : List String :=
  let problems := activities.filter isProblem
  if problems.isEmpty then []
  else
    [paint colour .bold 0 "Problems"]
      ++ problems.map (fun a =>
        "  " ++ paint colour .red 0 "✗" ++ " " ++ a.kind ++ " " ++ a.subject)
      ++ [""]

/-- The lines of the counts. -/
def tallyLines (t : Tally) : List String :=
  ["  Opens requested:      " ++ toString t.opensRequested,
    "  Reactivations:        " ++ toString t.reactivations,
    "  Events dispatched:    " ++ toString t.eventsDispatched,
    "  Events buffered:      " ++ toString t.eventsBuffered,
    "  Commands dispatched:  " ++ toString t.commandsDispatched,
    "  Commands dropped:     " ++ toString t.commandsDropped,
    "  Deliveries failed:    " ++ toString t.deliveriesFailed,
    "  Dead windows evicted: " ++ toString t.deadEvicted,
    "  Open timeouts:        " ++ toString t.openTimeouts]

/-- The lines of the summary. -/
def summaryLines (r : Report) : List String :=
  ["Scenario: " ++ paint colour .cyan 0 r.scenario, "", paint colour .bold 0 "Steps"]
    ++ r.steps.map (stepLine colour)
    ++ ["", paint colour .bold 0 "Satellites"]
    ++ (if r.satellites.isEmpty then ["  No satellite windows were created"] else [])
    ++ r.satellites.flatMap (satelliteLines colour)
    ++ [""]
    ++ problemLines colour r.activities
    ++ [paint colour .bold 0 "Metrics"]
    ++ tallyLines r.metrics.tally

/-- The summary of a report, each line ended by a line feed. -/
def summary (r : Report) : String := String.join ((r.summaryLines colour).map (· ++ "\n"))

end Report

end SatelliteWindows
