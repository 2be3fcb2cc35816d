import SatelliteWindows.Activity
import SatelliteWindows.Message
import SatelliteWindows.NameMap
import SatelliteWindows.Platform
import SatelliteWindows.Tally

/-!
# Reports

A report says what came of a scenario: what each step did, the windows as they were before the
coordinator was shut down, the activity up to its end, and the counts.
-/

namespace SatelliteWindows

/-- What one step did. -/
structure StepResult where
  /-- The number of the step, from one. -/
  index : Nat
  /-- What was to happen. -/
  action : String
  /-- The satellite it was about. -/
  target : Option String
  /-- What happened. -/
  outcome : String
  deriving DecidableEq, Repr

/-- The window last made for a satellite. -/
structure SatelliteReport where
  /-- The satellite. -/
  name : String
  /-- The window. -/
  window : String
  /-- Whether it is there. -/
  alive : Bool
  /-- How often content was loaded into it. -/
  loads : Nat
  /-- How often it was brought to the front. -/
  focused : Nat
  /-- The messages it took. -/
  inbox : List Message
  deriving DecidableEq

/-- What came of a scenario. -/
structure Report where
  /-- What the scenario is called. -/
  scenario : String
  /-- Where the main window ran. -/
  platform : Platform
  /-- What each step did. -/
  steps : List StepResult
  /-- The satellites in the order of their names. -/
  satellites : List SatelliteReport
  /-- What was reported. -/
  activities : List Activity
  /-- What was counted before the end. -/
  metrics : Metrics
  deriving DecidableEq

namespace StepResult

/-- The written form of a result; a target is left out when there is none. -/
def encode (r : StepResult) : Payload :=
  .record ([("index", .int r.index), ("action", .text r.action)]
    ++ (match r.target with
      | some name => [("target", .text name)]
      | none => [])
    ++ [("outcome", .text r.outcome)])

end StepResult

namespace SatelliteReport

/-- The written form of a satellite's report. -/
def encode (r : SatelliteReport) : Payload :=
  .record [("name", .text r.name), ("window-id", .text r.window), ("alive", .bool r.alive),
    ("loads", .int r.loads), ("focused", .int r.focused),
    ("inbox", .list (r.inbox.map Message.encode))]

end SatelliteReport

namespace Report

/-- The report on one satellite. -/
def satellite? (r : Report) (name : String) : Option SatelliteReport :=
  r.satellites.find? fun s => s.name == name

/-- The activity of one kind. -/
def ofKind (r : Report) (kind : String) : List Activity :=
  r.activities.filter fun a => a.kind == kind

/-- The windows that the report names, in order, with repetitions. -/
def windowsNamed (r : Report) : List String :=
  r.activities.filterMap Activity.window? ++ r.satellites.map SatelliteReport.window

/-- Names for the windows by the order in which the report first names them. -/
def windowLabels (r : Report) : NameMap String :=
  r.windowsNamed.foldl
    (fun labels w =>
      if labels.contains w then labels else labels.put w ("w" ++ toString labels.size))
    NameMap.empty

/-- The report with its windows numbered in the order in which it first names them, so that reports
of equal runs are equal. -/
def relabelled (r : Report) : Report :=
  let labels := r.windowLabels
  let rename w := (labels.get? w).getD w
  { r with
    activities := r.activities.map (Activity.renameWindow rename)
    satellites := r.satellites.map fun s => { s with window := rename s.window } }

/-- The written form of a report. -/
def encode (r : Report) : Payload :=
  .record [("scenario", .text r.scenario), ("platform", r.platform.encode),
    ("steps", .list (r.steps.map StepResult.encode)),
    ("satellites", .list (r.satellites.map SatelliteReport.encode)),
    ("events", .list (r.activities.map Activity.encode)), ("metrics", r.metrics.encode)]

end Report

end SatelliteWindows
