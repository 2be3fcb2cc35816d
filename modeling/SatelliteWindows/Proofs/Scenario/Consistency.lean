import SatelliteWindows.Proofs.Closing
import SatelliteWindows.Proofs.Scenario
import SatelliteWindows.Proofs.Scenario.Account
import SatelliteWindows.Proofs.Scenario.InOffice

/-!
# Reports are consistent with themselves

The parts of a report come from three parties at three moments: the coordinator counts when the
steps are over, the script looks at the windows when it is told the counts, and the listener goes on
to read until the coordinator has closed all satellites and stopped. They agree nevertheless,
because between the first of these moments and the last nothing happens but that openings are given
up and that all satellites are closed.
-/

namespace SatelliteWindows

namespace Scene

/-! ## Closing all satellites -/

/-- Windows are dealt with when they are closed one after the other. -/
theorem tended_closeWindows (ws : List WindowId) (s : Scene Simulation) :
    s.world.Tended (s.closeWindows ws).world := by
  induction ws generalizing s with
  | nil => exact .refl s.world
  | cons w rest ih => exact (Simulation.tended_close w s.world).trans (ih (s.closeWindow w).2)

/-- They are dealt with when all satellites are closed. -/
theorem tended_closeAll (s : Scene Simulation) : s.world.Tended s.closeAll.world :=
  tended_closeWindows (s.fleet.roster.entries.map Entry.window)
    (s.alter fun f => { f with roster := Roster.empty })

variable {σ : Type} [Desktop σ]

/-- Nothing is counted when all satellites are closed. -/
theorem tally_closeAll (s : Scene σ) : s.closeAll.fleet.tally = s.fleet.tally := by
  rw [fleet_closeAll]
  rfl

/-- It is reported how many satellites there were. -/
theorem activities_closeAll (s : Scene σ) : s.closeAll.journal.activities =
    s.journal.activities ++ [.allClosed s.fleet.roster.size] := by
  obtain ⟨news, hnews⟩ := journal_run [.request .closeAll] s
  have hjournal : s.closeAll.journal = s.journal ++ news := hnews.symm
  have hactivities := (allClosed_mainWindowClosed s).activities
  have hsame : s.mainWindowClosed.journal = s.journal ++ news := hjournal
  rw [hsame, List.drop_left] at hactivities
  rw [hjournal, Journal.activities_append, hactivities]

end Scene

/-! ## What a report says -/

/-- The activity of a kind is as much as there is of what it tells. -/
theorem Report.length_ofKind {α : Type} {kind : String} {f : Activity → Option α}
    (h : ∀ a : Activity, (a.kind == kind) = (f a).isSome) (report : Report) :
    (report.ofKind kind).length = (report.activities.filterMap f).length := by
  rw [Report.ofKind, ← List.countP_eq_length_filter, List.length_filterMap_eq_countP]
  exact List.countP_congr fun a _ => by rw [h a]

/-- What a report on a scenario says fits together, given the moves that were made in the run. -/
structure Report.Consistent (s : Scenario) (first : Scene Simulation)
    (moves before late : List (Move Simulation)) (report : Report) : Prop where
  /-- Each step is reported, in order, with its number, its action and its satellite. -/
  steps : report.steps.map StepResult.label = Step.labels s.steps
  /-- The counts were taken when the steps were over. Since then openings may have been given up,
  and at last all satellites were closed. -/
  counted : Run.Counted moves before late [.request .mainWindowClosed]
  /-- They are the counts of that moment. -/
  metrics : report.metrics = (first.run before).fleet.metrics
  /-- The satellites are reported in the order of their names, and none of them twice. -/
  increasing : (report.satellites.map SatelliteReport.name).Pairwise (· < ·)
  /-- They are those that a window was asked for at some time when the desktop was not denying. -/
  listed : ∀ name, name ∈ report.satellites.map SatelliteReport.name ↔
    name ∈ (first.along Scene.heeds moves).flatten.map OpenRequest.name
  /-- Every window that was asked for is reported. -/
  opensRequested : (report.ofKind "SatelliteOpening").length = report.metrics.tally.opensRequested
  /-- Every window that was brought to the front is reported. -/
  reactivations : (report.ofKind "SatelliteReactivated").length =
    report.metrics.tally.reactivations
  /-- Every message that a window did not take is reported. -/
  deliveriesFailed : (report.ofKind "DeliveryFailed").length =
    report.metrics.tally.deliveriesFailed
  /-- Every entry that was dropped is reported. -/
  deadEvicted : (report.ofKind "DeadWindowEvicted").length = report.metrics.tally.deadEvicted
  /-- Every opening that was given up is reported, besides those that were counted also those that
  were given up after that. -/
  openTimeouts : (report.ofKind "OpenTimedOut").length = report.metrics.tally.openTimeouts +
    ((first.run before).history late).countP Happening.isExpired
  /-- In the end all satellites that were registered when the counts were taken were closed. -/
  last : report.activities.getLast? = some (.allClosed report.metrics.active)

namespace Run

open Occurrence

variable {s : Scenario} {first : Scene Simulation} {log : List Occurrence} {r : Run}

/-! ## The end of a run -/

/-- What comes of a run in which the counts were taken and all satellites were closed. -/
theorem Counted.run_eq {moves before late : List (Move Simulation)}
    (h : Counted moves before late [.request .mainWindowClosed]) (first : Scene Simulation) :
    first.run moves = ((first.run before).run late).closeAll := by
  have hmetrics : ∀ t : Scene Simulation, t.run (.request .metrics ::
      (late ++ [.request .mainWindowClosed])) = t.run (late ++ [.request .mainWindowClosed]) :=
    fun _ => rfl
  rw [h.moves, Scene.run_append, hmetrics, Scene.run_append]
  rfl

/-- What the script has to report when everything has been heard. -/
theorem Account.ended {capacity : Nat} (h : Account capacity none s first log r)
    (hheard : r.heardOut = true) : ∃ before late,
      Counted (moves log) before late [.request .mainWindowClosed] ∧
      (r.script.fault = none → Written s.steps r.script) ∧
      r.script.metrics = some (first.run before).fleet.metrics ∧
      r.script.satellites = (first.run before).world.described := by
  have hoff := h.live.heardOut hheard
  obtain ⟨before, late, -, written, counted, metrics, satellites⟩ :=
    h.story.stage.of_ending (h.live.stopped hoff)
  rw [hoff] at counted
  exact ⟨before, late, counted, written, metrics, satellites⟩

/-- A listener that has read to the end and has lost nothing has collected everything. -/
theorem Logged.collected_all (h : Logged first log r) (hheard : r.heardOut = true)
    (hlossless : lagged log = false) :
    r.collected = (first.run (moves log)).journal.activities := by
  have hcollected := h.collected hlossless
  rw [(h.heardOut hheard).2, List.take_length] at hcollected
  rw [hcollected, h.scene]

end Run

/-- The parts of a report agree if they come from one run in which what was counted was reported:
the counts and the satellites from the moment when the steps were over, and the activity from the
end. -/
theorem Report.consistent_of_counted {s : Scenario} {first : Scene Simulation}
    {moves before late : List (Move Simulation)} {report : Report}
    (reports : (first.run moves).journal.Reports (first.run moves).fleet.tally)
    (lists : first.world.Lists []) (plain : ∀ m ∈ moves, m.IsPlain)
    (counted : Run.Counted moves before late [.request .mainWindowClosed])
    (steps : report.steps.map StepResult.label = Step.labels s.steps)
    (metrics : report.metrics = (first.run before).fleet.metrics)
    (satellites : report.satellites = (first.run before).world.described)
    (activities : report.activities = (first.run moves).journal.activities) :
    report.Consistent s first moves before late := by
  have hend := counted.run_eq first
  have hlapsed := Scene.lapsed_run counted.late (first.run before)
  have hlistsAll := Scene.lists_run lists plain
  have hplain : ∀ m ∈ before, m.IsPlain := fun m hm =>
    plain m (counted.moves ▸ List.mem_append_left _ hm)
  have hlistsBefore := Scene.lists_run lists hplain
  rw [List.nil_append] at hlistsAll hlistsBefore
  -- what is counted in the end differs by the openings that were given up meanwhile
  have htally : (first.run moves).fleet.tally = { report.metrics.tally with
      openTimeouts := report.metrics.tally.openTimeouts +
        ((first.run before).history late).countP Happening.isExpired } := by
    rw [hend, Scene.tally_closeAll, hlapsed.tally, metrics]
    rfl
  rw [htally] at reports
  have hnames : report.satellites.map SatelliteReport.name =
      (first.run before).world.satellites := by
    rw [satellites, hlistsBefore.map_name_described]
  have hlatest : (first.run moves).world.latest = (first.run before).world.latest := by
    rw [hend, (Scene.tended_closeAll _).latest, hlapsed.world]
  refine ⟨steps, counted, metrics, ?_, fun name => ?_, ?_, ?_, ?_, ?_, ?_, ?_⟩
  · rw [hnames]
    exact NameMap.sortedNames_pairwise _
  · rw [hnames, hlistsBefore.mem_satellites, ← hlistsBefore.listed, ← hlistsAll.listed,
      Simulation.latest?, Simulation.latest?, hlatest]
  · rw [Report.length_ofKind (f := Activity.opening?) (fun a => by cases a <;> rfl), activities]
    exact reports.opensRequested
  · rw [Report.length_ofKind (f := Activity.reactivated?) (fun a => by cases a <;> rfl), activities]
    exact reports.reactivations
  · rw [Report.length_ofKind (f := Activity.deliveryFailed?) (fun a => by cases a <;> rfl),
      activities]
    exact reports.deliveriesFailed
  · rw [Report.length_ofKind (f := Activity.evicted?) (fun a => by cases a <;> rfl), activities]
    exact reports.deadEvicted
  · rw [Report.length_ofKind (f := Activity.timedOut?) (fun a => by cases a <;> rfl), activities]
    exact reports.openTimeouts
  · rw [activities, hend, Scene.activities_closeAll, List.getLast?_concat, hlapsed.roster, metrics]
    rfl

namespace Scenario

open Occurrence

variable {s : Scenario} {settings : Settings}

/-- The scene in which a run begins. -/
def scene (settings : Settings) (s : Scenario) : Scene Simulation :=
  (Run.start settings s none).coordinator.scene

/-- What happens in a run. -/
def log (settings : Settings) (s : Scenario) : List Occurrence :=
  (Run.start settings s none).roundsLog (Run.bound settings s)

/-- The account is kept throughout a run that is not interrupted. -/
theorem account_run (settings : Settings) (s : Scenario) :
    Run.Account (max settings.coordinator.channelBuffer.toNat 1) none s (s.scene settings)
      (s.log settings) ((Run.start settings s none).rounds (Run.bound settings s)) := by
  have hfresh : Feed.Keeps [] ({ capacity := settings.coordinator.busCapacity.toNat } :
      Feed Activity) := ⟨rfl, List.drop_nil.symm⟩
  have hstart : Run.Account (max settings.coordinator.channelBuffer.toNat 1) none s
      (s.scene settings) [] (Run.start settings s none) :=
    ⟨Run.live_start settings s, ⟨rfl, hfresh.stands_subscribe, rfl, fun _ => rfl, nofun⟩,
      nofun, .steps [] rfl rfl trivial⟩
  have hrounds := hstart.rounds (Run.bound settings s)
  rw [List.nil_append] at hrounds
  exact hrounds

/-- What is reported when a run succeeds. -/
theorem report_of_run {report : Report} (h : s.run settings none = .ok report) {r : Run}
    (hr : (Run.start settings s none).rounds (Run.bound settings s) = r) :
    r.script.fault = none ∧ report = {
      scenario := s.name
      platform := s.platform.getD settings.platform
      steps := r.script.results
      satellites := r.script.satellites
      activities := r.collected
      metrics := r.script.metrics.getD r.coordinator.scene.fleet.metrics } := by
  unfold run at h
  dsimp only at h
  rw [hr] at h
  split at h
  · cases h
  · split at h
    · cases h
    · next hfault => exact ⟨hfault, (Except.ok.inj h).symm⟩

/-- The report on a run that is not interrupted is consistent with itself, if the run succeeds and
its listener is not told that it has lost something. The log that says so is that of the run: its
moves lead to the scene that the run ends with, and what the listener reads in it is the activity of
the report. -/
theorem report_consistent (settings : Settings) (s : Scenario) {report : Report}
    (hrun : s.run settings none = .ok report) (hheard : lagged (s.log settings) = false) :
    ((Run.start settings s none).rounds (Run.bound settings s)).coordinator.scene =
      (s.scene settings).run (moves (s.log settings)) ∧
    report.activities = Feed.itemsOf (readings (s.log settings)) ∧
    ∃ before late,
      report.Consistent s (s.scene settings) (moves (s.log settings)) before late := by
  have haccount := account_run settings s
  have hover := Run.heardOut_run settings s
  have hreports := Run.reports_rounds settings s none (Run.bound settings s)
  generalize hr : (Run.start settings s none).rounds (Run.bound settings s) = r at *
  obtain ⟨hfault, rfl⟩ := report_of_run hrun hr
  obtain ⟨before, late, counted, written, metrics, satellites⟩ := haccount.ended hover
  refine ⟨haccount.logged.scene, haccount.logged.read, before, late, ?_⟩
  dsimp only at hreports
  rw [haccount.logged.scene] at hreports
  refine Report.consistent_of_counted hreports (Simulation.lists_nil _)
    (Run.isPlain_roundsLog _ _) counted (written hfault) ?_ satellites
    (haccount.logged.collected_all hover hheard)
  dsimp only
  rw [metrics, Option.getD_some]

/-- A session in which nothing goes smoothly: a window is asked for that does not come up, a message
is not taken, a window dies, and two openings are given up. -/
def unevenSession : Scenario where
  name := "uneven"
  steps := [.openSatellite "map" none none, .openSatellite "chart" none none, .register "chart",
    .flush "chart", .openSatellite "chart" none none, .denyOpens true,
    .openSatellite "table" none none, .denyOpens false, .failDeliveries "chart" true,
    .dispatchEvent "tick" .null, .kill "chart", .dispatchEvent "tick" .null, .wait 6000,
    .register "map"]

/-- Its report is consistent: it is about the two satellites that windows came up for and not about
the third, and has the openings that were given up. -/
theorem report_of_unevenSession :
    let settings : Settings := { coordinator := { openTimeoutSecs := some 5 } }
    ∃ report, unevenSession.run settings none = .ok report ∧
      lagged (unevenSession.log settings) = false ∧
      (∃ before late, report.Consistent unevenSession (unevenSession.scene settings)
        (moves (unevenSession.log settings)) before late) ∧
      (∀ name, name ∈ report.satellites.map SatelliteReport.name ↔ name ∈ ["map", "chart"]) ∧
      (report.ofKind "OpenTimedOut").length = 2 ∧ report.metrics.tally.openTimeouts = 2 := by
  intro settings
  have hheard : lagged (unevenSession.log settings) = false := by decide +kernel
  have hheeded : ((unevenSession.scene settings).along Scene.heeds
      (moves (unevenSession.log settings))).flatten.map OpenRequest.name = ["map", "chart"] := by
    decide +kernel
  have hcounts : (unevenSession.run settings none).map (fun report =>
      ((report.ofKind "OpenTimedOut").length, report.metrics.tally.openTimeouts)) = .ok (2, 2) := by
    decide +kernel
  cases hrun : unevenSession.run settings none with
  | error f =>
    rw [hrun] at hcounts
    cases hcounts
  | ok report =>
    obtain ⟨-, -, before, late, hconsistent⟩ := report_consistent settings unevenSession hrun hheard
    have hlisted := hconsistent.listed
    rw [hheeded] at hlisted
    rw [hrun] at hcounts
    obtain ⟨hreported, hcounted⟩ := Prod.mk.inj (Except.ok.inj hcounts)
    exact ⟨report, rfl, hheard, ⟨before, late, hconsistent⟩, hlisted, hreported, hcounted⟩

-- an opening that is given up just when the last step is over is reported, but it is not counted
example :
    let late : Scenario := { name := "late", steps := [.openSatellite "map" none none, .wait 5000] }
    ((late.run { coordinator := { openTimeoutSecs := some 5 } } none).map fun report =>
      ((report.ofKind "OpenTimedOut").length, report.metrics.tally.openTimeouts)) = .ok (1, 0) := by
  decide +kernel

end Scenario

end SatelliteWindows
