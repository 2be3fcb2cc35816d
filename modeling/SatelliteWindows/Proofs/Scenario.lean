import SatelliteWindows.Proofs.Scenario.Course
import SatelliteWindows.Proofs.Scenario.Progress

/-!
# What becomes of a scenario

A scenario that is well formed and never denies openings does not lack a window: whichever step
needs one finds it. Its run takes all steps, unless one of them registers or closes a window that
is dead. This is so on all platforms and for all settings, whatever alarms go off in between.
-/

namespace SatelliteWindows

namespace Scenario

variable {s : Scenario}

/-- A scenario that passes the check has no flaw. -/
theorem flaw?_of_validate (h : s.validate = .ok ()) : s.flaw? = none := by
  unfold validate at h
  split at h
  · cases h
  · assumption

/-- A scenario without a flaw has none in its steps. -/
theorem stepsFlaw?_of_flaw? (h : s.flaw? = none) : stepsFlaw? 1 [] s.steps = none := by
  unfold flaw? at h
  split at h
  · cases h
  · exact h

/-- The report on a run in which no step has failed. -/
theorem run_of_completed {settings : Settings} {interruption : Option Nat} (hflaw : s.flaw? = none)
    (h : ((Run.start settings s interruption).rounds (Run.bound settings s)).script.fault = none) :
    ∃ report, s.run settings interruption = .ok report ∧ report.steps =
      ((Run.start settings s interruption).rounds (Run.bound settings s)).script.results := by
  unfold run
  rw [hflaw]
  dsimp only
  rw [h]
  exact ⟨_, rfl, rfl⟩

/-- A run in which a step fails ends with the fault. -/
theorem run_of_fault {settings : Settings} {interruption : Option Nat} {f : RunFault}
    (hflaw : s.flaw? = none)
    (h : ((Run.start settings s interruption).rounds (Run.bound settings s)).script.fault =
      some f) : s.run settings interruption = .error f := by
  unfold run
  rw [hflaw]
  dsimp only
  rw [h]

/-- How the run of a scenario ends that is not interrupted. -/
inductive Ends (settings : Settings) (s : Scenario) : Prop where
  /-- All steps were reached and taken, and reported in their order. -/
  | completed (report : Report) (run : s.run settings none = .ok report)
      (reached : (s.encounters settings none).map Prod.fst = s.steps)
      (results : report.steps.map (fun x => (x.action, x.target)) =
        s.steps.map fun s => (s.action, s.target?))
  /-- A step that registers or closes a window has found that its satellite's last window is dead,
  and no step behind it was reached. -/
  | closed (seen : List Encounter) (step : Step) (after : List Step) (name : String)
      (d : Simulation) (w : WindowId) (window : SimulatedWindow)
      (reached : s.encounters settings none = seen ++ [(step, d)])
      (steps : s.steps = seen.map Prod.fst ++ step :: after)
      (which : step = .register name ∨ step = .kill name)
      (latest : d.latest? name = some w) (found : d.window? w = some window)
      (dead : window.alive = false)
      (run : s.run settings none =
        .error (.failed (seen.length + 1) step.action (.alreadyClosed name)))

end Scenario

namespace Run

variable {s : Scenario} {seen : List Encounter} {r : Run}

/-- At the end the steps are over. -/
theorem Stands.verdict (h : Stands s seen r) (hhold : r.script.hold = .ending) :
    Verdict s seen r.script := by
  cases h with
  | fresh taken hold => cases hold.symm.trans hhold
  | step taken steps hat letters =>
    unfold AtStep at hat
    rw [hhold] at hat
    cases hat
  | ended verdict => exact verdict

/-- A run that is not interrupted comes to a verdict. -/
theorem verdict_run (settings : Settings) (hwell : Scenario.stepsFlaw? 1 [] s.steps = none)
    (hdeny : Step.denyOpens true ∉ s.steps) : Verdict s (s.encounters settings none)
      ((start settings s none).rounds (bound settings s)).script := by
  have hlive := live_rounds (bound settings s) (live_start settings s)
  have hoff := hlive.heardOut (heardOut_run settings s)
  have hknown := (known_start settings none hwell).rounds hdeny (bound settings s)
  rw [List.nil_append] at hknown
  unfold Scenario.encounters
  exact hknown.stands.verdict (hknown.stopped hoff)

end Run

namespace Scenario

variable {s : Scenario} {settings : Settings}

/-- The verdict is what is reported. -/
theorem ends_of_verdict (hflaw : s.flaw? = none) {seen : List Encounter}
    (hseen : s.encounters settings none = seen) (h : Run.Verdict s seen
      ((Run.start settings s none).rounds (Run.bound settings s)).script) : s.Ends settings := by
  cases h with
  | completed reached results fault =>
    obtain ⟨report, hrun, hreport⟩ := run_of_completed hflaw fault
    exact .completed report hrun (hseen ▸ reached) (hreport ▸ results)
  | closed steps which latest found dead _ fault =>
    exact .closed _ _ _ _ _ _ _ hseen steps which latest found dead (run_of_fault hflaw fault)

/-- A well-formed scenario that never denies openings cannot get stuck on a missing window: whenever
a run comes to a step that needs one, whether it is interrupted or not, it finds one of that
satellite. The run that is not interrupted takes all steps, or it fails at one that registers or
closes a window, since that is dead. -/
theorem ends_of_validate (settings : Settings) (s : Scenario) (hvalid : s.validate = .ok ())
    (hdeny : Step.denyOpens true ∉ s.steps) :
    (∀ interruption n, ∀ x ∈ (Run.start settings s interruption).roundsReaches n, x.Housed) ∧
      s.Ends settings := by
  have hflaw := flaw?_of_validate hvalid
  have hwell := stepsFlaw?_of_flaw? hflaw
  have hverdict := Run.verdict_run settings hwell hdeny
  refine ⟨fun interruption n => ?_, ends_of_verdict hflaw rfl hverdict⟩
  exact ((Run.known_start settings interruption hwell).rounds hdeny n).housed

/-- A scenario in which a window is to register after the user has closed it. -/
theorem ends_of_chart_killed :
    let s : Scenario := {
      name := "late"
      steps := [.openSatellite "chart" none none, .register "chart", .kill "chart",
        .register "chart"] }
    s.validate = .ok () ∧ Step.denyOpens true ∉ s.steps ∧
      (∀ interruption n, ∀ x ∈ (Run.start {} s interruption).roundsReaches n, x.Housed) ∧
        s.Ends {} := by
  intro s
  have hvalid : s.validate = .ok () := by decide +kernel
  have hdeny : Step.denyOpens true ∉ s.steps := by decide
  exact ⟨hvalid, hdeny, ends_of_validate {} s hvalid hdeny⟩

-- it fails at its last step
example : run {} { name := "late", steps := [.openSatellite "chart" none none, .register "chart",
      .kill "chart", .register "chart"] } none =
    .error (.failed 4 "register" (.alreadyClosed "chart")) :=
  run_of_fault (by decide +kernel) (by decide +kernel)

end Scenario

end SatelliteWindows
