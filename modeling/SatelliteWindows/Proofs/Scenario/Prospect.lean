import SatelliteWindows.Proofs.Scenario.Lockstep

/-!
# What a moment has in store

While no time passes, it makes no difference who has its turn first, provided that no opening is
given up at that moment: alarms that go off find nothing to do, and the script takes its steps one
after the other, whatever happens in between. So it can be told beforehand how the moment will end:
with the script waiting for a later moment, or with the end of the run.

The runs are without interruption.
-/

namespace SatelliteWindows

/-! ## Playing steps through -/

/-- How a moment ends: with some steps left and a moment that the script waits for, or with the end
of the run. Nobody listens. -/
structure Prospect where
  /-- The coordinator, whose feed nobody has subscribed to. -/
  coordinator : Coordinator Simulation
  /-- The alarms that sleep then. -/
  alarms : List Timer
  /-- How large a window is when nothing else is said. -/
  defaultSize : Size
  /-- The steps that are left, the one at work first. -/
  steps : List Step := []
  /-- The moment that the script waits for. -/
  moment : Option Nat := none
  /-- Why a step has failed, if one has. -/
  reason : Option (Option (String × StepFault)) := none
  /-- What was counted, once the steps are over. -/
  metrics : Option Metrics := none
  /-- The satellites, once the steps are over. -/
  satellites : List SatelliteReport := []

namespace Prospect

/-- Serve a request; the alarm that is set sleeps. -/
def serve (req : Request) (x : Prospect) : Except Fault Answer × Prospect :=
  let (answer, c) := x.coordinator.serve req
  (answer, { x with coordinator := { c with timers := [] }, alarms := x.alarms ++ c.timers })

/-- Close all satellites and stop. -/
def stop (x : Prospect) : Prospect := { x with coordinator := x.coordinator.shutdown.2 }

/-- Look at the windows. -/
def conclude (metrics : Metrics) (x : Prospect) : Prospect :=
  let d := x.coordinator.scene.world
  { x with
    metrics := some metrics
    satellites := d.satellites.filterMap (Run.describeSatellite d) }

/-- End the run, given what was answered to the question for the counts. -/
def close (answer : Except Fault Answer) (x : Prospect) : Prospect :=
  match answer with
  | .ok (.metrics m) => (x.conclude m).stop
  | _ => x.stop

/-- Ask for the counts and end the run. -/
def finish (x : Prospect) : Prospect :=
  let (answer, x) := x.serve .metrics
  x.close answer

/-- A step has failed. -/
def fail (s : Step) (cause : StepFault) (x : Prospect) : Prospect :=
  { x with reason := some (some (s.action, cause)) }

/-- Change the desktop. -/
def alterDesktop (f : Simulation → Simulation) (x : Prospect) : Prospect :=
  let c := x.coordinator
  { x with coordinator := { c with scene := { c.scene with world := f c.scene.world } } }

/-- Take steps until one of them takes time. -/
def play : List Step → Prospect → Prospect
  | [], x => x.finish
  | s :: rest, x =>
    match s.deed x.defaultSize x.coordinator.scene.world with
    | .error cause => (x.fail s cause).finish
    | .ok (.ask req) =>
      match x.serve req with
      | (.ok _, x) => play rest x
      | (.error f, x) => (x.fail s (.refused f)).finish
    | .ok (.change f) => play rest (x.alterDesktop f)
    | .ok (.pause ms) =>
      if ms = 0 then play rest x
      else { x with steps := s :: rest, moment := some (x.coordinator.clock + delay ms) }

/-- Go on with the answer to the request of the step at work. -/
def resume (answer : Except Fault Answer) (l : List Step) (x : Prospect) : Prospect :=
  match l, answer with
  | [], _ => x.close answer
  | _ :: rest, .ok _ => x.play rest
  | s :: _, .error f => (x.fail s (.refused f)).finish

/-- The step at work makes its request. -/
def ask (req : Request) (l : List Step) (x : Prospect) : Prospect :=
  let (answer, x) := x.serve req
  x.resume answer l

/-- The step at work is over when its request is answered, or all is over when it is refused. -/
theorem ask_cons (req : Request) (s : Step) (rest : List Step) (x : Prospect) :
    x.ask req (s :: rest) =
      match x.serve req with
      | (.ok _, x) => play rest x
      | (.error f, x) => (x.fail s (.refused f)).finish := by
  unfold ask resume
  generalize x.serve req = served
  obtain ⟨answer, y⟩ := served
  cases answer <;> rfl

/-- What is left when the run ends. -/
def upshot (x : Prospect) : Upshot := ⟨x.coordinator.scene, x.reason, x.metrics, x.satellites⟩

/-- A coordinator that has stopped has stopped for good. -/
theorem stop_stop (x : Prospect) : x.stop.stop = x.stop := by
  unfold stop
  have hstopped : x.coordinator.shutdown.2.running = false := by
    cases hrunning : x.coordinator.running with
    | true => exact (Coordinator.shutdown_of_running hrunning).2.2.1
    | false => rw [Coordinator.shutdown_of_not_running hrunning, hrunning]
  dsimp only
  rw [Coordinator.shutdown_of_not_running hstopped]

/-- A pause of no length may be left out. -/
theorem play_wait_zero (l : List Step) (x : Prospect) : x.play (.wait 0 :: l) = x.play l := by
  rw [play]
  exact if_pos rfl

/-- A pause of some length is waited for. -/
theorem play_wait {ms : Nat} (hms : ms ≠ 0) (l : List Step) (x : Prospect) :
    x.play (.wait ms :: l) =
      { x with steps := .wait ms :: l, moment := some (x.coordinator.clock + delay ms) } := by
  rw [play]
  exact if_neg hms

/-! ### A later time -/

/-- The same, some time later. -/
def later (d : Nat) (x : Prospect) : Prospect :=
  { x with
    coordinator := x.coordinator.later d
    alarms := x.alarms.map (Timer.later d)
    moment := x.moment.map (· + d) }

variable {d : Nat}

/-- The same is answered and done some time later. -/
theorem serve_later (req : Request) (x : Prospect) :
    (x.later d).serve req = ((x.serve req).1, (x.serve req).2.later d) := by
  have hserve : (x.later d).coordinator.serve req =
      ((x.coordinator.serve req).1, (x.coordinator.serve req).2.later d) :=
    Coordinator.serve_later req x.coordinator
  unfold serve
  rw [hserve]
  refine Prod.ext rfl ((Prospect.mk.injEq ..).mpr ⟨rfl, ?_, rfl, rfl, rfl, rfl, rfl, rfl⟩)
  exact List.map_append.symm

/-- A coordinator stops some time later in the same way. -/
theorem stop_later (x : Prospect) : (x.later d).stop = x.stop.later d :=
  congrArg (fun c => { x.later d with coordinator := c }) (Coordinator.shutdown_later x.coordinator)

/-- Counts are taken some time later in the same way. -/
theorem close_later (answer : Except Fault Answer) (x : Prospect) :
    (x.later d).close answer = (x.close answer).later d := by
  unfold close
  split
  · exact stop_later (x.conclude _)
  · exact stop_later x

/-- So the script takes its leave some time later. -/
theorem finish_later (x : Prospect) : (x.later d).finish = x.finish.later d := by
  unfold finish
  rw [serve_later]
  exact close_later _ _

/-- It makes no difference to the steps at what time they are taken. -/
theorem play_later (l : List Step) (x : Prospect) : (x.later d).play l = (x.play l).later d := by
  induction l generalizing x with
  | nil => exact finish_later x
  | cons s rest ih =>
    have hdeed : s.deed (x.later d).defaultSize (x.later d).coordinator.scene.world =
        s.deed x.defaultSize x.coordinator.scene.world := rfl
    rw [play, play, hdeed]
    cases s.deed x.defaultSize x.coordinator.scene.world with
    | error cause => exact finish_later (x.fail s cause)
    | ok deed =>
      cases deed with
      | ask req =>
        dsimp only
        rw [serve_later]
        generalize x.serve req = served
        obtain ⟨answer, y⟩ := served
        cases answer with
        | ok a => exact ih y
        | error f => exact finish_later (y.fail s (.refused f))
      | change f => exact ih (x.alterDesktop f)
      | pause ms =>
        dsimp only
        split
        · exact ih x
        · have hmoment : (x.later d).coordinator.clock + delay ms =
              x.coordinator.clock + delay ms + d := Nat.add_right_comm _ _ _
          rw [hmoment]
          rfl

end Prospect

/-! ## A coordinator without a listener -/

namespace Coordinator

variable {σ : Type}

/-- The same coordinator, with nobody listening. -/
def mute (c : Coordinator σ) : Coordinator σ := { c with feed := { capacity := 0 } }

/-- A feed to which nobody listens keeps nothing. -/
theorem sendAll_silent {α : Type} (items : List α) :
    ({ capacity := 0 } : Feed α).sendAll items = { capacity := 0 } := by
  unfold Feed.sendAll
  induction items with
  | nil => rfl
  | cons a rest ih => exact ih

variable [Desktop σ]

/-- It makes no difference to the coordinator whether anybody listens. -/
theorem serve_mute (req : Request) (c : Coordinator σ) :
    c.mute.serve req = ((c.serve req).1, (c.serve req).2.mute) := by
  have hadvance : c.mute.advance (Scene.perform req) =
      ((c.advance (Scene.perform req)).1, (c.advance (Scene.perform req)).2.mute) := by
    unfold advance mute
    dsimp only
    rw [sendAll_silent]
  have harm : ∀ (answer : Except Fault Answer) (c : Coordinator σ),
      c.mute.arm req answer = (c.arm req answer).mute := fun answer c => by
    unfold arm
    have htimeout : c.mute.timeout = c.timeout := rfl
    rw [htimeout]
    split <;> rfl
  have hrunning : c.mute.running = c.running := rfl
  unfold serve
  rw [hrunning]
  split
  · rw [hadvance]
    dsimp only
    rw [harm]
  · rfl

/-- A coordinator to which nobody listens shuts down as any other. -/
theorem shutdown_mute (c : Coordinator σ) : c.mute.shutdown.2 = c.shutdown.2.mute := by
  have hrunning : c.mute.running = c.running := rfl
  unfold shutdown
  rw [hrunning]
  split
  · unfold advance mute
    dsimp only
    rw [sendAll_silent]
  · rfl

end Coordinator

/-! ## What is in store -/

/-- The request that the script has written a letter about. -/
def Letter.own? : Letter → Option Request
  | .request .script req => some req
  | _ => none

namespace Run

variable {capacity width slots : Nat} {p : Party} {r u : Run}

/-- The alarms that are to have a turn and will sleep. -/
def drowsy (r : Run) : List Timer :=
  (r.turns.queue.filterMap Party.timer?).filter fun t => r.clock < t.deadline

/-- A run as it is, seen from behind this moment. -/
def view (r : Run) : Prospect where
  coordinator := r.coordinator.mute
  alarms := r.alarms ++ r.drowsy
  defaultSize := r.script.defaultSize
  reason := r.script.fault.map RunFault.reason
  metrics := r.script.metrics
  satellites := r.script.satellites

/-- What the moment has in store for a run. -/
def prospect (r : Run) : Prospect :=
  match r.script.hold with
  | .free => r.view.play r.script.steps
  | .place req => r.view.ask req r.script.steps
  | .answer none =>
    match r.mailbox.letters.findSome? Letter.own? with
    | some req => r.view.ask req r.script.steps
    | none => r.view
  | .answer (some answer) => r.view.resume answer r.script.steps
  | .moment time =>
    if time ≤ r.clock then r.view.play r.script.steps.tail
    else { r.view with steps := r.script.steps, moment := some time }
  | .watcher | .farewell | .ending => r.view.stop

/-- Runs in which the coordinator, the alarms and the script's notes are the same look the same. -/
theorem view_congr (coordinator : u.coordinator.mute = r.coordinator.mute)
    (alarms : u.alarms ++ u.drowsy = r.alarms ++ r.drowsy)
    (script : ∃ hold, u.script = { r.script with hold := hold }) : u.view = r.view := by
  obtain ⟨hold, script⟩ := script
  unfold view
  rw [coordinator, alarms, script]

/-- It is enough to look at what is in view, and at the script and its letter. -/
theorem prospect_congr (view : u.view = r.view) (hold : u.script.hold = r.script.hold)
    (steps : u.script.steps = r.script.steps)
    (own : u.mailbox.letters.findSome? Letter.own? = r.mailbox.letters.findSome? Letter.own?) :
    u.prospect = r.prospect := by
  have hclock : u.clock = r.clock := congrArg (fun x => x.coordinator.clock) view
  unfold prospect
  rw [view, hold, steps, own, hclock]

/-! ### The script's turn -/

/-- Others are woken than alarms. -/
theorem queue_wake_timers {t : Turns} (hp : ∀ a, p ≠ .alarm a) :
    (t.wake p).queue.filterMap Party.timer? = t.queue.filterMap Party.timer? := by
  rw [Turns.queue_wake]
  split
  · rfl
  · rw [List.filterMap_append]
    cases p with
    | alarm a => exact absurd rfl (hp a)
    | _ => exact List.append_nil _

/-- Nothing that the script does concerns the alarms. -/
theorem persists_drowsy (alarms : List Timer) (timers : List Timer) :
    Persists fun u => u.alarms = alarms ∧ u.turns.queue.filterMap Party.timer? = timers where
  script _ h := h
  alterDesktop _ h := h
  send {u letter} _ h := by
    have hqueue : (u.turns.wake .coordinator).queue.filterMap Party.timer? =
        u.turns.queue.filterMap Party.timer? := queue_wake_timers nofun
    cases hplace : (u.mailbox.reserve .script).1 with
    | true =>
      rw [send_of_place hplace]
      exact ⟨h.1, hqueue.trans h.2⟩
    | false =>
      rw [send_of_full hplace]
      exact h
  rest h := h

/-- Alarms are the same if those that sleep and those that queue are. -/
theorem drowsy_congr (clock : u.clock = r.clock) (alarms : u.alarms = r.alarms)
    (queue : u.turns.queue.filterMap Party.timer? = r.turns.queue.filterMap Party.timer?) :
    u.alarms ++ u.drowsy = r.alarms ++ r.drowsy := by
  unfold drowsy
  rw [clock, alarms, queue]

/-- If no letter of the script is under way, none is found. -/
theorem findSome?_own_eq_none {letters : List Letter} (h : letters.filter Letter.isOwn = []) :
    letters.findSome? Letter.own? = none := by
  refine List.findSome?_eq_none_iff.mpr fun l hl => ?_
  have hother := List.filter_eq_nil_iff.mp h l hl
  cases l with
  | farewell => rfl
  | request sender req =>
    cases sender with
    | script => exact absurd rfl hother
    | _ => rfl

/-- What a script that halts sees of the run is the same. -/
theorem Halts.view_eq {letters : List Letter} {hold : Hold} (h : Halts letters hold r u)
    (drowsy : u.alarms = r.alarms ∧
      u.turns.queue.filterMap Party.timer? = r.turns.queue.filterMap Party.timer?) :
    u.view = r.view :=
  view_congr (congrArg Coordinator.mute h.coordinator)
    (drowsy_congr (congrArg Coordinator.clock h.coordinator) drowsy.1 drowsy.2) ⟨hold, h.script⟩

/-- What a script that makes a request has before it is what comes of the request. -/
theorem prospect_request (hnone : r.mailbox.letters.findSome? Letter.own? = none) (req : Request)
    (n : Nat) : (r.request req n).prospect = r.view.ask req r.script.steps := by
  obtain ⟨letters, hold, hhalts, hwhich⟩ := halts_request req n r
  have hview := hhalts.view_eq ((persists_drowsy _ _).request ⟨rfl, rfl⟩ req n)
  unfold prospect
  rw [hview, hhalts.script, hhalts.letters]
  rcases hwhich with ⟨-, rfl⟩ | ⟨rfl, rfl⟩
  · rfl
  · rw [List.findSome?_append, hnone]
    rfl

/-- A script that takes its leave sees the coordinator stop. -/
theorem prospect_of_leaving {letters : List Letter} {hold : Hold} (h : Halts letters hold r u)
    (hwhich : letters = [] ∧ (hold = .farewell ∨ hold = .watcher) ∨
      letters = [.farewell] ∧ hold = .ending)
    (drowsy : u.alarms = r.alarms ∧
      u.turns.queue.filterMap Party.timer? = r.turns.queue.filterMap Party.timer?) :
    u.prospect = r.view.stop := by
  have hview := h.view_eq drowsy
  unfold prospect
  rw [hview, h.script]
  rcases hwhich with ⟨-, rfl | rfl⟩ | ⟨-, rfl⟩ <;> rfl

/-- Only no time at all is put off for no time. -/
theorem delay_eq_zero {ms : Nat} : delay ms = 0 ↔ ms = 0 := by
  unfold delay longestDelay
  omega

/-- The script takes its steps. -/
theorem prospect_proceed (hnone : r.mailbox.letters.findSome? Letter.own? = none) (n : Nat)
    (l : List Step) : (r.proceed n l).prospect = r.view.play l := by
  induction l generalizing n r with
  | nil =>
    exact prospect_request (r := { r with script := { r.script with steps := [] } }) hnone _ _
  | cons s rest ih =>
    have hdeed : s.deed r.view.defaultSize r.view.coordinator.scene.world =
        s.deed r.script.defaultSize r.desktop := rfl
    rw [proceed_cons, Prospect.play, hdeed]
    dsimp only
    cases s.deed r.script.defaultSize r.desktop with
    | error cause =>
      exact prospect_request (r := { r with script := { r.script with steps := s :: rest } }.fail s
        cause) hnone _ _
    | ok deed =>
      cases deed with
      | ask req =>
        exact (prospect_request (r := { r with script := { r.script with steps := s :: rest } })
          hnone _ _).trans (Prospect.ask_cons req s rest r.view)
      | change f =>
        exact ih (r := ({ r with script := { r.script with steps := s :: rest } }.alterDesktop
          f).record s (s.outcome .done) rest) hnone n
      | pause ms =>
        have hpaused : ∀ u : Run, u.view = r.view → u.script.steps = s :: rest →
            u.script.hold = .moment (r.clock + delay ms) → u.prospect =
              if ms = 0 then r.view.play rest
              else { r.view with
                steps := s :: rest
                moment := some (r.view.coordinator.clock + delay ms) } := by
          intro u hview hsteps hhold
          have hclock : u.clock = r.clock := congrArg (fun x => x.coordinator.clock) hview
          have hzero : r.clock + delay ms ≤ r.clock ↔ ms = 0 := by
            rw [← delay_eq_zero]
            omega
          unfold prospect
          rw [hhold, hsteps, hview, hclock]
          simp only [hzero]
          rfl
        dsimp only
        cases n with
        | zero => exact hpaused _ rfl rfl rfl
        | succ n =>
          dsimp only
          by_cases hms : ms = 0
          · rw [if_pos hms, if_pos hms]
            exact ih (r := ({ r with script := { r.script with steps := s :: rest } }.hold
              (.moment (r.clock + delay ms))).record s (s.outcome .done) rest) hnone n
          · rw [if_neg hms]
            exact hpaused _ rfl rfl rfl

/-- When a step is finished the others lie before the script. -/
theorem prospect_finishStep (hnone : r.mailbox.letters.findSome? Letter.own? = none)
    {s : Step} {rest : List Step} (hsteps : r.script.steps = s :: rest) (answer : Answer) :
    (r.finishStep answer).prospect = r.view.play rest := by
  unfold finishStep
  rw [hsteps]
  exact prospect_proceed (r := r.record s (s.outcome answer) rest) hnone _ _

/-- A script that leaves has only the end before it. -/
theorem prospect_part (r : Run) : r.part.prospect = r.view.stop := by
  obtain ⟨letters, hold, hhalts, hwhich⟩ := halts_part r
  exact prospect_of_leaving hhalts hwhich ((persists_drowsy _ _).part ⟨rfl, rfl⟩)

/-- So has one that dismisses the watcher. -/
theorem prospect_dismiss (r : Run) : r.dismiss.part.prospect = r.view.stop := by
  rw [prospect_part]
  refine congrArg Prospect.stop ?_
  unfold dismiss
  split
  · rfl
  · refine view_congr rfl (drowsy_congr rfl rfl ?_) ⟨_, rfl⟩
    exact queue_wake_timers nofun

/-- When an answer has come, what comes of it lies before the script. -/
theorem prospect_resume (hnone : r.mailbox.letters.findSome? Letter.own? = none)
    (answer : Except Fault Answer) :
    (r.resume answer).prospect = r.view.resume answer r.script.steps := by
  unfold resume
  cases hsteps : r.script.steps with
  | nil =>
    cases answer with
    | error f => exact prospect_dismiss r
    | ok a =>
      cases a with
      | metrics m => exact prospect_dismiss (r.conclude m)
      | _ => exact prospect_dismiss r
  | cons s rest =>
    cases answer with
    | error f => exact prospect_request (r := r.fail s (.refused f)) hnone .metrics _
    | ok a => exact prospect_finishStep hnone hsteps a

/-- The script's turn changes nothing about what is in store. -/
theorem prospect_goOn {busy : Option Party} (h : Live capacity busy r) :
    r.goOn.prospect = r.prospect := by
  have hown := h.own
  have hnone : r.mailbox.letters.filter Letter.isOwn = [] →
      r.mailbox.letters.findSome? Letter.own? = none := findSome?_own_eq_none
  unfold goOn
  cases hhold : r.script.hold with
  | free =>
    rw [hhold] at hown
    dsimp only
    rw [prospect_proceed (hnone hown)]
    unfold prospect
    rw [hhold]
  | place req =>
    rw [hhold] at hown
    dsimp only
    rw [prospect_request (hnone hown)]
    unfold prospect
    rw [hhold]
  | answer given =>
    cases given with
    | none => rfl
    | some answer =>
      rw [hhold] at hown
      dsimp only
      rw [prospect_resume (hnone hown)]
      unfold prospect
      rw [hhold]
  | moment time =>
    rw [hhold] at hown
    dsimp only
    split
    · next htime =>
      cases hsteps : r.script.steps with
      | nil =>
        unfold finishStep
        rw [hsteps]
      | cons s rest =>
        rw [prospect_finishStep (hnone hown) hsteps]
        unfold prospect
        rw [hhold, hsteps]
        exact (if_pos htime).symm
    · rfl
  | watcher =>
    dsimp only
    rw [prospect_part]
    unfold prospect
    rw [hhold]
  -- whether it gets a place for its last letter does not matter for what is in store
  | farewell =>
    obtain ⟨letters, hold, hhalts, hwhich⟩ := halts_leave r
    refine (prospect_of_leaving hhalts (hwhich.imp (And.imp id .inl) id)
      ((persists_drowsy _ _).leave ⟨rfl, rfl⟩)).trans ?_
    unfold prospect
    rw [hhold]
  | ending => rfl

end Run

end SatelliteWindows
