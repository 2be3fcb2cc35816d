import SatelliteWindows.Proofs.Scenario.Story

/-!
# How a script comes to its end

Since the script is the only one to ask for anything but that openings are given up, its counts and
its look at the windows are of one moment, and all that comes after that is its leave.

The run is one without interruption.
-/

namespace SatelliteWindows

namespace Run

open Occurrence

variable {s : Scenario} {first : Scene Simulation} {log more : List Occurrence} {past l : List Step}
  {r r' : Run}

/-! ## What the script does -/

/-- The script is at work, none of its letters is under way, and the others are those of alarms. -/
structure Poised (r : Run) : Prop where
  /-- The coordinator does not stop before the last letter. -/
  running : r.coordinator.running = true
  /-- No letter is under way. -/
  unsent : r.mailbox.letters.filter Letter.isOwn = []
  /-- Only alarms have written letters. -/
  others : ∀ sender req, .request sender req ∈ r.mailbox.letters → sender ≠ .script →
    req.givesUp = true

namespace Poised

variable {letters : List Letter} {hold : Hold}

/-- The script is poised as long as the coordinator and the mailbox are the same. -/
theorem alike (h : Poised r) (running : r'.coordinator.running = r.coordinator.running)
    (mailbox : r'.mailbox = r.mailbox) : Poised r' :=
  ⟨running.trans h.running, mailbox ▸ h.unsent, mailbox ▸ h.others⟩

/-- When the script halts, its letters are those that it has sent meanwhile. -/
theorem halts (h : Poised r) (hhalts : Halts letters hold r r')
    (hletters : ∀ l ∈ letters, l.isOwn = true) :
    (∀ sender req, .request sender req ∈ r'.mailbox.letters → sender ≠ .script →
      req.givesUp = true) ∧
    ∀ req, .request .script req ∈ r'.mailbox.letters → .request .script req ∈ letters := by
  rw [hhalts.letters]
  refine ⟨fun sender req hmem hsender => ?_, fun req hmem => ?_⟩
  · rcases List.mem_append.mp hmem with hbefore | hnew
    · exact h.others sender req hbefore hsender
    · have hforeign := hletters _ hnew
      cases sender with
      | script => exact absurd rfl hsender
      | _ => cases hforeign
  · refine (List.mem_append.mp hmem).resolve_left fun hbefore => ?_
    exact List.filter_eq_nil_iff.mp h.unsent _ hbefore rfl

/-- The step at work makes its request. -/
theorem ask (h : Poised r) {step : Step} {rest : List Step}
    (all : s.steps = past ++ step :: rest) (written : Written past r.script)
    (steps : r.script.steps = step :: rest) (req : Request) (n : Nat) :
    Story s first log (r.request req n) := by
  obtain ⟨letters, hold, hhalts, hwhich⟩ := halts_request req n r
  have hown : ∀ l ∈ letters, l.isOwn = true := fun l hl => eq_of_sent hwhich l hl ▸ rfl
  refine ⟨(h.halts hhalts hown).1, .steps past ?_ ?_ ?_⟩
  · rw [hhalts.script, steps]
    exact all
  · rw [hhalts.script]
    exact written
  · have hremain : r.script.steps ≠ [] := steps ▸ List.cons_ne_nil _ _
    rw [hhalts.script]
    rcases hwhich with ⟨-, rfl⟩ | ⟨-, rfl⟩ <;> exact hremain

/-- Once the steps are over the script asks for the counts. -/
theorem count (h : Poised r) (finished : r.script.steps = [])
    (written : r.script.fault = none → Written s.steps r.script) (n : Nat) :
    Story s first log (r.request .metrics n) := by
  obtain ⟨letters, hold, hhalts, hwhich⟩ := halts_request .metrics n r
  have hletters := eq_of_sent hwhich
  obtain ⟨hothers, hsent⟩ := h.halts hhalts fun l hl => hletters l hl ▸ rfl
  refine ⟨hothers, .asks ?_ ?_ ?_ fun req hreq => ?_⟩
  · rw [hhalts.script]
    exact finished
  · rw [hhalts.script]
    exact written
  · rw [hhalts.script]
    exact hwhich.imp And.right And.right
  · cases hletters _ (hsent req hreq)
    rfl

/-- Then it waits for the watcher and for the end. -/
theorem leave (h : Poised r) {before late : List (Move Simulation)} (finished : r.script.steps = [])
    (written : r.script.fault = none → Written s.steps r.script)
    (counted : Counted (moves log) before late [])
    (metrics : r.script.metrics = some (first.run before).fleet.metrics)
    (satellites : r.script.satellites = (first.run before).world.described)
    (hhalts : Halts letters hold r r')
    (hwhich : letters = [] ∧ (hold = .farewell ∨ hold = .watcher) ∨
      letters = [.farewell] ∧ hold = .ending) : Story s first log r' := by
  have hown : ∀ l ∈ letters, l.isOwn = true := fun l hl => eq_of_sent hwhich l hl ▸ rfl
  refine ⟨(h.halts hhalts hown).1, .parts before late ?_ ?_ ?_ ?_ ?_ ?_⟩
  · rw [hhalts.script]
    exact finished
  · rw [hhalts.script]
    exact written
  · rw [hhalts.coordinator, h.running]
    exact counted
  · rw [hhalts.script]
    rcases hwhich with ⟨-, rfl | rfl⟩ | ⟨-, rfl⟩ <;> rfl
  · rw [hhalts.script]
    exact metrics
  · rw [hhalts.script]
    exact satellites

/-- The script takes the steps that remain until there is something to wait for. -/
theorem proceed (n : Nat) (h : Poised r) (all : s.steps = past ++ l)
    (written : Written past r.script) : Story s first log (r.proceed n l) := by
  -- over the steps that remain: one that is taken at once is written down, any other ends the turn
  induction l generalizing n past r with
  | nil =>
    unfold Run.proceed
    refine count (r := { r with script := { r.script with steps := [] } }) (h.alike rfl rfl) rfl
      (fun _ => ?_) n
    rw [all, List.append_nil]
    exact written
  | cons step rest ih =>
    have hrest : s.steps = past ++ [step] ++ rest := by
      rw [all, List.append_assoc]
      rfl
    unfold Run.proceed
    dsimp only
    split
    · exact count (r := { r with script := { r.script with steps := step :: rest } }.fail step _)
        (h.alike rfl rfl) rfl (fun hnone => by cases hnone) n
    · exact ask (r := { r with script := { r.script with steps := step :: rest } })
        (h.alike rfl rfl) all written rfl _ n
    · exact ih n (h.alike rfl rfl) hrest (Written.record (r := Run.alterDesktop _
        { r with script := { r.script with steps := step :: rest } }) written step _ rest)
    · have hwaits : ∀ time, Story s first log
          ({ r with script := { r.script with steps := step :: rest } }.hold (.moment time)) :=
        fun time => ⟨h.others, .steps past all written (List.cons_ne_nil step rest)⟩
      split
      · exact (hwaits _).alike rfl rfl rfl
      · split
        · exact ih _ (h.alike rfl rfl) hrest (Written.record (r := Run.hold _
            { r with script := { r.script with steps := step :: rest } }) written step _ rest)
        · exact hwaits _

/-- When a step is finished it is written down, and the others are taken. -/
theorem finishStep (h : Poised r) (all : s.steps = past ++ r.script.steps)
    (written : Written past r.script) (remain : r.script.steps ≠ []) (answer : Answer) :
    Story s first log (r.finishStep answer) := by
  unfold Run.finishStep
  cases hsteps : r.script.steps with
  | nil => exact absurd hsteps remain
  | cons step rest =>
    have hrest : s.steps = past ++ [step] ++ rest := by
      rw [all, hsteps, List.append_assoc]
      rfl
    exact proceed (r := r.record step (step.outcome answer) rest) _ (h.alike rfl rfl) hrest
      (written.record step _ rest)

/-- The script goes on with the answer to what a step has asked for. -/
theorem resume (h : Poised r) (all : s.steps = past ++ r.script.steps)
    (written : Written past r.script) (remain : r.script.steps ≠ [])
    (answer : Except Fault Answer) : Story s first log (r.resume answer) := by
  have hfinished : ∀ a, Story s first log (r.finishStep a) := h.finishStep all written remain
  unfold Run.resume
  cases hsteps : r.script.steps with
  | nil => exact absurd hsteps remain
  | cons step rest =>
    cases answer with
    | ok a => exact hfinished a
    | error f =>
      exact count (r := r.fail step (.refused f)) (h.alike rfl rfl) rfl
        (fun hnone => by cases hnone) _

end Poised

/-- The desktop is still the one of the moment at which the counts were taken. -/
theorem Counted.world {before late : List (Move Simulation)}
    (h : Counted (Occurrence.moves log) before late []) (hlogged : Logged first log r) :
    r.desktop = (first.run before).world := by
  have hlapsed := Scene.lapsed_run h.late (first.run before)
  have hmoves : first.run (Occurrence.moves log) = (first.run before).run late := by
    rw [h.moves, List.append_nil, Scene.run_append]
    rfl
  unfold desktop
  rw [hlogged.scene, hmoves]
  exact hlapsed.world

namespace Story

variable {capacity : Nat}

/-- A script that is at work is poised. -/
theorem poised (h : Story s first log r) (hlive : Live capacity (some .script) r)
    (hhold : r.script.hold ≠ .ending) (hown : r.mailbox.letters.filter Letter.isOwn = []) :
    Poised r :=
  ⟨by
    by_contra hoff
    exact hhold (hlive.stopped (by simpa using hoff)), hown, h.others⟩

/-- The script's turn while there are steps. -/
theorem goOn_of_steps (h : Story s first log r) (hlive : Live capacity (some .script) r)
    (all : s.steps = past ++ r.script.steps) (written : Written past r.script)
    (hold : r.script.AtSteps) : Story s first (log ++ more) r.goOn := by
  have hown := hlive.own
  have hpoised := h.poised hlive
  have hstill : Story s first (log ++ more) r := ⟨h.others, .steps past all written hold⟩
  unfold Script.AtSteps at hold
  unfold Run.goOn
  cases hhold : r.script.hold with
  | free =>
    rw [hhold] at hown hpoised
    exact (hpoised nofun hown).proceed _ all written
  | place req =>
    rw [hhold] at hown hpoised hold
    obtain ⟨step, rest, hsteps⟩ := List.exists_cons_of_ne_nil hold
    exact (hpoised nofun hown).ask (hsteps ▸ all) written hsteps req _
  | answer given =>
    cases given with
    | none => exact hstill
    | some answer =>
      rw [hhold] at hown hpoised hold
      exact (hpoised nofun hown).resume all written hold answer
  | moment time =>
    rw [hhold] at hown hpoised hold
    dsimp only
    split
    · exact (hpoised nofun hown).finishStep all written hold .done
    · exact hstill
  | _ =>
    rw [hhold] at hold
    cases hold

/-- The script's turn. -/
theorem goOn (h : Story s first log r) (hlive : Live capacity (some .script) r)
    (hlogged : Logged first log r) : Story s first (log ++ r.goOnLog) r.goOn := by
  have hown := hlive.own
  have hpoised := h.poised hlive
  cases h.stage with
  | steps past all written hold => exact h.goOn_of_steps hlive all written hold
  -- it asks for the metrics, and when it has a place they are counted
  | asks finished written hold letters =>
    unfold goOnLog Run.goOn
    rcases hold with hhold | hhold
    · rw [hhold] at hown hpoised ⊢
      rw [List.append_nil]
      exact (hpoised nofun hown).count finished written _
    · rw [hhold, List.append_nil]
      exact h
  -- the metrics are there, so it writes the report down and takes its leave
  | told before late finished written counted hold =>
    rw [hold] at hown hpoised
    have hdescribed : (r.conclude (first.run before).fleet.metrics).script.satellites =
        (first.run before).world.described := by
      rw [← counted.world hlogged]
      rfl
    obtain ⟨letters, hold', hhalts, hwhich⟩ :=
      halts_dismiss (r.conclude (first.run before).fleet.metrics)
    have hparts : Story s first log (r.conclude (first.run before).fleet.metrics).dismiss.part :=
      Poised.leave (r := r.conclude (first.run before).fleet.metrics)
        ((hpoised nofun hown).alike rfl rfl) finished written counted rfl hdescribed hhalts hwhich
    unfold goOnLog Run.goOn
    rw [hold]
    unfold resumeLog finishLog resume
    rw [finished, List.append_nil]
    exact hparts
  | parts before late finished written counted hold metrics satellites =>
    unfold goOnLog Run.goOn
    cases hhold : r.script.hold with
    | watcher =>
      rw [hhold] at hown hpoised
      have hparting := hpoised nofun hown
      rw [hparting.running] at counted
      obtain ⟨letters, hold', hhalts, hwhich⟩ := halts_part r
      rw [List.append_nil]
      exact hparting.leave finished written counted metrics satellites hhalts hwhich
    | farewell =>
      rw [hhold] at hown hpoised
      have hparting := hpoised nofun hown
      rw [hparting.running] at counted
      obtain ⟨letters, hold', hhalts, hwhich⟩ := halts_leave r
      rw [List.append_nil]
      exact hparting.leave finished written counted metrics satellites hhalts
        (hwhich.imp (And.imp id .inl) id)
    | ending =>
      rw [List.append_nil]
      exact h
    | _ =>
      rw [hhold] at hold
      cases hold

end Story

/-! ## Rounds -/

/-- A run is live, its log tells what has happened, and it is known how far the script has come. -/
structure Account (capacity : Nat) (busy : Option Party) (s : Scenario) (first : Scene Simulation)
    (log : List Occurrence) (r : Run) : Prop where
  /-- Everything that is to be done is seen to. -/
  live : Live capacity busy r
  /-- What has happened. -/
  logged : Logged first log r
  /-- How far the script has come. -/
  story : Story s first log r

namespace Account

variable {capacity : Nat} {p : Party}

/-- The story goes on while the coordinator works. -/
theorem work (n : Nat) (h : Account capacity (some .coordinator) s first log r) :
    Story s first (log ++ r.workLog n) (r.work n) := by
  induction n generalizing log r with
  | zero => exact h.story.keep rfl rfl rfl rfl
  | succ n ih =>
    unfold workLog Run.work Mailbox.take?
    cases hletters : r.mailbox.letters with
    | nil => exact h.story.keep rfl rfl rfl rfl
    | cons letter rest =>
      have hgranted := h.logged.aside
        (aside_grant (Mailbox.release { r.mailbox with letters := rest }) r)
      cases letter with
      | request sender request =>
        dsimp only
        rw [← List.append_assoc]
        exact ih ⟨h.live.serve hletters, hgranted.serve sender request,
          h.story.serve h.live h.logged.scene hletters⟩
      | farewell => exact h.story.stop h.live hletters

/-- The account is kept in every turn. -/
theorem turn (h : Account capacity (some p) s first log r) (hpause : r.Pauses) :
    Account capacity none s first (log ++ r.turnLog p) (r.turn p) := by
  refine ⟨h.live.turn hpause, h.logged.turn p, ?_⟩
  cases p with
  | script => exact h.story.goOn h.live h.logged
  | coordinator => exact h.work _
  | listener => exact h.story.listen
  | watcher => exact h.story.watch h.live
  | alarm t => exact h.story.ring t

/-- Between two turns a script that waits for a moment has a step at work. -/
theorem pauses (h : Account capacity none s first log r) : r.Pauses := by
  rcases h.live.pause with hbusy | hpause
  · cases hbusy
  · exact hpause

/-- It is kept in several turns. -/
theorem takeTurns (h : Account capacity none s first log r) (n : Nat) :
    Account capacity none s first (log ++ r.takeTurnsLog n) (r.takeTurns n) := by
  induction n generalizing log r with
  | zero => exact (List.append_nil log).symm ▸ h
  | succ n ih =>
    unfold takeTurnsLog Run.takeTurns
    cases hqueue : r.turns.queue with
    | nil => exact (List.append_nil log).symm ▸ h
    | cons p rest =>
      have hpopped : Account capacity (some p) s first log
          { r with turns := { r.turns with queue := rest } } :=
        ⟨h.live.pop hqueue, h.logged.aside ⟨_, _, _, _, _, _, rfl⟩, h.story.alike rfl rfl rfl⟩
      dsimp only
      rw [← List.append_assoc]
      exact ih (hpopped.turn h.pauses)

/-- It is kept in a round. -/
theorem round (h : Account capacity none s first log r) :
    Account capacity none s first (log ++ r.roundLog) r.round := by
  have hscript : Account capacity none s first (log ++ if r.turns.scriptAwake then
      { r with turns := { r.turns with scriptAwake := false } }.goOnLog else []) r.scriptTurn := by
    unfold Run.scriptTurn
    split
    · have hcalm : Account capacity (some .script) s first log
          { r with turns := { r.turns with scriptAwake := false } } :=
        ⟨h.live.calm, h.logged.aside ⟨_, _, _, _, _, _, rfl⟩, h.story.alike rfl rfl rfl⟩
      exact hcalm.turn h.pauses
    · exact (List.append_nil log).symm ▸ h
  have hturns := hscript.takeTurns Turns.perRound
  rw [List.append_assoc] at hturns
  unfold Run.round
  dsimp only
  split
  · have hstory := hturns.story.passTime
    rw [List.append_nil] at hstory
    exact ⟨hturns.live.passTime, hturns.logged.aside (aside_passTime _), hstory⟩
  · exact ⟨hturns.live.wakeResting, hturns.logged.aside ⟨_, _, _, _, _, _, rfl⟩,
      hturns.story.alike rfl rfl rfl⟩

/-- It is kept in any number of rounds. -/
theorem rounds (h : Account capacity none s first log r) (n : Nat) :
    Account capacity none s first (log ++ r.roundsLog n) (r.rounds n) := by
  induction n generalizing log r with
  | zero => exact (List.append_nil log).symm ▸ h
  | succ n ih =>
    unfold roundsLog Run.rounds
    split
    · exact (List.append_nil log).symm ▸ h
    · rw [← List.append_assoc]
      exact ih h.round

end Account

end Run

end SatelliteWindows
