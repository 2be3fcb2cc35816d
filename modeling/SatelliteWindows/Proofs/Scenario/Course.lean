import SatelliteWindows.Proofs.Scenario.Encounters

/-!
# The course of a script

Turn by turn a script gets from one step to the next. What is known of it is kept by its own turns
as by those of the others, and therefore by all rounds of a run.

The scenario is one that is well formed and that never denies openings.
-/

namespace SatelliteWindows

namespace Run

variable {s : Scenario} {seen : List Encounter} {past rest l : List Step} {step : Step}
  {r r' : Run}

/-! ## From step to step -/

/-- A step that has seen to the windows it opens is taken. -/
theorem Taken.record (h : Taken s seen past (step :: rest) r) (d : Simulation) (outcome : String)
    (windows : ∀ name ∈ step.opening (Step.openedBy past), r.desktop.HasWindow name) :
    Taken s (seen ++ [(step, d)]) (past ++ [step]) rest (r.record step outcome rest) where
  steps := by rw [h.steps, List.append_assoc, List.singleton_append]
  wellFormed := by
    rw [Step.openedBy_concat, List.length_append, List.length_singleton]
    exact (Scenario.stepsFlaw?_cons h.wellFormed).2
  reached := by rw [List.map_append, h.reached, List.map_singleton]
  results := by
    show (r.script.results ++ [_]).map _ = _
    rw [List.map_append, List.map_append, h.results]
    rfl
  fault := h.fault
  windows name hname := windows name (Step.openedBy_concat past step ▸ hname)
  ready := h.ready

/-- A step that finds a dead window fails, and its number is that of the steps reached. -/
theorem Taken.verdict_fail (h : Taken s seen past (step :: rest) r) {name : String}
    {d : Simulation} {w : WindowId} {window : SimulatedWindow}
    (which : step = .register name ∨ step = .kill name) (latest : d.latest? name = some w)
    (found : d.window? w = some window) (dead : window.alive = false) :
    Verdict s (seen ++ [(step, d)]) (r.fail step (.alreadyClosed name)).script := by
  have hsteps : s.steps = seen.map Prod.fst ++ step :: rest := by
    rw [h.reached]
    exact h.steps
  have hcount : r.script.results.length = seen.length := by
    have hresults := congrArg List.length h.results
    have hreached := congrArg List.length h.reached
    simp only [List.length_map] at hresults hreached
    omega
  refine .closed hsteps which latest found dead ?_ ?_
  · rw [h.reached]
    exact h.results
  · rw [← hcount]
    rfl

/-- A step that needs a window finds one. -/
theorem Taken.housed (h : Taken s seen past (step :: rest) r) :
    Encounter.Housed (step, r.desktop) := fun hneeds => by
  obtain ⟨name, hname, hopened⟩ := (Scenario.stepsFlaw?_cons h.wellFormed).1 hneeds
  exact ⟨name, hname, h.windows name hopened⟩

/-- The script is at work, and none of its letters is under way. -/
structure Silent (r : Run) : Prop where
  /-- The coordinator does not stop before the last letter. -/
  running : r.coordinator.running = true
  /-- No letter is under way. -/
  unsent : r.mailbox.letters.filter Letter.isOwn = []
  /-- Only alarms and the watcher have written letters. -/
  others : ∀ sender req, .request sender req ∈ r.mailbox.letters → sender ≠ .script →
    req.givesUp = true ∨ req = .mainWindowClosed

/-- A script that is at work has no letter under way. -/
theorem Known.silent (h : Known s seen r) (hhold : r.script.hold ≠ .ending)
    (hown : r.mailbox.letters.filter Letter.isOwn = []) : Silent r :=
  ⟨by
    by_contra hoff
    exact hhold (h.stopped (by simpa using hoff)), hown, h.others⟩

namespace Silent

variable {letters : List Letter} {hold : Hold}

/-- That is so as long as the coordinator and the mailbox are the same. -/
theorem alike (h : Silent r) (running : r'.coordinator.running = r.coordinator.running)
    (mailbox : r'.mailbox = r.mailbox) : Silent r' :=
  ⟨running.trans h.running, mailbox ▸ h.unsent, mailbox ▸ h.others⟩

/-- None of the script's letters is in the mailbox but those that it sends. -/
theorem sent (h : Silent r) (hhalts : Halts letters hold r r') {req : Request}
    (hmem : .request .script req ∈ r'.mailbox.letters) : .request .script req ∈ letters := by
  rw [hhalts.letters] at hmem
  refine (List.mem_append.mp hmem).resolve_left fun hbefore => ?_
  exact List.filter_eq_nil_iff.mp h.unsent _ hbefore rfl

/-- The script waits, and what it has written is what it waits for. -/
theorem known (h : Silent r) (hhalts : Halts letters hold r r') (stands : Stands s seen r')
    (housed : ∀ x ∈ seen, x.Housed) (hletters : ∀ l ∈ letters, l.isOwn = true)
    (own : hold.Owns true letters) : Known s seen r' := by
  refine ⟨stands, housed, fun sender req hmem hsender => ?_, ?_, fun hoff => ?_⟩
  · rw [hhalts.letters] at hmem
    rcases List.mem_append.mp hmem with hbefore | hnew
    · exact h.others sender req hbefore hsender
    · have hforeign := hletters _ hnew
      cases sender with
      | script => exact absurd rfl hsender
      | _ => cases hforeign
  · rw [hhalts.script, hhalts.coordinator, hhalts.letters, h.running, List.filter_append, h.unsent,
      List.filter_eq_self.mpr hletters]
    exact own
  · rw [hhalts.coordinator, h.running] at hoff
    cases hoff

end Silent

/-- Nothing more is seen when no step is reached. -/
theorem Known.still (h : Known s seen r) : Known s (seen ++ []) r :=
  (List.append_nil seen).symm ▸ h

/-- What is seen when one more step is reached. -/
theorem housed_concat (housed : ∀ x ∈ seen, x.Housed) {x : Encounter} (hx : x.Housed) :
    ∀ y ∈ seen ++ [x], y.Housed := fun y hy => by
  rcases List.mem_append.mp hy with hy | hy
  · exact housed y hy
  · rw [List.mem_singleton.mp hy]
    exact hx

/-- The step at work makes its request. -/
theorem known_ask (taken : Taken s seen past (step :: rest) r) (silent : Silent r)
    {d : Simulation} (housed : ∀ x ∈ seen ++ [(step, d)], x.Housed)
    (steps : r.script.steps = step :: rest) {req : Request} (asks : step.Asks req) (n : Nat) :
    Known s (seen ++ [(step, d)]) (r.request req n) := by
  obtain ⟨letters, hold, hhalts, hwhich⟩ := halts_request req n r
  have hletters := eq_of_sent hwhich
  have htaken : Taken s seen past (step :: rest) (r.request req n) := by
    refine taken.grow (by rw [hhalts.script]) (by rw [hhalts.script]) ?_
      (hhalts.coordinator ▸ taken.ready)
    unfold desktop
    rw [hhalts.coordinator]
    exact .refl _
  refine silent.known hhalts (.step htaken ?_ ?_ fun req' hmem => ?_) housed
    (fun l hl => hletters l hl ▸ rfl) ?_
  · rw [hhalts.script]
    exact steps
  · unfold AtStep
    rw [hhalts.script]
    rcases hwhich with ⟨-, rfl⟩ | ⟨-, rfl⟩
    · exact asks
    · trivial
  · cases hletters _ (silent.sent hhalts hmem)
    exact asks
  · rcases hwhich with ⟨rfl, rfl⟩ | ⟨rfl, rfl⟩
    · rfl
    · exact ⟨req, rfl⟩

/-- The step at work lets time pass. -/
theorem known_pause {ms : Nat} (taken : Taken s seen past (.wait ms :: rest) r)
    (silent : Silent r) {d : Simulation} (housed : ∀ x ∈ seen ++ [(.wait ms, d)], x.Housed)
    (steps : r.script.steps = .wait ms :: rest) (time : Nat) :
    Known s (seen ++ [(.wait ms, d)]) (r.hold (.moment time)) := by
  have hheld : Taken s seen past (.wait ms :: rest) (r.hold (.moment time)) :=
    taken.grow rfl rfl (.refl _) taken.ready
  have hhalts : Halts [] (.moment time) r (r.hold (.moment time)) :=
    ⟨rfl, rfl, (List.append_nil _).symm⟩
  refine silent.known hhalts (.step hheld steps ⟨ms, rfl⟩ fun req hmem => ?_) housed nofun rfl
  cases silent.sent hhalts hmem

/-- Once the steps are over the script asks for the counts. -/
theorem known_metrics (verdict : Verdict s seen r.script) (silent : Silent r)
    (housed : ∀ x ∈ seen, x.Housed) (steps : r.script.steps = []) (n : Nat) :
    Known s seen (r.request .metrics n) := by
  obtain ⟨letters, hold, hhalts, hwhich⟩ := halts_request .metrics n r
  have hletters := eq_of_sent hwhich
  refine silent.known hhalts (.ended ?_ ?_ ?_ fun req hmem => ?_) housed
    (fun l hl => hletters l hl ▸ rfl) ?_
  · rw [hhalts.script]
    exact verdict.keep rfl rfl
  · rw [hhalts.script]
    exact steps
  · unfold AtEnd
    rw [hhalts.script]
    rcases hwhich with ⟨-, rfl⟩ | ⟨-, rfl⟩
    · rfl
    · trivial
  · cases hletters _ (silent.sent hhalts hmem)
    rfl
  · rcases hwhich with ⟨rfl, rfl⟩ | ⟨rfl, rfl⟩
    · rfl
    · exact ⟨.metrics, rfl⟩

/-- Then it waits for the watcher and for the end. -/
theorem known_farewell (verdict : Verdict s seen r.script) (silent : Silent r)
    (housed : ∀ x ∈ seen, x.Housed) (steps : r.script.steps = []) {letters : List Letter}
    {hold : Hold} (hhalts : Halts letters hold r r')
    (hwhich : letters = [] ∧ (hold = .farewell ∨ hold = .watcher) ∨
      letters = [.farewell] ∧ hold = .ending) : Known s seen r' := by
  have hletters := eq_of_sent hwhich
  refine silent.known hhalts (.ended ?_ ?_ ?_ fun req hmem => ?_) housed
    (fun l hl => hletters l hl ▸ rfl) ?_
  · rw [hhalts.script]
    exact verdict.keep rfl rfl
  · rw [hhalts.script]
    exact steps
  · unfold AtEnd
    rw [hhalts.script]
    rcases hwhich with ⟨-, rfl | rfl⟩ | ⟨-, rfl⟩ <;> trivial
  · cases hletters _ (silent.sent hhalts hmem)
  · rcases hwhich with ⟨rfl, rfl | rfl⟩ | ⟨rfl, rfl⟩ <;> rfl

/-- The counts have come. -/
theorem known_resume (verdict : Verdict s seen r.script) (silent : Silent r)
    (housed : ∀ x ∈ seen, x.Housed) (steps : r.script.steps = [])
    (answer : Except Fault Answer) : Known s seen (r.resume answer) := by
  have hends : Known s seen r.dismiss.part := by
    obtain ⟨letters, hold, hhalts, hwhich⟩ := halts_dismiss r
    exact known_farewell verdict silent housed steps hhalts hwhich
  unfold resume
  rw [steps]
  cases answer with
  | error f => exact hends
  | ok a =>
    cases a with
    | metrics m =>
      obtain ⟨letters, hold, hhalts, hwhich⟩ := halts_dismiss (r.conclude m)
      exact known_farewell (r := r.conclude m) (verdict.keep rfl rfl) (silent.alike rfl rfl)
        housed steps hhalts hwhich
    | _ => exact hends

/-- The script takes the steps that remain until there is something to wait for. -/
theorem known_proceed (hdeny : Step.denyOpens true ∉ s.steps) (n : Nat)
    (taken : Taken s seen past l r) (silent : Silent r) (housed : ∀ x ∈ seen, x.Housed) :
    Known s (seen ++ r.proceedReaches n l) (r.proceed n l) := by
  -- over the steps that remain: one that is taken at once moves on to those behind it, and any
  -- other ends the turn
  induction l generalizing n seen past r with
  | nil =>
    unfold proceedReaches proceed
    rw [List.append_nil]
    refine known_metrics (r := { r with script := { r.script with steps := [] } })
      (.completed ?_ ?_ taken.fault) (silent.alike rfl rfl) housed rfl n
    · rw [taken.reached, taken.steps, List.append_nil]
    · rw [taken.steps, List.append_nil]
      exact taken.results
  | cons step rest ih =>
    have hhere : Encounter.Housed (step, r.desktop) := taken.housed
    have hseen := housed_concat housed hhere
    have hallowed : step ≠ .denyOpens true := fun heq => hdeny (by
      rw [taken.steps, heq]
      exact List.mem_append_right _ List.mem_cons_self)
    have hsame : Taken s seen past (step :: rest)
        { r with script := { r.script with steps := step :: rest } } :=
      taken.grow rfl rfl (.refl _) taken.ready
    have houtlook := Step.outlook r.script.defaultSize hhere hallowed
    unfold proceedReaches proceed
    dsimp only [desktop] at houtlook ⊢
    generalize step.deed r.script.defaultSize r.coordinator.scene.world = deed at houtlook
    rw [← List.singleton_append, ← List.append_assoc]
    cases houtlook with
    | ask asks => exact (known_ask hsame (silent.alike rfl rfl) hseen rfl asks n).still
    | change grown opens =>
      have hchanged : Taken s seen past (step :: rest)
          ({ r with script := { r.script with steps := step :: rest } }.alterDesktop _) :=
        hsame.grow rfl rfl grown (hsame.ready.shift grown)
      refine ih n (hchanged.record r.desktop _ fun name hname => ?_) (silent.alike rfl rfl) hseen
      rw [opens] at hname
      exact hchanged.windows name hname
    | pause ms =>
      have hwaits := known_pause hsame (silent.alike rfl rfl) hseen rfl (r.clock + delay ms)
      dsimp only
      cases n with
      | zero => exact Known.still (hwaits.keep rfl rfl rfl rfl)
      | succ n =>
        dsimp only
        split
        · have hpaused : Taken s seen past (.wait ms :: rest)
              ({ r with script := { r.script with steps := .wait ms :: rest } }.hold
                (.moment (r.clock + delay ms))) := hsame.grow rfl rfl (.refl _) hsame.ready
          exact ih n (hpaused.record r.desktop _ taken.windows) (silent.alike rfl rfl) hseen
        · exact hwaits.still
    | closed which latest found dead =>
      exact Known.still (known_metrics
        (r := { r with script := { r.script with steps := step :: rest } }.fail step _)
        (hsame.verdict_fail which latest found dead) (silent.alike rfl rfl) hseen rfl n)

/-- The step at work is finished, and the script goes on. -/
theorem known_finishStep (hdeny : Step.denyOpens true ∉ s.steps) {d : Simulation}
    (taken : Taken s seen past (step :: rest) r) (steps : r.script.steps = step :: rest)
    (silent : Silent r) (housed : ∀ x ∈ seen ++ [(step, d)], x.Housed)
    (windows : ∀ name ∈ step.opening (Step.openedBy past), r.desktop.HasWindow name)
    (answer : Answer) :
    Known s (seen ++ [(step, d)] ++ r.finishReaches answer) (r.finishStep answer) := by
  unfold finishReaches finishStep
  rw [steps]
  exact known_proceed hdeny _ (taken.record d _ windows) (silent.alike rfl rfl) housed

/-! ## Turns -/

/-- The script's turn when a step is at work. -/
theorem known_goOn_of_step (hdeny : Step.denyOpens true ∉ s.steps) {d : Simulation}
    (h : Known s (seen ++ [(step, d)]) r) (taken : Taken s seen past (step :: rest) r)
    (steps : r.script.steps = step :: rest) (hat : r.AtStep (Step.openedBy past) step) :
    Known s (seen ++ [(step, d)] ++ r.goOnReaches) r.goOn := by
  have hown := h.own
  have hsilent := h.silent
  unfold AtStep at hat
  unfold goOnReaches Run.goOn
  cases hhold : r.script.hold with
  | place req =>
    rw [hhold] at hat hown hsilent
    exact (known_ask taken (hsilent nofun hown) h.housed steps hat _).still
  | answer given =>
    cases given with
    | none => exact h.still
    | some answer =>
      rw [hhold] at hat hown hsilent
      obtain ⟨⟨a, rfl⟩, hwindows⟩ := hat
      unfold resume
      rw [steps]
      exact known_finishStep hdeny taken steps (hsilent nofun hown) h.housed hwindows a
  | moment time =>
    rw [hhold] at hat hown hsilent
    obtain ⟨ms, rfl⟩ := hat
    dsimp only
    split
    · exact known_finishStep hdeny taken steps (hsilent nofun hown) h.housed taken.windows .done
    · exact h.still
  | _ =>
    rw [hhold] at hat
    cases hat

/-- The script's turn when the steps are over. -/
theorem known_goOn_of_ended (h : Known s seen r) (verdict : Verdict s seen r.script)
    (steps : r.script.steps = []) (hat : r.AtEnd) : Known s (seen ++ r.goOnReaches) r.goOn := by
  have hown := h.own
  have hsilent := h.silent
  unfold AtEnd at hat
  unfold goOnReaches Run.goOn
  cases hhold : r.script.hold with
  | place req =>
    rw [hhold] at hat hown hsilent
    rw [hat]
    exact (known_metrics verdict (hsilent nofun hown) h.housed steps _).still
  | answer given =>
    cases given with
    | none => exact h.still
    | some answer =>
      rw [hhold] at hown hsilent
      have hresumed := known_resume verdict (hsilent nofun hown) h.housed steps answer
      cases answer with
      | error f => exact hresumed.still
      | ok a =>
        unfold finishReaches
        rw [steps]
        exact hresumed.still
  | watcher =>
    rw [hhold] at hown hsilent
    obtain ⟨letters, hold, hhalts, hwhich⟩ := halts_part r
    exact (known_farewell verdict (hsilent nofun hown) h.housed steps hhalts hwhich).still
  | farewell =>
    rw [hhold] at hown hsilent
    obtain ⟨letters, hold, hhalts, hwhich⟩ := halts_leave r
    exact (known_farewell verdict (hsilent nofun hown) h.housed steps hhalts
      (hwhich.imp (And.imp id .inl) id)).still
  | ending => exact h.still
  | _ =>
    rw [hhold] at hat
    cases hat

/-- The script's turn. -/
theorem Known.goOn (h : Known s seen r) (hdeny : Step.denyOpens true ∉ s.steps) :
    Known s (seen ++ r.goOnReaches) r.goOn := by
  cases h.stands with
  | fresh taken hold =>
    have hown := h.own
    have hsilent := h.silent
    rw [hold] at hown hsilent
    unfold goOnReaches Run.goOn
    rw [hold]
    exact known_proceed hdeny _ taken (hsilent nofun hown) h.housed
  | step taken steps hat => exact known_goOn_of_step hdeny h taken steps hat
  | ended verdict steps hat => exact known_goOn_of_ended h verdict steps hat

/-- What is known of a run remains known in every turn. -/
theorem Known.turn (h : Known s seen r) (hdeny : Step.denyOpens true ∉ s.steps) (p : Party) :
    Known s (seen ++ r.turnReaches p) (r.turn p) := by
  cases p with
  | script => exact h.goOn hdeny
  | coordinator => exact (h.work Turns.allowance).still
  | listener => exact h.listen.still
  | watcher => exact h.watch.still
  | alarm t => exact (h.ring t).still

/-- It remains known in several turns. -/
theorem Known.takeTurns (h : Known s seen r) (hdeny : Step.denyOpens true ∉ s.steps) (n : Nat) :
    Known s (seen ++ r.takeTurnsReaches n) (r.takeTurns n) := by
  induction n generalizing seen r with
  | zero => exact h.still
  | succ n ih =>
    unfold takeTurnsReaches Run.takeTurns
    cases hqueue : r.turns.queue with
    | nil => exact h.still
    | cons p rest =>
      have hpopped : Known s seen { r with turns := { r.turns with queue := rest } } :=
        h.keep rfl rfl rfl rfl
      dsimp only
      rw [← List.append_assoc]
      exact ih (hpopped.turn hdeny p)

/-! ## Rounds -/

/-- It remains known in a round. -/
theorem Known.round (h : Known s seen r) (hdeny : Step.denyOpens true ∉ s.steps) :
    Known s (seen ++ r.roundReaches) r.round := by
  have hscript : Known s (seen ++ if r.turns.scriptAwake then
      { r with turns := { r.turns with scriptAwake := false } }.goOnReaches else [])
      r.scriptTurn := by
    unfold Run.scriptTurn
    split
    · have hcalm : Known s seen { r with turns := { r.turns with scriptAwake := false } } :=
        h.keep rfl rfl rfl rfl
      exact hcalm.goOn hdeny
    · exact h.still
  have hturns := hscript.takeTurns hdeny Turns.perRound
  have hreaches : seen ++ r.roundReaches = (seen ++ if r.turns.scriptAwake then
      { r with turns := { r.turns with scriptAwake := false } }.goOnReaches else []) ++
      r.scriptTurn.takeTurnsReaches Turns.perRound := (List.append_assoc ..).symm
  unfold Run.round
  dsimp only
  rw [hreaches]
  by_cases hquiet : (r.scriptTurn.takeTurns Turns.perRound).turns.isQuiet = true
  · rw [if_pos hquiet]
    exact hturns.passTime
  · rw [if_neg hquiet]
    exact hturns.keep rfl rfl rfl rfl

/-- It remains known in any number of rounds. -/
theorem Known.rounds (h : Known s seen r) (hdeny : Step.denyOpens true ∉ s.steps) (n : Nat) :
    Known s (seen ++ r.roundsReaches n) (r.rounds n) := by
  induction n generalizing seen r with
  | zero => exact h.still
  | succ n ih =>
    unfold roundsReaches Run.rounds
    split
    · exact h.still
    · rw [← List.append_assoc]
      exact ih (h.round hdeny)

/-- Before the first round nothing has happened. -/
theorem known_start (settings : Settings) (interruption : Option Nat)
    (hwell : Scenario.stepsFlaw? 1 [] s.steps = none) :
    Known s [] (start settings s interruption) := by
  have hscene : (start settings s interruption).coordinator.scene = (Scene.start .main
      (s.platform.getD settings.platform) s.session
      ({ screen := settings.screen } : Simulation)).installCalls := rfl
  refine ⟨.fresh ⟨rfl, hwell, rfl, rfl, rfl, nofun, ?_⟩ rfl, nofun, nofun, rfl, nofun⟩
  rw [hscene]
  exact ⟨rfl, Scene.callable_start _ _ _ _, ⟨rfl, rfl, nofun⟩, nofun⟩

end Run

end SatelliteWindows
