import SatelliteWindows.Proofs.Scenario.Hosting
import SatelliteWindows.Proofs.Scenario.Rounds

/-!
# How steps find the desktop

A run reaches its steps one after the other, each on the desktop as it is at that moment. Here it is
written down which, and what is known of the script between two turns: it has not begun, or it is at
a step that is well, or it is over, since all steps were taken or since one has found a dead window.
-/

namespace SatelliteWindows

/-- A step that was reached, and the desktop as it was then. -/
abbrev Encounter : Type := Step × Simulation

namespace Run

/-! ## The steps that are reached -/

/-- The steps that are reached when the script goes on with some steps. -/
def proceedReaches (n : Nat) : List Step → Run → List Encounter
  | [], _ => []
  | s :: rest, r =>
    (s, r.desktop) :: match s.deed r.script.defaultSize r.desktop with
      | .ok (.change f) =>
        proceedReaches n rest
          (({ r with script := { r.script with steps := s :: rest } }.alterDesktop f).record s
            (s.outcome .done) rest)
      | .ok (.pause ms) =>
        match n with
        | 0 => []
        | n + 1 =>
          if ms = 0 then
            proceedReaches n rest
              (({ r with script := { r.script with steps := s :: rest } }.hold
                (.moment (r.clock + delay ms))).record s (s.outcome .done) rest)
          else []
      | _ => []

/-- The steps that are reached when the step at work is finished. -/
def finishReaches (answer : Answer) (r : Run) : List Encounter :=
  match r.script.steps with
  | [] => []
  | s :: rest => (r.record s (s.outcome answer) rest).proceedReaches (Turns.allowance - 1) rest

/-- The steps that are reached in the script's turn. -/
def goOnReaches (r : Run) : List Encounter :=
  match r.script.hold with
  | .free => r.proceedReaches Turns.allowance r.script.steps
  | .answer (some (.ok a)) => r.finishReaches a
  | .moment time => if time ≤ r.clock then r.finishReaches .done else []
  | _ => []

/-- The steps that are reached in a party's turn. -/
def turnReaches : Party → Run → List Encounter
  | .script, r => r.goOnReaches
  | _, _ => []

/-- The steps that are reached in turns from the queue. -/
def takeTurnsReaches : Nat → Run → List Encounter
  | 0, _ => []
  | n + 1, r =>
    match r.turns.queue with
    | [] => []
    | p :: rest =>
      let r := { r with turns := { r.turns with queue := rest } }
      r.turnReaches p ++ takeTurnsReaches n (r.turn p)

/-- The steps that are reached in a round. -/
def roundReaches (r : Run) : List Encounter :=
  (if r.turns.scriptAwake then
      { r with turns := { r.turns with scriptAwake := false } }.goOnReaches
    else []) ++ r.scriptTurn.takeTurnsReaches Turns.perRound

/-- The steps that are reached in rounds. -/
def roundsReaches : Nat → Run → List Encounter
  | 0, _ => []
  | n + 1, r => if r.heardOut then [] else r.roundReaches ++ roundsReaches n r.round

end Run

/-- The steps that a run reaches, with the desktop that each of them finds. -/
def Scenario.encounters (settings : Settings) (s : Scenario) (interruption : Option Nat) :
    List Encounter :=
  (Run.start settings s interruption).roundsReaches (Run.bound settings s)

/-- A step that needs a window finds one of its satellite. -/
def Encounter.Housed (x : Encounter) : Prop :=
  x.1.needsWindow = true → ∃ name, x.1.target? = some name ∧ x.2.HasWindow name

/-! ## Well-formed scenarios -/

/-- The satellites that steps open. -/
def Step.openedBy (steps : List Step) : List String :=
  steps.foldl (fun opened s => s.opening opened) []

/-- One more step opens what it opens, behind what the others have opened. -/
theorem Step.openedBy_concat (steps : List Step) (s : Step) :
    openedBy (steps ++ [s]) = s.opening (openedBy steps) := List.foldl_append

/-- In a well-formed scenario a step that needs a window is about a satellite that was opened. -/
theorem Scenario.stepsFlaw?_cons {index : Nat} {opened : List String} {s : Step} {rest : List Step}
    (h : stepsFlaw? index opened (s :: rest) = none) :
    (s.needsWindow = true → ∃ name, s.target? = some name ∧ name ∈ opened) ∧
      stepsFlaw? (index + 1) (s.opening opened) rest = none := by
  obtain ⟨hflaw, hrest⟩ : s.flaw? index opened = none ∧
      stepsFlaw? (index + 1) (s.opening opened) rest = none := by
    simpa [stepsFlaw?] using h
  refine ⟨fun hneeds => ?_, hrest⟩
  have hwindow : s.windowFlaw? index (s.opening opened) = none := by
    have hall : (s.nameFlaw? index = none ∧ s.detailFlaw? index = none) ∧
        s.windowFlaw? index (s.opening opened) = none := by
      simpa [Step.flaw?, and_assoc] using hflaw
    exact hall.2
  have hfound : ∀ name, s.target? = some name → s.opening opened = opened → name ∈ opened := by
    intro name hname hsame
    unfold Step.windowFlaw? at hwindow
    rw [hname, hsame, hneeds] at hwindow
    simpa using hwindow
  cases s with
  | register name | kill name | failDeliveries name | move name =>
    exact ⟨name, rfl, hfound name rfl rfl⟩
  | _ => cases hneeds

/-! ## What is known of the script -/

namespace Run

/-- Some steps were reached and taken, and others remain. -/
structure Taken (s : Scenario) (seen : List Encounter) (past l : List Step) (r : Run) : Prop where
  /-- These are all steps. -/
  steps : s.steps = past ++ l
  /-- The others are well formed behind those that were taken. -/
  wellFormed : Scenario.stepsFlaw? (past.length + 1) (Step.openedBy past) l = none
  /-- What was reached is what was taken. -/
  reached : seen.map Prod.fst = past
  /-- What was taken is written down. -/
  results : r.script.results.map (fun x => (x.action, x.target)) =
    past.map fun s => (s.action, s.target?)
  /-- None of them has failed. -/
  fault : r.script.fault = none
  /-- Satellites that were opened have windows. -/
  windows : ∀ name ∈ Step.openedBy past, r.desktop.HasWindow name
  /-- The main window goes on. -/
  ready : r.coordinator.scene.Ready

/-- What came of the steps: all were taken, or one that registers or closes a window has found it
dead. -/
inductive Verdict (s : Scenario) : List Encounter → Script → Prop where
  /-- All steps were taken. -/
  | completed {seen : List Encounter} {script : Script} (reached : seen.map Prod.fst = s.steps)
      (results : script.results.map (fun x => (x.action, x.target)) =
        s.steps.map fun s => (s.action, s.target?))
      (fault : script.fault = none) : Verdict s seen script
  /-- A step has failed. -/
  | closed {seen : List Encounter} {script : Script} {step : Step} {after : List Step}
      {name : String} {d : Simulation} {w : WindowId} {window : SimulatedWindow}
      (steps : s.steps = seen.map Prod.fst ++ step :: after)
      (which : step = .register name ∨ step = .kill name) (latest : d.latest? name = some w)
      (found : d.window? w = some window) (dead : window.alive = false)
      (results : script.results.map (fun x => (x.action, x.target)) =
        (seen.map Prod.fst).map fun s => (s.action, s.target?))
      (fault : script.fault =
        some (.failed (seen.length + 1) step.action (.alreadyClosed name))) :
      Verdict s (seen ++ [(step, d)]) script

/-- The script waits for what the step at work needs, and the step is carried out in the end. -/
def AtStep (opened : List String) (step : Step) (r : Run) : Prop :=
  match r.script.hold with
  | .place req => step.Asks req
  | .answer none => True
  | .answer (some a) =>
    (∃ x, a = .ok x) ∧ ∀ name ∈ step.opening opened, r.desktop.HasWindow name
  | .moment _ => ∃ ms, step = .wait ms
  | _ => False

/-- The script waits for what the end needs. -/
def AtEnd (r : Run) : Prop :=
  match r.script.hold with
  | .place req => req = .metrics
  | .free | .moment _ => False
  | _ => True

/-- What is known of the script between two turns. -/
inductive Stands (s : Scenario) : List Encounter → Run → Prop where
  /-- It has not begun. -/
  | fresh {r : Run} (taken : Taken s [] [] r.script.steps r) (hold : r.script.hold = .free) :
      Stands s [] r
  /-- A step is at work. -/
  | step {seen : List Encounter} {past rest : List Step} {step : Step} {d : Simulation} {r : Run}
      (taken : Taken s seen past (step :: rest) r) (steps : r.script.steps = step :: rest)
      (hold : r.AtStep (Step.openedBy past) step)
      (letters : ∀ req, .request .script req ∈ r.mailbox.letters → step.Asks req) :
      Stands s (seen ++ [(step, d)]) r
  /-- The steps are over. -/
  | ended {seen : List Encounter} {r : Run} (verdict : Verdict s seen r.script)
      (steps : r.script.steps = []) (hold : r.AtEnd)
      (letters : ∀ req, .request .script req ∈ r.mailbox.letters → req = .metrics) :
      Stands s seen r

/-- What is known of a run between two turns, whether it is interrupted or not. -/
structure Known (s : Scenario) (seen : List Encounter) (r : Run) : Prop where
  /-- How far the script has come. -/
  stands : Stands s seen r
  /-- Whatever step was reached found the window that it needs. -/
  housed : ∀ x ∈ seen, x.Housed
  /-- Besides the script, only alarms and the watcher write letters. -/
  others : ∀ sender req, .request sender req ∈ r.mailbox.letters → sender ≠ .script →
    req.givesUp = true ∨ req = .mainWindowClosed
  /-- The script has written no other letters than those it waits for. -/
  own : r.script.hold.Owns r.coordinator.running (r.mailbox.letters.filter Letter.isOwn)
  /-- The coordinator stops at the end. -/
  stopped : r.coordinator.running = false → r.script.hold = .ending

variable {s : Scenario} {seen : List Encounter} {past l : List Step} {r r' : Run}

/-! ### What others do -/

/-- Steps that were taken remain so while the desktop grows. -/
theorem Taken.grow (h : Taken s seen past l r) (results : r'.script.results = r.script.results)
    (fault : r'.script.fault = r.script.fault) (grown : r.desktop.Grown r'.desktop)
    (ready : r'.coordinator.scene.Ready) : Taken s seen past l r' :=
  ⟨h.steps, h.wellFormed, h.reached, results ▸ h.results, fault.trans h.fault,
    fun name hname => grown.windows name (h.windows name hname), ready⟩

/-- The script does not notice that others go on, as long as windows stay. -/
theorem Stands.grow (h : Stands s seen r) (script : r'.script = r.script)
    (grown : r.desktop.Grown r'.desktop)
    (ready : r.coordinator.scene.Ready → r'.coordinator.scene.Ready)
    (letters : ∀ req, .request .script req ∈ r'.mailbox.letters →
      .request .script req ∈ r.mailbox.letters) : Stands s seen r' := by
  cases h with
  | fresh taken hold =>
    rw [← script] at taken hold
    exact .fresh (taken.grow (by rw [script]) (by rw [script]) grown (ready taken.ready)) hold
  | step taken steps hold own =>
    refine .step (taken.grow (by rw [script]) (by rw [script]) grown (ready taken.ready))
      (script ▸ steps) ?_ fun req hreq => own req (letters req hreq)
    unfold AtStep at hold ⊢
    rw [script]
    split at hold
    · exact hold
    · trivial
    · exact ⟨hold.1, fun name hname => grown.windows name (hold.2 name hname)⟩
    · exact hold
    · exact hold
  | ended verdict steps hold own =>
    refine .ended (script ▸ verdict) (script ▸ steps) ?_ fun req hreq => own req (letters req hreq)
    unfold AtEnd at hold ⊢
    rw [script]
    exact hold

/-- Nor does it notice turns that leave the main window and its letters alone. -/
theorem Known.keep (h : Known s seen r) (script : r'.script = r.script)
    (scene : r'.coordinator.scene = r.coordinator.scene)
    (running : r'.coordinator.running = r.coordinator.running)
    (letters : r'.mailbox.letters = r.mailbox.letters) : Known s seen r' := by
  refine ⟨h.stands.grow script ?_ (scene ▸ ·) fun req hreq => letters ▸ hreq, h.housed,
    fun sender req hreq => h.others sender req (letters ▸ hreq), ?_, fun hoff => ?_⟩
  · unfold desktop
    rw [scene]
    exact .refl _
  · rw [script, running, letters]
    exact h.own
  · rw [script]
    exact h.stopped (running ▸ hoff)

/-- Others may send their letters. -/
theorem Known.send (h : Known s seen r) {p : Party} (hp : p ≠ .script) {req : Request}
    (hreq : req.givesUp = true ∨ req = .mainWindowClosed) :
    Known s seen (r.send p (.request p req)).2 := by
  have hletters := letters_send p (.request p req) r
  have hscript := script_send p (.request p req) r
  have hcoordinator := coordinator_send p (.request p req) r
  have hforeign : Letter.isOwn (.request p req) = false := by
    cases p with
    | script => exact absurd rfl hp
    | _ => rfl
  generalize (r.send p (.request p req)).1 = sent at hletters
  generalize (r.send p (.request p req)).2 = r' at *
  cases sent with
  | false =>
    exact h.keep hscript (by rw [hcoordinator]) (by rw [hcoordinator])
      (hletters.trans (List.append_nil _))
  | true =>
    refine ⟨h.stands.grow hscript ?_ (fun hready => hcoordinator ▸ hready) fun req' hreq' => ?_,
      h.housed, fun sender req' hreq' hsender => ?_, ?_, fun hoff => ?_⟩
    · unfold desktop
      rw [hcoordinator]
      exact .refl _
    · rw [hletters] at hreq'
      refine (List.mem_append.mp hreq').resolve_right fun hlast => ?_
      cases List.mem_singleton.mp hlast
      exact hp rfl
    · rw [hletters] at hreq'
      rcases List.mem_append.mp hreq' with hbefore | hlast
      · exact h.others sender req' hbefore hsender
      · cases List.mem_singleton.mp hlast
        exact hreq
    · rw [hscript, hcoordinator, hletters, List.filter_append]
      rw [if_pos rfl, List.filter_cons_of_neg (by rw [hforeign]; exact Bool.false_ne_true)]
      exact (List.append_nil (r.mailbox.letters.filter Letter.isOwn)).symm ▸ h.own
    · rw [hscript]
      exact h.stopped (hcoordinator ▸ hoff)

/-- What is known remains known when the listener reads. -/
theorem Known.listen (h : Known s seen r) : Known s seen r.listen := by
  unfold Run.listen
  dsimp only
  split <;> exact h.keep rfl rfl rfl rfl

/-- It remains known when the watcher has its turn. -/
theorem Known.watch (h : Known s seen r) : Known s seen r.watch := by
  have hsent : Known s seen (r.send .watcher (.request .watcher .mainWindowClosed)).2 :=
    h.send (Party.noConfusion ·) (.inr rfl)
  unfold Run.watch
  split
  · rw [grant_eq]
    exact h.keep rfl rfl rfl (Mailbox.letters_withdraw Party.watcher r.mailbox)
  · split
    · split
      · exact h
      · split
        · next heq =>
          rw [heq] at hsent
          exact hsent.keep rfl rfl rfl rfl
        · next heq =>
          rw [heq] at hsent
          exact hsent
    · exact h.keep rfl rfl rfl rfl
    · exact h
    · exact h

/-- It remains known when an alarm does. -/
theorem Known.ring (h : Known s seen r) (t : Timer) : Known s seen (r.ring t) := by
  unfold Run.ring
  split
  · exact h.send (p := .alarm t) (Party.noConfusion ·) (.inl rfl)
  · exact h.keep rfl rfl rfl rfl

/-- It remains known when time passes. -/
theorem Known.passTime (h : Known s seen r) : Known s seen r.passTime := by
  unfold Run.passTime wakeAt
  split
  · dsimp only
    rw [wakeAll_eq]
    split <;> split <;> exact h.keep rfl rfl rfl rfl
  · exact h

/-! ### What the coordinator does -/

/-- The verdict does not change while the script waits for something else. -/
theorem Verdict.keep {script script' : Script} (h : Verdict s seen script)
    (results : script'.results = script.results) (fault : script'.fault = script.fault) :
    Verdict s seen script' := by
  cases h with
  | completed reached hresults hfault =>
    exact .completed reached (results ▸ hresults) (fault.trans hfault)
  | closed steps which latest found dead hresults hfault =>
    exact .closed steps which latest found dead (results ▸ hresults) (fault.trans hfault)

/-- Serving requests, windows come up as before. -/
theorem grown_serve (c : Coordinator Simulation) (request : Request) :
    c.scene.world.Grown (c.serve request).2.scene.world := by
  cases hrunning : c.running with
  | true =>
    rw [(Coordinator.serve_of_running hrunning request).1]
    exact Simulation.grown_of_reaches (Scene.leads_perform request c.scene).world
  | false =>
    rw [Coordinator.serve_of_not_running hrunning]
    exact .refl _

/-- The main window goes on, as long as only satellites with windows register. -/
theorem ready_serve {c : Coordinator Simulation} {request : Request} (hready : c.scene.Ready)
    (hregisters : ∀ name w, c.scene.meaning request = .registered name w →
      c.scene.world.HasWindow name) : (c.serve request).2.scene.Ready := by
  cases hrunning : c.running with
  | true =>
    rw [(Coordinator.serve_of_running hrunning request).1]
    exact hready.perform hregisters
  | false =>
    rw [Coordinator.serve_of_not_running hrunning]
    exact hready

/-- Besides the script nobody registers a satellite. -/
theorem not_registers {scene : Scene Simulation} {request : Request} {name : String} {w : WindowId}
    (h : request.givesUp = true ∨ request = .mainWindowClosed) :
    scene.meaning request ≠ .registered name w := by
  intro hmeaning
  rcases h with hgivesUp | rfl
  · cases request with
    | expire name' generation =>
      have hexpire : (if (scene.expire name' generation).1 then
          Happening.expired name' generation else .other) = .registered name w := hmeaning
      split at hexpire <;> cases hexpire
    | _ => cases hgivesUp
  · cases hmeaning

/-- What the script asked for was done, and it is told so. -/
theorem Stands.answered (h : Stands s seen r) {request : Request}
    (hmem : .request .script request ∈ r.mailbox.letters) (hrunning : r.coordinator.running = true)
    (hhold : r.script.hold = .answer none)
    (coordinator : r'.coordinator = { (r.coordinator.serve request).2 with timers := [] })
    (script : r'.script =
      { r.script with hold := .answer (some (r.coordinator.serve request).1) })
    (letters : ∀ l ∈ r'.mailbox.letters, l ∈ r.mailbox.letters) : Stands s seen r' := by
  have hgrown : r.desktop.Grown r'.desktop := by
    unfold desktop
    rw [coordinator]
    exact grown_serve r.coordinator request
  cases h with
  | fresh taken hfree => cases hfree.symm.trans hhold
  | @step _ past rest step d _ taken steps hat own =>
    have hasks := own request hmem
    -- only a step that needs a window registers one, and then its satellite was opened
    have hregisters : ∀ name w, r.coordinator.scene.meaning request = .registered name w →
        r.desktop.HasWindow name := fun name w hmeaning => by
      have hstep := hasks.registers taken.ready hmeaning
      subst hstep
      obtain ⟨name', hname, hopened⟩ := (Scenario.stepsFlaw?_cons taken.wellFormed).1 rfl
      cases hname
      exact taken.windows name hopened
    have hready : r'.coordinator.scene.Ready := by
      rw [coordinator]
      exact ready_serve taken.ready hregisters
    refine .step (taken.grow (by rw [script]) (by rw [script]) hgrown hready)
      (by rw [script]; exact steps) ?_ fun req hreq => own req (letters _ hreq)
    obtain ⟨a, ha⟩ := hasks.answered taken.ready
    have hopens := hasks.opens taken.ready taken.windows
    have hscene := (Coordinator.serve_of_running hrunning request).1
    unfold AtStep desktop
    rw [script, coordinator, Coordinator.answer_serve hrunning, ha]
    refine ⟨⟨a, rfl⟩, ?_⟩
    dsimp only
    rw [hscene]
    exact hopens
  | ended verdict steps hat own =>
    refine .ended ?_ (by rw [script]; exact steps) ?_ fun req hreq => own req (letters _ hreq)
    · rw [script]
      exact verdict.keep rfl rfl
    · unfold AtEnd
      rw [script]
      trivial

/-- A request is served, and its place is given away before. -/
theorem Known.serve (h : Known s seen r) {sender : Party} {request : Request}
    {rest : List Letter} (hletters : r.mailbox.letters = .request sender request :: rest) :
    Known s seen
      ((r.grant (Mailbox.release { r.mailbox with letters := rest })).serve sender request) := by
  have hmem : .request sender request ∈ r.mailbox.letters := by
    rw [hletters]
    exact List.mem_cons_self
  have hleft : (Mailbox.release { r.mailbox with letters := rest }).2.letters = rest :=
    Mailbox.letters_release _
  obtain ⟨hcoordinator, hmailbox, hscript⟩ := serve_fields sender request
    (r.grant (Mailbox.release { r.mailbox with letters := rest }))
  generalize (r.grant (Mailbox.release { r.mailbox with letters := rest })).serve sender request =
    r' at *
  rw [grant_eq] at hcoordinator hmailbox hscript
  have hown := h.own
  rw [hletters] at hown
  have hfewer : ∀ l ∈ r'.mailbox.letters, l ∈ r.mailbox.letters := fun l hl => by
    rw [hmailbox] at hl
    rw [hletters]
    exact List.mem_cons_of_mem _ (hleft ▸ hl)
  have hrunning : r'.coordinator.running = r.coordinator.running := by
    rw [hcoordinator]
    exact Coordinator.running_serve r.coordinator request
  have hothers := fun sender' req hreq => h.others sender' req (hfewer _ hreq)
  by_cases hsender : sender = .script
  -- the letter is the only one of the script's, so that the coordinator has not stopped
  · subst hsender
    obtain ⟨hhold, hrest⟩ := Hold.Owns.request hown
    have hon : r.coordinator.running = true := by
      by_contra hoff
      cases hhold.symm.trans (h.stopped (by simpa using hoff))
    rw [if_pos rfl] at hscript
    refine ⟨h.stands.answered hmem hon hhold hcoordinator hscript hfewer, h.housed, hothers, ?_,
      fun hoff => ?_⟩
    · rw [hscript, hmailbox]
      dsimp only
      rw [hleft]
      exact hrest
    · cases hon.symm.trans (hrunning.symm.trans hoff)
  · have hletter : Letter.isOwn (.request sender request) = false := by
      cases sender with
      | script => exact absurd rfl hsender
      | _ => rfl
    rw [if_neg hsender] at hscript
    refine ⟨h.stands.grow hscript ?_ (fun hready => ?_) fun req hreq => hfewer _ hreq, h.housed,
      hothers, ?_, fun hoff => ?_⟩
    · unfold desktop
      rw [hcoordinator]
      exact grown_serve r.coordinator request
    · rw [hcoordinator]
      exact ready_serve hready fun name w hmeaning =>
        absurd hmeaning (not_registers (h.others sender request hmem hsender))
    · rw [hscript, hrunning, hmailbox]
      dsimp only
      rw [hleft]
      rwa [List.filter_cons_of_neg (by rw [hletter]; exact Bool.false_ne_true)] at hown
    · rw [hscript]
      exact h.stopped (hrunning ▸ hoff)

/-- The main window closes once the script has taken its leave. -/
theorem Known.stop (h : Known s seen r) {rest : List Letter}
    (hletters : r.mailbox.letters = .farewell :: rest) :
    Known s seen (r.grant (Mailbox.release { r.mailbox with letters := rest })).stop := by
  have hleft : (Mailbox.release { r.mailbox with letters := rest }).2.letters = rest :=
    Mailbox.letters_release _
  have hown := h.own
  rw [hletters] at hown
  obtain ⟨hhold, hrunning, hrest⟩ := Hold.Owns.farewell hown
  obtain ⟨hscene, -, hoff, -⟩ := Coordinator.shutdown_of_running hrunning
  have hfewer : ∀ l ∈ (Mailbox.release { r.mailbox with letters := rest }).2.letters,
      l ∈ r.mailbox.letters := fun l hl => by
    rw [hletters]
    exact List.mem_cons_of_mem _ (hleft ▸ hl)
  rw [grant_eq]
  refine ⟨h.stands.grow rfl ?_ (fun hready => ?_) fun req hreq => hfewer _ hreq, h.housed,
    fun sender req hreq => h.others sender req (hfewer _ hreq), ?_, fun _ => hhold⟩
  · show r.coordinator.scene.world.Grown r.coordinator.shutdown.2.scene.world
    rw [hscene]
    exact Simulation.grown_of_reaches
      (Scene.leads_perform .mainWindowClosed r.coordinator.scene).world
  · show r.coordinator.shutdown.2.scene.Ready
    rw [hscene]
    exact hready.perform (r := .mainWindowClosed) nofun
  · show r.script.hold.Owns r.coordinator.shutdown.2.running
      ((Mailbox.release { r.mailbox with letters := rest }).2.letters.filter Letter.isOwn)
    rw [hhold, hoff, hleft]
    exact hrest

/-- It remains known while the coordinator works. -/
theorem Known.work (n : Nat) (h : Known s seen r) : Known s seen (r.work n) := by
  induction n generalizing r with
  | zero => exact h.keep rfl rfl rfl rfl
  | succ n ih =>
    unfold Run.work Mailbox.take?
    cases hletters : r.mailbox.letters with
    | nil => exact h
    | cons letter rest =>
      cases letter with
      | request sender request => exact ih (h.serve hletters)
      | farewell => exact h.stop hletters

end Run

end SatelliteWindows
