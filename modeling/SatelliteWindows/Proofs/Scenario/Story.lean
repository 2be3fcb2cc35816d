import SatelliteWindows.Proofs.Scenario.Course
import SatelliteWindows.Proofs.Scenario.Listing

/-!
# How far a script has come

While a script takes its steps, what it has taken is written down in their order. When the steps are
over it asks for the counts, looks at the windows and takes its leave, which closes all satellites.
Others go on meanwhile, but all they ask for is that openings are given up.

The run is one without interruption.
-/

namespace SatelliteWindows

/-! ## Openings that are given up -/

/-- Whether a move is the request to give up an opening. -/
def Move.givesUp {σ : Type} : Move σ → Bool
  | .request r => r.givesUp
  | .shift _ => false

/-- Whether an opening was given up. -/
def Happening.isExpired : Happening → Bool
  | expired .. => true
  | _ => false

namespace Scene

variable {σ : Type} [Desktop σ]

/-- From one scene to another nothing has happened but that a number of openings were given up. -/
structure Lapsed (n : Nat) (s t : Scene σ) : Prop where
  /-- The desktop is the same. -/
  world : t.world = s.world
  /-- Whoever is registered stays so. -/
  roster : t.fleet.roster = s.fleet.roster
  /-- The openings are counted. -/
  tally : t.fleet.tally =
    { s.fleet.tally with openTimeouts := s.fleet.tally.openTimeouts + n }

omit [Desktop σ] in
/-- An opening that expires is given up, and one that does not is not. -/
theorem lapsed_expire (name : String) (generation : Nat) (s : Scene σ) :
    Lapsed (if (s.expire name generation).1 then 1 else 0) s (s.expire name generation).2 := by
  unfold expire
  split
  · dsimp only
    split <;> exact ⟨rfl, rfl, rfl⟩
  · exact ⟨rfl, rfl, rfl⟩

/-- When nothing is asked for but to give up openings, those that are given up are counted. -/
theorem lapsed_run {moves : List (Move σ)} (h : ∀ m ∈ moves, m.givesUp = true) (s : Scene σ) :
    Lapsed ((s.history moves).countP Happening.isExpired) s (s.run moves) := by
  induction moves generalizing s with
  | nil => exact ⟨rfl, rfl, rfl⟩
  | cons m rest ih =>
    have hm := h m List.mem_cons_self
    cases m with
    | shift change => cases hm
    | request r =>
      cases r with
      | expire name generation =>
        have hmove := lapsed_expire name generation s
        have hrest := ih (fun m hm => h m (List.mem_cons_of_mem _ hm)) (s.expire name generation).2
        have hcount : (s.history (.request (.expire name generation) :: rest)).countP
            Happening.isExpired = (if (s.expire name generation).1 then 1 else 0) +
              ((s.expire name generation).2.history rest).countP Happening.isExpired := by
          rw [history, List.countP_cons, Nat.add_comm]
          simp only [happening, meaning]
          split <;> rfl
        rw [hcount]
        refine ⟨hrest.world.trans hmove.world, hrest.roster.trans hmove.roster, ?_⟩
        show ((s.expire name generation).2.run rest).fleet.tally = _
        rw [hrest.tally, hmove.tally, Nat.add_assoc]
      | _ => cases hm

end Scene

/-! ## What is written down -/

/-- What a result says besides what became of the step. -/
def StepResult.label (x : StepResult) : Nat × String × Option String :=
  (x.index, x.action, x.target)

/-- What the results say of steps that are taken in their order. -/
def Step.labels (steps : List Step) : List (Nat × String × Option String) :=
  steps.mapIdx fun i s => (i + 1, s.action, s.target?)

/-- What a script waits for while there are steps. -/
def Script.AtSteps (script : Script) : Prop :=
  match script.hold with
  | .free => True
  | .place _ | .answer _ | .moment _ => script.steps ≠ []
  | .watcher | .farewell | .ending => False

/-- Whether a script that waits for this takes its leave. -/
def Hold.parts : Hold → Bool
  | .watcher | .farewell | .ending => true
  | _ => false

namespace Run

open Occurrence

/-- The steps that were taken are written down. -/
def Written (steps : List Step) (script : Script) : Prop :=
  script.results.map StepResult.label = Step.labels steps

/-- A step is written down behind the others. -/
theorem Written.record {past : List Step} {r : Run} (h : Written past r.script) (s : Step)
    (outcome : String) (rest : List Step) :
    Written (past ++ [s]) (r.record s outcome rest).script := by
  have hlength : r.script.results.length = past.length := by
    have hlabels := congrArg List.length h
    rwa [Step.labels, List.length_map, List.length_mapIdx] at hlabels
  have hlast : StepResult.label ⟨r.script.results.length + 1, s.action, s.target?, outcome⟩ =
      (past.length + 1, s.action, s.target?) := by rw [hlength]; rfl
  show (r.script.results ++ [_]).map StepResult.label = Step.labels (past ++ [s])
  rw [List.map_append, List.map_singleton, hlast, h, Step.labels, Step.labels, List.mapIdx_concat]

/-! ## How far the script has come -/

/-- The counts were taken after some moves. Since then openings may have been given up, and then
came what comes at the end. -/
structure Counted (moves before late ending : List (Move Simulation)) : Prop where
  /-- The moves. -/
  moves : moves = before ++ .request .metrics :: (late ++ ending)
  /-- What the alarms have asked for. -/
  late : ∀ m ∈ late, m.givesUp = true

/-- How far a script has come. Once it has been told the counts and has looked at the windows, they
are those of one moment, and nothing has happened to the windows since. -/
inductive Stage (s : Scenario) (first : Scene Simulation) (log : List Occurrence) (r : Run) :
    Prop where
  /-- Steps remain. -/
  | steps (past : List Step) (all : s.steps = past ++ r.script.steps)
      (written : Written past r.script) (hold : r.script.AtSteps)
  /-- The steps are over, and the script asks for the counts. -/
  | asks (finished : r.script.steps = [])
      (written : r.script.fault = none → Written s.steps r.script)
      (hold : r.script.hold = .place .metrics ∨ r.script.hold = .answer none)
      (letters : ∀ req, .request .script req ∈ r.mailbox.letters → req = .metrics)
  /-- It is told. -/
  | told (before late : List (Move Simulation)) (finished : r.script.steps = [])
      (written : r.script.fault = none → Written s.steps r.script)
      (counted : Counted (moves log) before late [])
      (hold : r.script.hold =
        .answer (some (.ok (.metrics (first.run before).fleet.metrics))))
  /-- It has looked at the windows, and takes its leave. -/
  | parts (before late : List (Move Simulation)) (finished : r.script.steps = [])
      (written : r.script.fault = none → Written s.steps r.script)
      (counted : Counted (moves log) before late
        (if r.coordinator.running then [] else [.request .mainWindowClosed]))
      (hold : r.script.hold.parts = true)
      (metrics : r.script.metrics = some (first.run before).fleet.metrics)
      (satellites : r.script.satellites = (first.run before).world.described)

/-- What is known of the script and of the letters between two turns. -/
structure Story (s : Scenario) (first : Scene Simulation) (log : List Occurrence) (r : Run) :
    Prop where
  /-- Besides the script, only alarms write letters. -/
  others : ∀ sender req, .request sender req ∈ r.mailbox.letters → sender ≠ .script →
    req.givesUp = true
  /-- How far the script has come. -/
  stage : Stage s first log r

variable {s : Scenario} {first : Scene Simulation} {log more : List Occurrence} {past l : List Step}
  {r r' : Run}

/-! ## What others do -/

/-- The script does not notice that others go on, as long as a running coordinator gives up openings
only. -/
theorem Stage.goesOn (h : Stage s first log r) (script : r'.script = r.script)
    (running : r'.coordinator.running = r.coordinator.running)
    (letters : ∀ req, .request .script req ∈ r'.mailbox.letters →
      .request .script req ∈ r.mailbox.letters)
    (late : ∀ m ∈ moves more, m.givesUp = true)
    (idle : r.coordinator.running = false → moves more = []) :
    Stage s first (log ++ more) r' := by
  have hlate : ∀ {before old}, Counted (moves log) before old [] →
      Counted (moves (log ++ more)) before (old ++ moves more) [] := fun {before old} hcounted => by
    refine ⟨?_, fun m hm => (List.mem_append.mp hm).elim (hcounted.late m) (late m)⟩
    rw [moves_append, hcounted.moves, List.append_nil, List.append_nil, List.append_assoc]
    rfl
  cases h with
  | steps past all written hold =>
    rw [← script] at all written hold
    exact .steps past all written hold
  | asks finished written hold own =>
    rw [← script] at finished written hold
    exact .asks finished written hold fun req hreq => own req (letters req hreq)
  | told before old finished written counted hold =>
    rw [← script] at finished written hold
    exact .told before _ finished written (hlate counted) hold
  | parts before old finished written counted hold metrics satellites =>
    rw [← script] at finished written hold metrics satellites
    cases hrunning : r.coordinator.running with
    | true =>
      rw [hrunning] at running counted
      refine .parts before (old ++ moves more) finished written ?_ hold metrics satellites
      rw [running]
      exact hlate counted
    | false =>
      refine .parts before old finished written ?_ hold metrics satellites
      rw [running, moves_append, idle hrunning, List.append_nil]
      exact counted

/-- What the script asks for is answered. When it asks for the counts, these are taken at that
moment. -/
theorem Stage.answered (h : Stage s first log r) {request : Request}
    (hmem : .request .script request ∈ r.mailbox.letters) (hrunning : r.coordinator.running = true)
    (hscene : r.coordinator.scene = first.run (moves log)) (hhold : r.script.hold = .answer none)
    (script : r'.script =
      { r.script with hold := .answer (some (r.coordinator.serve request).1) }) :
    Stage s first (log ++ r.serveLog request) r' := by
  cases h with
  | steps past all written hold =>
    unfold Script.AtSteps at hold
    rw [hhold] at hold
    refine .steps past ?_ ?_ ?_
    · rw [script]
      exact all
    · unfold Written at written ⊢
      rw [script]
      exact written
    · rw [script]
      exact hold
  | asks finished written hold own =>
    cases own request hmem
    have hanswer : (r.coordinator.serve .metrics).1 =
        .ok (.metrics (first.run (moves log)).fleet.metrics) := by
      rw [Coordinator.answer_serve hrunning, hscene]
      rfl
    refine .told (moves log) [] ?_ ?_ ⟨?_, nofun⟩ ?_
    · rw [script]
      exact finished
    · rw [script]
      exact written
    · unfold serveLog
      rw [if_pos hrunning]
      exact moves_append log [.move (.request .metrics)]
    · rw [script, hanswer]
  | told before late finished written counted hold => cases hhold.symm.trans hold
  | parts before late finished written counted hold =>
    rw [hhold] at hold
    cases hold

/-- A script that waits for the end has been told the counts and has looked at the windows. -/
theorem Stage.of_ending (h : Stage s first log r) (hhold : r.script.hold = .ending) :
    ∃ before late, r.script.steps = [] ∧ (r.script.fault = none → Written s.steps r.script) ∧
      Counted (moves log) before late
        (if r.coordinator.running then [] else [.request .mainWindowClosed]) ∧
      r.script.metrics = some (first.run before).fleet.metrics ∧
      r.script.satellites = (first.run before).world.described := by
  cases h with
  | steps past all written hold =>
    unfold Script.AtSteps at hold
    rw [hhold] at hold
    cases hold
  | asks finished written hold =>
    rw [hhold] at hold
    rcases hold with hold | hold <;> cases hold
  | told before late finished written counted hold => cases hhold.symm.trans hold
  | parts before late finished written counted hold metrics satellites =>
    exact ⟨before, late, finished, written, counted, metrics, satellites⟩

/-- All satellites are closed once the script has taken its leave. -/
theorem Stage.closed (h : Stage s first log r) (hhold : r.script.hold = .ending)
    (hrunning : r.coordinator.running = true) (script : r'.script = r.script)
    (stopped : r'.coordinator.running = false) :
    Stage s first (log ++ [.move (.request .mainWindowClosed)]) r' := by
  obtain ⟨before, late, finished, written, counted, metrics, satellites⟩ := h.of_ending hhold
  have hbefore := counted.moves
  rw [hrunning, if_pos rfl, List.append_nil] at hbefore
  rw [← script] at finished written hhold metrics satellites
  refine .parts before late finished written ⟨?_, counted.late⟩ (hhold ▸ rfl) metrics satellites
  rw [stopped, moves_append, hbefore]
  exact List.append_assoc before _ _

namespace Story

/-- A script's story goes on while others do something. -/
theorem goesOn (h : Story s first log r) (script : r'.script = r.script)
    (running : r'.coordinator.running = r.coordinator.running)
    (letters : ∀ l ∈ r'.mailbox.letters, l ∈ r.mailbox.letters)
    (late : ∀ m ∈ moves more, m.givesUp = true)
    (idle : r.coordinator.running = false → moves more = []) :
    Story s first (log ++ more) r' :=
  ⟨fun sender req hreq => h.others sender req (letters _ hreq),
    h.stage.goesOn script running (fun _ => letters _) late idle⟩

/-- Nor does it notice turns in which nothing is asked for. -/
theorem keep (h : Story s first log r) (script : r'.script = r.script)
    (running : r'.coordinator.running = r.coordinator.running)
    (letters : r'.mailbox.letters = r.mailbox.letters) (still : moves more = []) :
    Story s first (log ++ more) r' :=
  h.goesOn script running (fun _ hl => letters ▸ hl) (by rw [still]; exact nofun) fun _ => still

/-- It is the same as long as the script, its letters and the coordinator are. -/
theorem alike (h : Story s first log r) (script : r'.script = r.script)
    (running : r'.coordinator.running = r.coordinator.running)
    (letters : r'.mailbox.letters = r.mailbox.letters) : Story s first log r' := by
  have hstill : Story s first (log ++ []) r' := h.keep script running letters rfl
  rwa [List.append_nil] at hstill

/-- It goes on when the listener reads. -/
theorem listen (h : Story s first log r) : Story s first (log ++ r.listenLog) r.listen := by
  unfold Run.listen
  dsimp only
  split <;> exact h.keep rfl rfl rfl rfl

/-- It goes on when the watcher has its turn. -/
theorem watch {capacity : Nat} {busy : Option Party} (h : Story s first log r)
    (hlive : Live capacity busy r) : Story s first (log ++ []) r.watch := by
  rw [hlive.watch_eq]
  split <;> exact h.keep rfl rfl rfl rfl

/-- An alarm asks to give up an opening. -/
theorem ring (h : Story s first log r) (t : Timer) : Story s first (log ++ []) (r.ring t) := by
  unfold Run.ring
  split
  · have hletters := letters_send (.alarm t) (.request (.alarm t) (.expire t.name t.generation)) r
    have hscript := script_send (.alarm t) (.request (.alarm t) (.expire t.name t.generation)) r
    have hcoordinator :=
      coordinator_send (.alarm t) (.request (.alarm t) (.expire t.name t.generation)) r
    generalize r.send (.alarm t) (.request (.alarm t) (.expire t.name t.generation)) = sent at *
    have hmem : ∀ l ∈ sent.2.mailbox.letters, l ∈ r.mailbox.letters ∨
        l = .request (.alarm t) (.expire t.name t.generation) := fun l hl => by
      rw [hletters] at hl
      refine (List.mem_append.mp hl).imp id fun hlast => ?_
      split at hlast
      · exact List.mem_singleton.mp hlast
      · cases hlast
    refine ⟨fun sender req hreq hsender => ?_, h.stage.goesOn hscript (by rw [hcoordinator])
      (fun req hreq => (hmem _ hreq).resolve_right nofun) nofun fun _ => rfl⟩
    rcases hmem _ hreq with hbefore | hlast
    · exact h.others sender req hbefore hsender
    · cases hlast
      rfl
  · exact h.keep rfl rfl rfl rfl

/-- It goes on when time passes. -/
theorem passTime (h : Story s first log r) : Story s first (log ++ []) r.passTime := by
  unfold Run.passTime wakeAt
  split
  · dsimp only
    rw [wakeAll_eq]
    split <;> split <;> exact h.keep rfl rfl rfl rfl
  · exact h.keep rfl rfl rfl rfl

/-- A request is served, and its place is given away before. -/
theorem serve {capacity : Nat} (h : Story s first log r)
    (hlive : Live capacity (some .coordinator) r)
    (hscene : r.coordinator.scene = first.run (moves log)) {sender : Party} {request : Request}
    {rest : List Letter} (hletters : r.mailbox.letters = .request sender request :: rest) :
    let granted := r.grant (Mailbox.release { r.mailbox with letters := rest })
    Story s first (log ++ granted.serveLog request) (granted.serve sender request) := by
  intro granted
  have hmem : .request sender request ∈ r.mailbox.letters := by
    rw [hletters]
    exact List.mem_cons_self
  have hown := hlive.own
  rw [hletters] at hown
  have hlog : granted.serveLog request = r.serveLog request := by
    unfold granted
    rw [grant_eq]
    rfl
  obtain ⟨hcoordinator, hmailbox, hscript⟩ := serve_fields sender request granted
  generalize granted.serve sender request = r' at *
  unfold granted at hcoordinator hmailbox hscript
  rw [grant_eq] at hcoordinator hmailbox hscript
  have hfewer : ∀ l ∈ r'.mailbox.letters, l ∈ r.mailbox.letters := fun l hl => by
    have hleft : (Mailbox.release { r.mailbox with letters := rest }).2.letters = rest :=
      Mailbox.letters_release _
    rw [hmailbox, hleft] at hl
    rw [hletters]
    exact List.mem_cons_of_mem _ hl
  have hrunning : r'.coordinator.running = r.coordinator.running := by
    rw [hcoordinator]
    exact Coordinator.running_serve r.coordinator request
  rw [hlog]
  by_cases hsender : sender = .script
  · subst hsender
    obtain ⟨hhold, -⟩ := Hold.Owns.request hown
    -- it still waits for its answer, and it would not if the coordinator had stopped
    have hon : r.coordinator.running = true := by
      by_contra hoff
      cases hhold.symm.trans (hlive.stopped (by simpa using hoff))
    rw [if_pos rfl] at hscript
    exact ⟨fun sender req hreq => h.others sender req (hfewer _ hreq),
      h.stage.answered hmem hon hscene hhold hscript⟩
  · rw [if_neg hsender] at hscript
    -- the others ask only for openings to be given up, which is no step of the script
    have hgivesUp := h.others sender request hmem hsender
    refine h.goesOn hscript hrunning hfewer (fun m hm => ?_) fun hoff => ?_
    · unfold serveLog at hm
      split at hm
      · cases List.mem_singleton.mp hm
        exact hgivesUp
      · cases hm
    · unfold serveLog
      rw [hoff]
      rfl

/-- The coordinator stops when it reads the last letter. -/
theorem stop {capacity : Nat} (h : Story s first log r)
    (hlive : Live capacity (some .coordinator) r) {rest : List Letter}
    (hletters : r.mailbox.letters = .farewell :: rest) :
    let granted := r.grant (Mailbox.release { r.mailbox with letters := rest })
    Story s first (log ++ granted.stopLog) granted.stop := by
  intro granted
  have hown := hlive.own
  rw [hletters] at hown
  obtain ⟨hhold, hrunning, -⟩ := Hold.Owns.farewell hown
  obtain ⟨-, -, hoff, -⟩ := Coordinator.shutdown_of_running hrunning
  have hlog : granted.stopLog = [.move (.request .mainWindowClosed)] := by
    unfold granted stopLog
    rw [grant_eq, if_pos hrunning]
  rw [hlog]
  unfold granted
  rw [grant_eq]
  refine ⟨fun sender req hreq => h.others sender req ?_, h.stage.closed hhold hrunning rfl hoff⟩
  have hleft : .request sender req ∈
      (Mailbox.release { r.mailbox with letters := rest }).2.letters := hreq
  rw [Mailbox.letters_release] at hleft
  rw [hletters]
  exact List.mem_cons_of_mem _ hleft

end Story

end Run

end SatelliteWindows
