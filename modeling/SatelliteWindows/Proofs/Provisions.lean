import Mathlib.Data.List.ReduceOption
import SatelliteWindows.Proofs.Books
import SatelliteWindows.Simulation

/-!
# Provisions

What a fleet works with changes in three ways only: another session is remembered, a satellite is
opened anew with parameters, or operations are made callable. Everything else leaves it alone,
whatever becomes of windows meanwhile. A window that registers is therefore told the last session of
the run and the parameters that were last supplied to a fresh opening of its satellite.
-/

namespace SatelliteWindows

/-- Keep the parameters supplied for a satellite, if any are. -/
def Provisions.supply (name : String) (params : Option Payload) (p : Provisions) : Provisions :=
  { p with
    startup := match params with
      | some v => p.startup.put name v
      | none => p.startup }

/-- Parameters that are supplied take the place of those supplied before. -/
theorem Provisions.get?_supply (name other : String) (params : Option Payload) (p : Provisions) :
    (p.supply name params).startup.get? other =
      (if name == other then params else none).or (p.startup.get? other) := by
  cases params with
  | none => simp [supply]
  | some v =>
    show (p.startup.put name v).get? other = _
    rw [NameMap.get?_put]
    by_cases h : other = name
    · subst h
      simp
    · have hne : ¬ name = other := fun heq => h heq.symm
      simp [h, hne]

/-- Whether a request can change what a fleet works with. -/
def Request.provides : Request → Bool
  | openSatellite .. | forceReopen .. | installCalls | updateSession _ => true
  | _ => false

/-- The session that a move tells to remember. -/
def Move.session? {σ : Type} : Move σ → Option Payload
  | .request (.updateSession snapshot) => some snapshot
  | _ => none

/-- The parameters that are given to a request to open a satellite. -/
def Move.params? {σ : Type} : Move σ → Option Payload
  | .request (.openSatellite _ params _) | .request (.forceReopen _ params) => params
  | _ => none

namespace Scene

variable {σ : Type} [Desktop σ]

/-! ## What a request makes of provisions -/

/-- A satellite that is opened anew is supplied with its params. -/
theorem provisions_openAnew (name : String) (params : Option Payload) (placement : Placement)
    (s : Scene σ) : (s.openAnew name params placement).2.fleet.provisions =
      s.fleet.provisions.supply name params := by
  cases params <;> rfl

/-- A broadcast uses nothing up. -/
theorem provisions_broadcast (m : Message) (s : Scene σ) :
    (s.broadcast m).fleet.provisions = s.fleet.provisions := by
  obtain ⟨lots, hround, -⟩ := wentRound_offer m s.sweep.fleet.roster.entries s.sweep
  have hbroadcast : s.broadcast m = (offer m s.sweep.fleet.roster.entries s.sweep).2.evict
      (offer m s.sweep.fleet.roster.entries s.sweep).1 := rfl
  have hfleet := hround.fleet
  rw [hbroadcast, evict, reportEvicted_eq]
  dsimp only [alter]
  rw [hfleet, sweep_eq]
  rfl

/-- Calls use nothing up. -/
theorem provisions_invoke (operation : String) (caller : Caller) (s : Scene σ) :
    (s.invoke operation caller).2.fleet.provisions = s.fleet.provisions := by
  have hserved := served_invoke operation caller s
  generalize s.meaning (.invoke operation caller) = x at hserved
  generalize (s.invoke operation caller).2 = t at hserved ⊢
  cases hserved with
  | registered w => exact (routine_register caller.name w s).provisions
  | flushed => exact (entered_flush caller.name s).2
  | childOpened | childClosed | refused => rfl

/-- Most requests leave alone what the fleet works with. -/
theorem provisions_perform {r : Request} (hr : r.provides = false) (s : Scene σ) :
    (s.perform r).2.fleet.provisions = s.fleet.provisions := by
  cases r with
  | openSatellite | forceReopen | installCalls | updateSession => cases hr
  | activate name => exact (routine_activate name s).provisions
  | close name => exact (routine_closeSatellite name s).provisions
  | closeAll => exact (routine_closeAll s).provisions
  | mainWindowClosed => exact (routine_closeAll s).provisions
  | register name w => exact (routine_register name w s).provisions
  | flush name => exact (entered_flush name s).2
  | invoke operation caller => exact provisions_invoke operation caller s
  | dispatchEvent e =>
    exact (charged_dispatchEvent e s).provisions.trans (provisions_broadcast (.event e) s)
  | dispatchCommand c =>
    exact (charged_dispatchCommand c s).provisions.trans (provisions_broadcast (.command c.id) s)
  | expire name generation => exact (routine_expire name generation s).provisions
  | registerChild | unregisterChild | isOpen | metrics => rfl

/-- What becomes of what the fleet works with when a satellite is to be opened: it stays the same
unless the satellite is opened anew, and parameters that were given are kept then. -/
def Supplies (name : String) (params : Option Payload) (r : Request) (s : Scene σ) : Prop :=
  (s.meaning r = .other ∧ (s.perform r).2.fleet.provisions = s.fleet.provisions) ∨
    ∃ g, s.meaning r = .opened name g ∧
      (s.perform r).2.fleet.provisions = s.fleet.provisions.supply name params

/-- A request that comes down to asking for a window keeps the parameters. -/
theorem supplies_of_openAnew {r : Request} {s t : Scene σ} {name : String}
    {params : Option Payload} {placement : Placement}
    (hmeaning : s.meaning r = s.meaningOfOpening r)
    (hcalm : Calm s t) (hroutine : Routine s t)
    (heq : (s.perform r).2 = (t.openAnew name params placement).2) : s.Supplies name params r := by
  refine .inr ⟨s.handshake.generation + 1, ?_, ?_⟩
  · rw [hmeaning, (turn_of_openAnew hcalm heq).1]
  · rw [heq, provisions_openAnew, hroutine.provisions]

/-- A request to open a satellite supplies it if a window is asked for. -/
theorem supplies_openSatellite (name : String) (params : Option Payload) (preferred : Size)
    (s : Scene σ) : s.Supplies name params (.openSatellite name params preferred) := by
  rcases openPlaced_routine name params (.fit preferred) s with
    ⟨hcalm, hroutine⟩ | ⟨t, hcalm, hroutine, heq⟩
  · have hsame : Calm s (s.perform (.openSatellite name params preferred)).2 := hcalm
    exact .inl ⟨hsame.meaningOfOpening_eq, hroutine.provisions⟩
  · exact supplies_of_openAnew rfl hcalm hroutine heq

/-- So does a request to force it open. -/
theorem supplies_forceReopen (name : String) (params : Option Payload) (s : Scene σ) :
    s.Supplies name params (.forceReopen name params) := by
  rcases forceReopen_routine name params s with
    ⟨hcalm, hroutine⟩ | ⟨t, placement, hcalm, hroutine, heq⟩
  · have hsame : Calm s (s.perform (.forceReopen name params)).2 := hcalm
    exact .inl ⟨hsame.meaningOfOpening_eq, hroutine.provisions⟩
  · exact supplies_of_openAnew rfl hcalm hroutine heq

/-- What can be called is the same. -/
theorem Supplies.calls {name : String} {params : Option Payload} {r : Request} {s : Scene σ}
    (h : s.Supplies name params r) : (s.perform r).2.fleet.calls = s.fleet.calls := by
  rcases h with ⟨-, hsame⟩ | ⟨g, -, hsupplied⟩
  · exact congrArg Provisions.calls hsame
  · exact congrArg Provisions.calls hsupplied

/-- What a fleet belongs to: the kind of window that looks after it, and where that window runs. -/
def station (s : Scene σ) : Role × Platform := (s.fleet.role, s.fleet.platform)

/-- Whatever is asked of it, a fleet stays where it is. -/
theorem station_perform (r : Request) (s : Scene σ) : (s.perform r).2.station = s.station := by
  have hof : ∀ {t : Scene σ}, t.fleet.provisions = s.fleet.provisions → t.station = s.station :=
    fun h => congrArg (fun p : Provisions => (p.role, p.platform)) h
  have hsupplies : ∀ {name params}, s.Supplies name params r →
      (s.perform r).2.station = s.station := fun h => by
    rcases h with ⟨-, hkept⟩ | ⟨g, -, hsupplied⟩
    · exact hof hkept
    · exact congrArg (fun p : Provisions => (p.role, p.platform)) hsupplied
  cases r with
  | openSatellite name params preferred =>
    exact hsupplies (supplies_openSatellite name params preferred s)
  | forceReopen name params => exact hsupplies (supplies_forceReopen name params s)
  | installCalls | updateSession => rfl
  | _ => exact hof (provisions_perform rfl s)

/-! ## What a run makes of provisions -/

/-- The parameters that a move supplies for a satellite: those that it was given, if the satellite
is opened anew. -/
def supplied (name : String) (m : Move σ) (s : Scene σ) : Option Payload :=
  if (s.happening m).opens name then m.params? else none

/-- What is told of the session and kept of parameters after a move. -/
structure Provided (m : Move σ) (s : Scene σ) : Prop where
  /-- The session is the one that the move tells to remember, if it tells one. -/
  session : (s.move m).fleet.session = m.session?.getD s.fleet.session
  /-- Parameters that the move supplies take the place of those kept before. -/
  startup (name : String) : (s.move m).fleet.startup.get? name =
    (s.supplied name m).or (s.fleet.startup.get? name)

/-- A move that is given no parameters supplies none. -/
theorem supplied_eq_none {m : Move σ} (hparams : m.params? = none) (name : String) (s : Scene σ) :
    s.supplied name m = none := by
  rw [supplied, hparams, ite_self]

/-- A move that comes with neither a session nor params supplies nobody. -/
theorem provided_of_unchanged {m : Move σ} {s : Scene σ} (hsession : m.session? = none)
    (hparams : m.params? = none) (hsame : (s.move m).fleet.provisions = s.fleet.provisions) :
    Provided m s where
  session := by
    rw [hsession]
    exact congrArg Provisions.session hsame
  startup name := by
    rw [supplied_eq_none hparams, Option.none_or]
    exact congrArg (fun p => p.startup.get? name) hsame

/-- A request to open a satellite provides what it supplies. -/
theorem provided_of_supplies {r : Request} {s : Scene σ} {name : String}
    (hsession : (Move.request (σ := σ) r).session? = none)
    (h : s.Supplies name (Move.request (σ := σ) r).params? r) : Provided (.request r) s := by
  rcases h with ⟨hmeaning, hsame⟩ | ⟨g, hmeaning, hsupplied⟩
  · refine ⟨?_, fun other => ?_⟩
    · rw [hsession]
      exact congrArg Provisions.session hsame
    · have hnothing : s.supplied other (.request r) = none := by
        rw [supplied, happening, hmeaning]
        rfl
      rw [hnothing, Option.none_or]
      exact congrArg (fun p => p.startup.get? other) hsame
  · refine ⟨?_, fun other => ?_⟩
    · rw [hsession]
      exact congrArg Provisions.session hsupplied
    · have hstartup := congrArg (fun p => p.startup.get? other) hsupplied
      rw [Provisions.get?_supply] at hstartup
      rw [supplied, happening, hmeaning]
      exact hstartup

/-- Whatever is asked, and whatever happens to the desktop, provides what it comes with. -/
theorem provided_move (m : Move σ) (s : Scene σ) : Provided m s := by
  cases m with
  | shift change => exact provided_of_unchanged rfl rfl rfl
  | request r =>
    cases r with
    | openSatellite name params preferred =>
      exact provided_of_supplies rfl (supplies_openSatellite name params preferred s)
    | forceReopen name params =>
      exact provided_of_supplies rfl (supplies_forceReopen name params s)
    | installCalls | updateSession =>
      refine ⟨rfl, fun name => ?_⟩
      rw [supplied_eq_none rfl, Option.none_or]
      rfl
    | _ => exact provided_of_unchanged rfl rfl (provisions_perform rfl s)

/-- What never changes is the same on a whole run. -/
theorem station_run (moves : List (Move σ)) (s : Scene σ) : (s.run moves).station = s.station := by
  induction moves generalizing s with
  | nil => rfl
  | cons m rest ih =>
    have hmove : (s.move m).station = s.station := by
      cases m with
      | request r => exact station_perform r s
      | shift change => rfl
    exact (ih (s.move m)).trans hmove

/-- The session that is remembered after a run is the last one it told to remember, or the first. -/
theorem session_run (moves : List (Move σ)) (s : Scene σ) :
    (s.run moves).fleet.session =
      (moves.filterMap Move.session?).getLast?.getD s.fleet.session := by
  induction moves generalizing s with
  | nil => rfl
  | cons m rest ih =>
    have hrun : s.run (m :: rest) = (s.move m).run rest := rfl
    -- what the first move tells is remembered only if no later move tells anything
    rw [hrun, ih, (provided_move m s).session, List.filterMap_cons]
    cases m.session? with
    | none => rfl
    | some v => rw [List.getLast?_cons]; rfl

/-- What is kept for a satellite after a run are the parameters that were last supplied for it. -/
theorem startup_run (name : String) (moves : List (Move σ)) (s : Scene σ) :
    (s.run moves).fleet.startup.get? name =
      (s.along (supplied name) moves).reduceOption.getLast?.or (s.fleet.startup.get? name) := by
  induction moves generalizing s with
  | nil => rfl
  | cons m rest ih =>
    have hrun : s.run (m :: rest) = (s.move m).run rest := rfl
    have halong : s.along (supplied name) (m :: rest) =
        s.supplied name m :: (s.move m).along (supplied name) rest := rfl
    rw [hrun, ih, (provided_move m s).startup, halong]
    cases s.supplied name m with
    | none => rw [List.reduceOption_cons_of_none, Option.none_or]
    | some v =>
      rw [List.reduceOption_cons_of_some, List.getLast?_cons]
      cases ((s.move m).along (supplied name) rest).reduceOption.getLast? <;> rfl

/-! ## What a window that registers is told -/

/-- What a window that registers is told: the session, and parameters if any are kept. -/
def briefing (session : Payload) (params : Option Payload) : List Message :=
  .setSession session :: params.toList.map .setStartup

/-- Messages that are handed to a window one after the other, with what becomes of each. -/
def handedOver (name : String) (w : WindowId) : List Message → σ → List Attempt
  | [], _ => []
  | m :: rest, world =>
    ⟨name, w, m, (Desktop.deliver w m world).1⟩ ::
      handedOver name w rest (Desktop.deliver w m world).2

/-- A message that is handed over is an attempt. -/
theorem attempts_deliver (name : String) (w : WindowId) (m : Message) (s : Scene σ) :
    (s.deliver name w m).journal.attempts =
      s.journal.attempts ++ [⟨name, w, m, (Desktop.deliver w m s.world).1⟩] := by
  unfold deliver
  cases Desktop.deliver w m s.world with
  | mk fault world =>
    cases fault <;> simp [record, report, count, alter, Journal.attempts, Effect.attempt?]

/-- A message that is not taken does not keep those after it from being handed over. -/
theorem attempts_deliverAll (name : String) (w : WindowId) (ms : List Message) (s : Scene σ) :
    (s.deliverAll name w ms).journal.attempts =
      s.journal.attempts ++ handedOver name w ms s.world := by
  induction ms generalizing s with
  | nil => exact (List.append_nil _).symm
  | cons m rest ih =>
    have hworld : (s.deliver name w m).world = (Desktop.deliver w m s.world).2 := by
      rw [deliver_eq]
    have hfirst : s.deliverAll name w (m :: rest) =
        (s.deliver name w m).deliverAll name w rest := rfl
    rw [hfirst, ih, attempts_deliver, hworld, List.append_assoc]
    rfl

/-- When it registers a satellite is handed its briefing. -/
theorem attempts_register (name : String) (w : WindowId) (s : Scene σ) :
    (s.register name w).journal.attempts = s.journal.attempts ++
      handedOver name w (briefing s.fleet.session (s.fleet.startup.get? name)) s.world := by
  have hregister : s.register name w = ((s.alter fun f =>
      { f with roster := f.roster.upsert ⟨name, w⟩, awaited := f.awaited.erase name }).deliverAll
        name w (briefing s.fleet.session (s.fleet.startup.get? name))).report
          (.registered name (windowText w)) := by
    have hkept : ∀ (m : Message) (t : Scene σ),
        (t.deliver name w m).fleet.startup = t.fleet.startup := fun m t =>
      congrArg Provisions.startup (routine_deliver name w m t).provisions
    unfold register briefing
    dsimp only
    -- parameters are looked up when the session has been handed over, which leaves them alone
    rw [hkept]
    dsimp only [alter]
    cases s.fleet.startup.get? name <;> rfl
  have hreport : ∀ (a : Activity) (t : Scene σ),
      (t.report a).journal.attempts = t.journal.attempts := by
    intro a t
    simp [report, record, Journal.attempts, Effect.attempt?]
  rw [hregister, hreport, attempts_deliverAll]
  rfl

/-- Windows register by requests and by calls to that effect. -/
theorem move_of_registered {m : Move σ} {s : Scene σ} {name : String} {w : WindowId}
    (h : s.happening m = .registered name w) : s.move m = s.register name w := by
  have hopening : ∀ r, s.meaningOfOpening r ≠ .registered name w := by
    intro r
    unfold meaningOfOpening
    split <;> exact nofun
  cases m with
  | shift change => cases h
  | request r =>
    have hmeaning : s.meaning r = .registered name w := h
    cases r with
    | register n v =>
      cases hmeaning
      rfl
    | openSatellite n params preferred => exact absurd hmeaning (hopening _)
    | forceReopen n params => exact absurd hmeaning (hopening _)
    | expire n g =>
      unfold meaning at hmeaning
      dsimp only at hmeaning
      split at hmeaning <;> cases hmeaning
    | invoke operation caller =>
      have hserved := served_invoke operation caller s
      rw [hmeaning] at hserved
      generalize hafter : (s.invoke operation caller).2 = t at hserved
      cases hserved with
      | registered => exact hafter
    | _ => cases hmeaning

/-- A request that asks for no window supplies nothing, whatever parameters it is given. -/
theorem supplied_of_not_asked {r : Request} {s : Scene σ}
    (h : (s.perform r).2.journal.openRequests = s.journal.openRequests) (name : String) :
    s.supplied name (.request r) = none := by
  have hasked : s.asked r = [] :=
    List.append_cancel_left ((asked_eq r s).symm.trans (h.trans (List.append_nil _).symm))
  have hopening : s.happening (.request r) = s.meaningOfOpening r →
      s.supplied name (.request r) = none := by
    intro hmeaning
    rw [supplied, hmeaning, meaningOfOpening, hasked]
    rfl
  cases r with
  | openSatellite | forceReopen => exact hopening rfl
  | _ => exact supplied_eq_none rfl name s

/-- On every run, a window that registers for a satellite is handed the session that was last to be
remembered, and then the parameters that were last supplied when the satellite was opened anew, if
any ever were; it is handed both whether or not it takes them, and nothing else. Requests that ask
for no window, because one was only brought to the front, because they failed, or because there was
nothing to do, supply no parameters. -/
theorem registration_briefs (role : Role) (platform : Platform) (session : Payload) (world : σ)
    (moves : List (Move σ)) (name : String) (w : WindowId) (m : Move σ) :
    let first := start role platform session world
    let s := first.run moves
    (s.happening m = .registered name w →
      (s.move m).journal.attempts = s.journal.attempts ++
        handedOver name w
          (briefing ((moves.filterMap Move.session?).getLast?.getD session)
            (first.along (supplied name) moves).reduceOption.getLast?) s.world) ∧
    ∀ r, (s.perform r).2.journal.openRequests = s.journal.openRequests →
      s.supplied name (.request r) = none := by
  intro first s
  refine ⟨fun hregistered => ?_, fun r h => supplied_of_not_asked h name⟩
  have hsession : s.fleet.session = (moves.filterMap Move.session?).getLast?.getD session :=
    session_run moves first
  have hstartup : s.fleet.startup.get? name =
      (first.along (supplied name) moves).reduceOption.getLast? := by
    rw [startup_run name moves first]
    exact Option.or_none
  rw [move_of_registered hregistered, attempts_register, hsession, hstartup]

/-- A satellite is opened with parameters that are null, its window is brought to the front with
others, another session is remembered, and the window is closed. -/
def broughtToFront : List (Move Simulation) :=
  [.request (.openSatellite "chart" (some .null) ⟨400, 300⟩), .request (.register "chart" 0),
    .request (.openSatellite "chart" (some (.int 2)) ⟨400, 300⟩),
    .request (.updateSession (.int 7)), .request .closeAll]

/-- A closed window that registers is handed the later session and the earlier parameters, though it
takes neither. Bringing the window to the front asked for none, so what was given then was not
kept. -/
theorem briefing_of_broughtToFront :
    let first := start .main .nativeShell (.int 6) ({ screen := ⟨1280, 800⟩ } : Simulation)
    let s := first.run broughtToFront
    let opened := first.run (broughtToFront.take 2)
    (s.move (.request (.register "chart" 0))).journal.attempts = s.journal.attempts ++
      [⟨"chart", 0, .setSession (.int 7), some (.windowClosed "chart")⟩,
        ⟨"chart", 0, .setStartup .null, some (.windowClosed "chart")⟩] ∧
    opened.supplied "chart" (.request (.openSatellite "chart" (some (.int 2)) ⟨400, 300⟩)) =
      none := by
  intro first s opened
  constructor
  · have hattempts := (registration_briefs .main .nativeShell (.int 6)
      ({ screen := ⟨1280, 800⟩ } : Simulation) broughtToFront "chart" 0
      (.request (.register "chart" 0))).1 rfl
    refine hattempts.trans (congrArg (s.journal.attempts ++ ·) ?_)
    decide +kernel
  · refine (registration_briefs .main .nativeShell (.int 6)
      ({ screen := ⟨1280, 800⟩ } : Simulation) (broughtToFront.take 2) "chart" 0
      (.request (.register "chart" 0))).2 _ ?_
    decide +kernel

end Scene

end SatelliteWindows
