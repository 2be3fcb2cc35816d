import SatelliteWindows.Proofs.Pending
import SatelliteWindows.Proofs.Watch

/-!
# No loss

A window that registers before what was held back for its satellite is passed on, and that stays
alive and takes every message from then on, gets every event since the opening exactly once and in
order. While it is waited for, all events are held back; afterwards what it got and what is held
back again are together all that was dispatched. Every move keeps this account.
-/

namespace SatelliteWindows

namespace Scene

open Happening Journal

variable {σ : Type} [Desktop σ]

/-! ## What is held back after a move -/

/-- What does not stop a satellite keeps its queue, and an event is put at the end of it. -/
theorem getD_onQueue {name : String} {x : Happening} (hx : x.stops name = false)
    (q : Option (List Event)) : (x.onQueue name q).getD [] =
      q.getD [] ++ if q.isSome then x.event?.toList else [] := by
  unfold onQueue
  cases hopens : x.opens name with
  | true =>
    have hevent : x.event? = none := by cases x <;> simp_all [opens, event?]
    simp [hevent]
  | false => cases q <;> simp [hx]

/-- What is held back for a satellite after a move that does not stop it. -/
theorem held_move {name : String} {s : Scene σ} {m : Move σ}
    (hx : (s.happening m).stops name = false) : (s.move m).fleet.backlog.held name =
      s.fleet.backlog.held name ++
        if s.fleet.isHolding name then (s.happening m).event?.toList else [] := by
  unfold Backlog.held
  rw [queue?_move, getD_onQueue hx]
  rfl

/-- A satellite is waited for until something stops it. -/
theorem isHolding_move {name : String} {s : Scene σ} {m : Move σ}
    (hholding : s.fleet.isHolding name = true) (hx : (s.happening m).stops name = false) :
    (s.move m).fleet.isHolding name = true := by
  have hbefore : s.handshake.backlog.isHolding name = true := hholding
  show (s.move m).handshake.backlog.isHolding name = true
  rw [(s.turn_move m).isHolding_eq name, hx, hbefore]
  simp

/-! ## While a satellite is waited for -/

/-- Nothing is handed to a window on behalf of a satellite that is waited for, except by a flush. -/
theorem passedFor_move_of_holding {name : String} {s : Scene σ} {m : Move σ}
    (hholding : s.fleet.isHolding name = true) (hx : s.happening m ≠ .flushed name) :
    (s.move m).journal.passedFor name = s.journal.passedFor name := by
  have hpassing := passing_move m s
  generalize s.happening m = x, s.move m = t at hpassing hx
  cases hpassing with
  | flushed n => exact passedFor_flush_of_ne (fun hn => hx (by rw [hn])) s
  | dispatched e => exact passedFor_dispatchEvent_of_holding hholding e
  | commanded c => exact (discreet_dispatchCommand c s).passedFor name
  | silent _ _ _ hpassed =>
    unfold passedFor
    rw [hpassed]

/-- As long as nothing stops it, every event is held back for a satellite that is waited for, and
none is handed to a window on its behalf. -/
theorem hold_run {name : String} (moves : List (Move σ)) (s : Scene σ)
    (hholding : s.fleet.isHolding name = true)
    (hstops : ∀ x ∈ s.history moves, x.stops name = false) :
    (s.run moves).fleet.isHolding name = true ∧
      (s.run moves).fleet.backlog.held name =
        s.fleet.backlog.held name ++ events (s.history moves) ∧
      (s.run moves).journal.passedFor name = s.journal.passedFor name := by
  induction moves generalizing s with
  | nil => exact ⟨hholding, (List.append_nil _).symm, rfl⟩
  | cons m rest ih =>
    have hx : (s.happening m).stops name = false := hstops _ List.mem_cons_self
    have hnot : s.happening m ≠ .flushed name := by
      intro h
      rw [h] at hx
      simp [stops] at hx
    obtain ⟨hlast, hheld, hpassed⟩ := ih (s.move m) (isHolding_move hholding hx)
      fun x hx => hstops x (List.mem_cons_of_mem _ hx)
    refine ⟨hlast, ?_, hpassed.trans (passedFor_move_of_holding hholding hnot)⟩
    rw [held_move hx, if_pos hholding, List.append_assoc, ← events_cons] at hheld
    exact hheld

/-! ## Once its window has registered -/

omit [Desktop σ] in
/-- What a window has taken, once it was handed more and took it. -/
theorem received_of_passedFor {name : String} {w : WindowId} {s t : Scene σ}
    {attempts : List Attempt}
    (h : t.journal.passedFor name = s.journal.passedFor name ++ attempts)
    (htook : ∀ a ∈ attempts, a.window = w ∧ a.fault = none) :
    received name w t.journal =
      received name w s.journal ++ attempts.filterMap fun a => a.message.event? := by
  have hall : (attempts.filter fun a => a.window == w && a.fault.isNone) = attempts := by
    refine List.filter_eq_self.mpr fun a ha => ?_
    obtain ⟨hw, hfault⟩ := htook a ha
    simp [hw, hfault]
  unfold received
  rw [h, List.filter_append, List.filterMap_append, hall]

variable {w : WindowId}

/-- A flush hands everything that was held back to the steady window that is registered. -/
theorem received_flush {name : String} {s : Scene (Watched σ w)} (hu : s.fleet.roster.Unique)
    (hentry : ⟨name, w⟩ ∈ s.fleet.roster.entries)
    (hsteady : (s.flush name).world.steady = true) :
    received name w (s.flush name).journal =
      received name w s.journal ++ s.fleet.backlog.held name := by
  have hbefore : s.world.steady = true :=
    Watched.steady_of_reaches (writes_flush name s).world hsteady
  have halive : s.isAlive w = true := s.world.alive hbefore
  have hlive : s.fleet.roster.live s.isAlive name = [⟨name, w⟩] :=
    hu.live_eq_singleton hentry halive
  obtain ⟨attempts, hpassed, hwhat⟩ := passedFor_flush hu name
  rcases hwhat with ⟨-, hnone⟩ | ⟨v, hv, hevents, htook⟩
  · rw [hlive] at hnone
    cases hnone
  · have hvw : v = w := by
      rw [hlive] at hv
      cases hv
      rfl
    subst hvw
    rw [← hevents]
    refine received_of_passedFor hpassed fun a ha => ?_
    obtain ⟨hwindow, hanswered⟩ := htook a ha
    exact ⟨hwindow, fault_eq_none_of_steady hsteady hanswered hwindow⟩

/-- A dispatch hands the event to the steady window that is registered, unless its satellite is
waited for. -/
theorem received_dispatchEvent {name : String} {s : Scene (Watched σ w)}
    (hu : s.fleet.roster.Unique) (hentry : ⟨name, w⟩ ∈ s.fleet.roster.entries)
    (hnot : s.fleet.isHolding name = false) {e : Event}
    (hsteady : (s.dispatchEvent e).world.steady = true) :
    received name w (s.dispatchEvent e).journal = received name w s.journal ++ [e] := by
  cases offered_dispatchEvent hu hnot e with
  | skipped _ hdead => exact absurd (hdead w hentry) (not_foundDead_of_steady hsteady)
  | handed a hpassed ha hmessage hanswered =>
    have hwindow : a.window = w := congrArg Entry.window (hu.eq_of_name_eq ha hentry rfl)
    have hfault : a.fault = none := fault_eq_none_of_steady hsteady hanswered hwindow
    have hevents : [a].filterMap (fun a => a.message.event?) = [e] := by
      simp [hmessage, Message.event?]
    rw [received_of_passedFor hpassed (by simp [hwindow, hfault]), hevents]

/-- What a steady window got and what is held back for its satellite are together what was
dispatched: each move keeps this account as long as it does not stop the satellite otherwise than
by a flush. -/
theorem received_move {name : String} {s : Scene (Watched σ w)} (hu : s.fleet.roster.Unique)
    (hentry : ⟨name, w⟩ ∈ s.fleet.roster.entries) {m : Move (Watched σ w)}
    (hsteady : (s.move m).world.steady = true)
    (hstops : (s.happening m).stops name = true → s.happening m = .flushed name) :
    received name w (s.move m).journal ++ (s.move m).fleet.backlog.held name =
      received name w s.journal ++ s.fleet.backlog.held name ++
        (s.happening m).event?.toList := by
  have hpassing := passing_move m s
  -- a flush moves the queue into the window; any other move adds to one of the two
  by_cases hflushed : s.happening m = .flushed name
  · have hheld : (s.move m).fleet.backlog.held name = [] := by
      unfold Backlog.held
      rw [queue?_move, hflushed]
      simp [onQueue, opens, stops]
    rw [hheld, hflushed]
    rw [hflushed] at hpassing
    generalize s.move m = t at hpassing hsteady
    cases hpassing with
    | flushed => simp [received_flush hu hentry hsteady, event?]
    | silent _ _ quiet _ => cases quiet
  · have hnot : (s.happening m).stops name = false := by
      cases h : (s.happening m).stops name with
      | false => rfl
      | true => exact absurd (hstops h) hflushed
    rw [held_move hnot]
    cases hholding : s.fleet.isHolding name with
    | true =>
      have hsame : received name w (s.move m).journal = received name w s.journal := by
        unfold received
        rw [passedFor_move_of_holding hholding hflushed]
      rw [hsame, if_pos rfl, List.append_assoc]
    | false =>
      have hnone : s.fleet.backlog.held name = [] := Backlog.held_eq_nil hholding
      rw [hnone, if_neg Bool.false_ne_true]
      simp only [List.append_nil]
      generalize s.happening m = x, s.move m = t at hpassing hsteady hflushed
      have hnothing : t.journal.passedFor name = s.journal.passedFor name → x.event? = none →
          received name w t.journal = received name w s.journal ++ x.event?.toList := by
        intro hpassed hevent
        unfold received
        rw [hpassed, hevent, Option.toList_none, List.append_nil]
      cases hpassing with
      | flushed n => exact hnothing (passedFor_flush_of_ne (fun hn => hflushed (by rw [hn])) s) rfl
      | dispatched e => exact received_dispatchEvent hu hentry hholding hsteady
      | commanded c => exact hnothing ((discreet_dispatchCommand c s).passedFor name) rfl
      | silent _ _ quiet hpassed =>
        refine hnothing ?_ ?_
        · unfold passedFor
          rw [hpassed]
        · cases x <;> first | rfl | cases quiet

/-- Over a whole run what a steady window got and what is held back for its satellite grow by what
is dispatched. -/
theorem received_run {name : String} (moves : List (Move σ)) (s : Scene (Watched σ w))
    (hu : s.fleet.roster.Unique) (hentry : ⟨name, w⟩ ∈ s.fleet.roster.entries)
    (hsteady : (s.run (moves.map (Move.watched w))).world.steady = true)
    (hregistered : ∀ v, .registered name v ∈ s.history (moves.map (Move.watched w)) → v = w)
    (hstops : ∀ x ∈ s.history (moves.map (Move.watched w)),
      x.stops name = true → x = .flushed name) :
    let t := s.run (moves.map (Move.watched w))
    received name w t.journal ++ t.fleet.backlog.held name =
      received name w s.journal ++ s.fleet.backlog.held name ++
        events (s.history (moves.map (Move.watched w))) := by
  induction moves generalizing s with
  | nil => exact (List.append_nil _).symm
  | cons m rest ih =>
    have hfirst : s.happening (m.watched w) ∈
        s.history ((m :: rest).map (Move.watched w)) := List.mem_cons_self
    have hthen : (s.move (m.watched w)).world.steady = true := steady_of_run rest hsteady
    have hmove := received_move hu hentry hthen (hstops _ hfirst)
    have hkept : ⟨name, w⟩ ∈ (s.move (m.watched w)).fleet.roster.entries := by
      refine (mem_move hentry (m.watched w) (fun v hv => ?_) fun hall => ?_).resolve_right
        (not_foundDead_of_steady hthen)
      · exact hregistered v (hv ▸ hfirst)
      · have hflushed := hstops _ hfirst (by rw [hall]; rfl)
        rw [hall] at hflushed
        cases hflushed
    have hrest := ih (s.move (m.watched w)) ((s.turn_move (m.watched w)).unique hu) hkept hsteady
      (fun v hv => hregistered v (List.mem_cons_of_mem _ hv))
      fun x hx => hstops x (List.mem_cons_of_mem _ hx)
    rw [hmove, List.append_assoc _ _ (events _), ← events_cons] at hrest
    exact hrest

/-! ## From the opening on -/

/-- An opening begins to hold back events if none were held back before. -/
theorem queue?_of_opened {name : String} {g : Nat} {s : Scene σ} {m : Move σ}
    (hnot : s.fleet.isHolding name = false) (hm : s.happening m = .opened name g) :
    (s.move m).fleet.backlog.queue? name = some [] := by
  have hnone : s.fleet.backlog.queue? name = none := Backlog.queue?_eq_none hnot
  rw [queue?_move, hm, hnone]
  simp [onQueue, opens]

/-- A window that registers is on the roster. -/
theorem mem_of_registered {name : String} {w : WindowId} {s : Scene σ} {m : Move σ}
    (hm : s.happening m = .registered name w) :
    ⟨name, w⟩ ∈ (s.move m).fleet.roster.entries := by
  have hturn := s.turn_move m
  rw [hm] at hturn
  show ⟨name, w⟩ ∈ (s.move m).handshake.roster.entries
  generalize (s.move m).handshake = k at hturn
  cases hturn with
  | registered => exact Roster.mem_upsert_self ⟨name, w⟩ _

/-- From the opening to the registration of a window everything is held back, and nothing is handed
to a window. -/
theorem held_of_registered {name : String} {g : Nat} {s : Scene σ} {opening registration : Move σ}
    {waiting : List (Move σ)} (hnot : s.fleet.isHolding name = false)
    (hopening : s.happening opening = .opened name g)
    (hstops : ∀ x ∈ (s.move opening).history waiting, x.stops name = false)
    (hregistration : ((s.move opening).run waiting).happening registration =
      .registered name w) :
    let registered := ((s.move opening).run waiting).move registration
    registered.fleet.backlog.held name = events ((s.move opening).history waiting) ∧
      registered.journal.passedFor name = s.journal.passedFor name := by
  intro registered
  have hqueue : (s.move opening).fleet.backlog.queue? name = some [] :=
    queue?_of_opened hnot hopening
  have hholding : (s.move opening).fleet.isHolding name = true := by
    simp [Fleet.isHolding, Backlog.isHolding, hqueue]
  obtain ⟨-, hheld, hpassed⟩ := hold_run waiting (s.move opening) hholding hstops
  constructor
  · have hnothing : (s.move opening).fleet.backlog.held name = [] := by simp [Backlog.held, hqueue]
    have hkept : registered.fleet.backlog.held name = _ :=
      held_move (by rw [hregistration]; rfl)
    rw [hkept, hregistration, hheld, hnothing]
    simp [event?]
  · have hopened : (s.move opening).journal.passed = s.journal.passed :=
      passed_move (by rw [hopening]; rfl)
    have hregistered : registered.journal.passed = ((s.move opening).run waiting).journal.passed :=
      passed_move (by rw [hregistration]; rfl)
    unfold passedFor at hpassed ⊢
    rw [hregistered, hpassed, hopened]

/-- The account of a window that keeps steady, in the run that nobody watches. -/
theorem received_of_keepsSteady {name : String} {s : Scene σ} {rest : List (Move σ)}
    (hu : s.fleet.roster.Unique) (hentry : ⟨name, w⟩ ∈ s.fleet.roster.entries)
    (hsteady : s.keepsSteady w rest = true)
    (hregistered : ∀ v, .registered name v ∈ s.history rest → v = w)
    (hstops : ∀ x ∈ s.history rest, x.stops name = true → x = .flushed name) :
    received name w (s.run rest).journal ++ (s.run rest).fleet.backlog.held name =
      received name w s.journal ++ s.fleet.backlog.held name ++ events (s.history rest) := by
  have haccount := received_run rest (s.watch w) hu hentry hsteady
    (by rw [history_watched]; exact hregistered) (by rw [history_watched]; exact hstops)
  obtain ⟨hfleet, hjournal⟩ := watched_run (w := w) rest s
  dsimp only at haccount
  rw [hjournal, hfleet, history_watched] at haccount
  exact haccount

/-- On any run, no name is registered twice if none was before. -/
theorem unique_of_run {s : Scene σ} (hu : s.fleet.roster.Unique) (moves : List (Move σ)) :
    (s.run moves).fleet.roster.Unique :=
  (Course.of_run moves s).induct Turn.unique hu

/-- Take any run after which nothing is held back for a satellite, and let the satellite be opened
anew then. Let a window register for it before a flush, and no other window afterwards; let the
satellite neither be closed nor given up; and let the window stay alive and take every message from
its registration on. Then, whenever nothing is held back for the satellite, the events that the
window has taken on its behalf since the opening are those dispatched since, each once and in
order. -/
theorem received_eq_dispatched (role : Role) (platform : Platform) (session : Payload) (world : σ)
    (past waiting rest : List (Move σ)) (registration : Move σ) (name : String) (w : WindowId)
    (params : Option Payload) (preferred : Size) :
    let opening : Request := .openSatellite name params preferred
    let before := (start role platform session world).run past
    let opened := before.move (.request opening)
    let registered := (opened.run waiting).move registration
    let after := registered.run rest
    let continuation := opened.history (waiting ++ registration :: rest)
    before.fleet.isHolding name = false →
    (∃ g, (before.perform opening).1 = .ok (.opening (.opened g))) →
    .flushed name ∉ opened.history waiting →
    (opened.run waiting).happening registration = .registered name w →
    (∀ v, .registered name v ∈ registered.history rest → v = w) →
    .closed name ∉ continuation → .allClosed ∉ continuation →
    (∀ g, .expired name g ∉ continuation) →
    registered.keepsSteady w rest = true →
    after.fleet.isHolding name = false →
    received name w (after.journal.drop before.journal.length) = events continuation := by
  intro opening before opened registered after continuation hbefore ⟨g, hanswer⟩ hwaiting
    hregistration hothers hclosed hall hexpired hsteady hafter
  have hsplit : continuation = opened.history waiting ++
      .registered name w :: registered.history rest := by
    show opened.history (waiting ++ registration :: rest) = _
    rw [history_append, ← hregistration]
    rfl
  -- of all that stops a queue the hypotheses leave the flushes
  have honly : ∀ x ∈ continuation, x.stops name = true → x = .flushed name := by
    intro x hx hstops
    rcases stops_cases hstops with h | h | h | ⟨g, h⟩
    · exact h
    · exact absurd (h ▸ hx) hclosed
    · exact absurd (h ▸ hx) hall
    · exact absurd (h ▸ hx) (hexpired g)
  have hopening : before.happening (.request opening) = .opened name g :=
    answer_eq_opened_iff.mp hanswer
  have hstops : ∀ x ∈ opened.history waiting, x.stops name = false := by
    intro x hx
    cases hxs : x.stops name with
    | false => rfl
    | true =>
      have hflushed := honly x (by rw [hsplit]; exact List.mem_append_left _ hx) hxs
      exact absurd (hflushed ▸ hx) hwaiting
  -- up to the registration everything is held back, and nothing is passed on
  obtain ⟨hheld, hpassed⟩ := held_of_registered hbefore hopening hstops hregistration
  have hunique : registered.fleet.roster.Unique := by
    have hstart := unique_run role platform session world past
    exact unique_of_run (unique_of_run (unique_of_run hstart [.request opening]) waiting)
      [registration]
  -- from then on what is taken and what is held back add up
  have haccount := received_of_keepsSteady hunique (mem_of_registered hregistration) hsteady
    hothers fun x hx => honly x (by
      rw [hsplit]
      exact List.mem_append_right _ (List.mem_cons_of_mem _ hx))
  have hempty : after.fleet.backlog.held name = [] := Backlog.held_eq_nil hafter
  have htaken : received name w after.journal =
      received name w before.journal ++ events continuation := by
    have hregistered : received name w registered.journal = received name w before.journal := by
      unfold received
      rw [hpassed]
    have hevents : events continuation =
        events (opened.history waiting) ++ events (registered.history rest) := by
      rw [hsplit, events_append, events_cons]
      rfl
    calc received name w after.journal
        = received name w after.journal ++ after.fleet.backlog.held name := by
          rw [hempty, List.append_nil]
      _ = received name w registered.journal ++ registered.fleet.backlog.held name ++
            events (registered.history rest) := haccount
      _ = received name w before.journal ++ events continuation := by
          rw [hregistered, hheld, hevents, List.append_assoc]
  obtain ⟨news, hnews⟩ : before.journal <+: after.journal :=
    (journal_run [.request opening] before).trans ((journal_run waiting opened).trans
      ((journal_run [registration] (opened.run waiting)).trans (journal_run rest registered)))
  rw [← hnews, received_append] at htaken
  rw [← hnews, List.drop_left]
  exact List.append_cancel_left htaken

/-- A simulated desktop on which one satellite has been opened. -/
def oneOpened : Scene Simulation :=
  (start .main .nativeShell .null { screen := ⟨1280, 800⟩ }).move
    (.request (.openSatellite "chart" none ⟨400, 300⟩))

/-- The dispatch of one event among others on the simulated desktop. -/
def tick (k : Int) : Move Simulation := .request (.dispatchEvent ⟨"tick", .int k⟩)

/-- One event before the registration, one between registration and flush, and one after it. -/
theorem received_of_ticks :
    let registered := (oneOpened.run [tick 1]).move (.request (.register "chart" 0))
    let after := registered.run [tick 2, .request (.flush "chart"), tick 3]
    received "chart" 0 after.journal =
      [⟨"tick", .int 1⟩, ⟨"tick", .int 2⟩, ⟨"tick", .int 3⟩] := by
  intro registered after
  have hrest : ((oneOpened.run [tick 1]).move (.request (.register "chart" 0))).history
      [tick 2, .request (.flush "chart"), tick 3] =
        [.dispatched ⟨"tick", .int 2⟩, .flushed "chart", .dispatched ⟨"tick", .int 3⟩] := by
    decide +kernel
  have hall : oneOpened.history
      ([tick 1] ++ .request (.register "chart" 0) ::
        [tick 2, .request (.flush "chart"), tick 3]) =
      [.dispatched ⟨"tick", .int 1⟩, .registered "chart" 0, .dispatched ⟨"tick", .int 2⟩,
        .flushed "chart", .dispatched ⟨"tick", .int 3⟩] := by decide +kernel
  refine (received_eq_dispatched .main .nativeShell .null ({ screen := ⟨1280, 800⟩ } : Simulation)
    [] [tick 1] [tick 2, .request (.flush "chart"), tick 3] (.request (.register "chart" 0))
    "chart" 0 none ⟨400, 300⟩ (by decide +kernel) ⟨1, by decide +kernel⟩ (by decide +kernel)
    (by decide +kernel) (fun v hv => ?_) (by decide +kernel) (by decide +kernel)
    (fun g hg => ?_) (by decide +kernel) (by decide +kernel)).trans (by decide +kernel)
  · have hv' : .registered "chart" v ∈ registered.history _ := hv
    rw [hrest] at hv'
    simp at hv'
  · have hg' : .expired "chart" g ∈ oneOpened.history _ := hg
    rw [hall] at hg'
    simp at hg'

end Scene

end SatelliteWindows
