import SatelliteWindows.Proofs.Office.Conduct
import SatelliteWindows.Proofs.Office.Letters
import SatelliteWindows.Simulation

/-!
# Shutting down

An order to shut down cuts the stream of letters in two, wherever it stands among them. Whatever was
posted ahead of it is carried out and answered in the next turns of the coordinator; then every
registered window is closed, and nothing is remembered of any satellite. Nothing posted behind it,
or later, is ever carried out, letters of alarms included: whoever waits for an answer is told that
there will be none, and once the mailbox is closed, so is everybody who writes.
-/

namespace SatelliteWindows

/-! ## Closing all windows -/

namespace Scene

variable {σ : Type} [Desktop σ]

/-- Windows are closed one after the other, and nothing else is done. -/
theorem closeWindows_eq (ws : List WindowId) (s : Scene σ) : (s.closeWindows ws).fleet = s.fleet ∧
    ∃ faults : List (Option Fault), faults.length = ws.length ∧
      (s.closeWindows ws).journal = s.journal ++ List.zipWith Effect.close ws faults := by
  induction ws generalizing s with
  | nil => exact ⟨rfl, [], rfl, (List.append_nil _).symm⟩
  | cons w rest ih =>
    obtain ⟨hfleet, faults, hlength, hjournal⟩ := ih (s.closeWindow w).2
    refine ⟨hfleet, (Desktop.close w s.world).1 :: faults, congrArg (· + 1) hlength, ?_⟩
    show ((s.closeWindow w).2.closeWindows rest).journal = _
    rw [hjournal]
    exact List.append_assoc _ _ _

/-- All satellites were closed at once: each registered window was asked to close, once and in
order, this was reported with the number of satellites, nothing else was done, and neither
registrations nor events held back nor openings are remembered. -/
structure AllClosed (s t : Scene σ) : Prop where
  /-- What was done. -/
  journal : ∃ faults : List (Option Fault), faults.length = s.fleet.roster.size ∧
    t.journal = s.journal ++
      List.zipWith Effect.close (s.fleet.roster.entries.map Entry.window) faults ++
        [.report (.allClosed s.fleet.roster.size)]
  /-- Nobody is registered. -/
  roster : t.fleet.roster.entries = []
  /-- Nothing is held back for anybody. -/
  backlog : ∀ name, t.fleet.isHolding name = false
  /-- No opening waits for an answer. -/
  awaited : ∀ name, t.fleet.awaited.get? name = none

/-- When the main window is closed all satellites are. -/
theorem allClosed_mainWindowClosed (s : Scene σ) : AllClosed s s.mainWindowClosed := by
  obtain ⟨-, faults, hlength, hjournal⟩ :=
    closeWindows_eq (s.fleet.roster.entries.map Entry.window)
      (s.alter fun f => { f with roster := Roster.empty })
  have hclear : s.mainWindowClosed.handshake = s.handshake.clear := handshake_closeAll s
  refine ⟨⟨faults, hlength.trans (List.length_map _), ?_⟩, ?_, fun name => ?_, fun name => ?_⟩
  · show (Scene.closeWindows _ _).journal ++ [_] = _
    exact congrArg (· ++ [Effect.report (.allClosed s.fleet.roster.size)]) hjournal
  · exact congrArg (fun h => h.roster.entries) hclear
  · exact (congrArg (fun h => h.backlog.isHolding name) hclear).trans rfl
  · exact (congrArg (fun h => h.awaited.get? name) hclear).trans (NameMap.get?_empty name)

omit [Desktop σ] in
/-- Closing all satellites reports it, and nothing else. -/
theorem AllClosed.activities {s t : Scene σ} (h : AllClosed s t) :
    Journal.activities (t.journal.drop s.journal.length) =
      [.allClosed s.fleet.roster.size] := by
  obtain ⟨faults, -, hjournal⟩ := h.journal
  have hnone : ∀ (ws : List WindowId) (faults : List (Option Fault)),
      Journal.activities (List.zipWith Effect.close ws faults) = [] := by
    intro ws
    induction ws with
    | nil => intro faults; rfl
    | cons w rest ih =>
      intro faults
      cases faults with
      | nil => rfl
      | cons f faults => exact ih faults
  rw [hjournal, List.append_assoc, List.drop_left, Journal.activities_append, hnone]
  rfl

/-- When only the desktop changes, nothing is remembered or done. -/
theorem run_shifts {moves : List (Move σ)} (h : ∀ m ∈ moves, ∃ change, m = .shift change)
    (s : Scene σ) : (s.run moves).fleet = s.fleet ∧ (s.run moves).journal = s.journal := by
  induction moves generalizing s with
  | nil => exact ⟨rfl, rfl⟩
  | cons m rest ih =>
    obtain ⟨change, rfl⟩ := h m List.mem_cons_self
    exact ih (fun m hm => h m (List.mem_cons_of_mem _ hm)) (s.move (.shift change))

end Scene

namespace Office

variable {ρ σ : Type}

/-! ## Once the coordinator has shut down -/

namespace Incident

/-- Nothing is read, and whoever waits for an answer is told that there will be none. -/
def IsIdle : Incident ρ σ → Prop
  | served .. | stopped _ => False
  | told _ (.request _) reply => reply = .error .channelClosed
  | _ => True

/-- Nothing is posted either, and whoever orders anything is refused it. -/
def Refuses : Incident ρ σ → Prop
  | posted _ | served .. | stopped _ | closed _ => False
  | told _ _ reply => reply = .error .channelClosed
  | _ => True

end Incident

/-- What is read of idle incidents, and what they do to the scene. -/
theorem of_isIdle {news : List (Incident ρ σ)} (h : ∀ x ∈ news, x.IsIdle) :
    read news = [] ∧ served news = [] ∧ ∀ m ∈ moves news, ∃ change, m = .shift change := by
  induction news with
  | nil => exact ⟨rfl, rfl, fun m hm => by cases hm⟩
  | cons x rest ih =>
    obtain ⟨hread, hserved, hmoves⟩ := ih fun y hy => h y (List.mem_cons_of_mem _ hy)
    have hx := h x List.mem_cons_self
    cases x with
    | served s r answer => exact hx.elim
    | stopped s => exact hx.elim
    | shifted change =>
      refine ⟨hread, hserved, fun m hm => ?_⟩
      rcases List.mem_cons.mp hm with rfl | hm
      · exact ⟨change, rfl⟩
      · exact hmoves m hm
    | posted l => exact ⟨hread, hserved, hmoves⟩
    | turnedAway p order => exact ⟨hread, hserved, hmoves⟩
    | closed ls => exact ⟨hread, hserved, hmoves⟩
    | told p order reply => exact ⟨hread, hserved, hmoves⟩

variable [DecidableEq ρ]

/-- Nobody is answered while nothing goes on but waiting. -/
theorem answered_of_isIdle {news : List (Incident ρ σ)} (h : ∀ x ∈ news, x.IsIdle) (p : ρ) :
    answered news p = [] := by
  refine List.filterMap_eq_nil_iff.mpr fun x hx => ?_
  have hidle := h x hx
  cases x with
  | served s r answer => exact hidle.elim
  | _ => rfl

variable [Desktop σ] {o o' : Office ρ σ}

/-- Nothing is read in a turn after the coordinator has shut down. -/
theorem isIdle_becomes (hturn : Becomes o o') (h : o.coordinator.running = false) :
    o'.coordinator.running = false ∧
      ∃ news, o'.incidents = o.incidents ++ news ∧ ∀ x ∈ news, x.IsIdle := by
  have hnothing : ∃ news, o.incidents = o.incidents ++ news ∧ ∀ x ∈ news, Incident.IsIdle x :=
    ⟨[], (List.append_nil _).symm, fun x hx => by cases hx⟩
  cases hturn with
  | same => exact ⟨h, hnothing⟩
  | waits l m isOpen ready full => exact ⟨h, hnothing⟩
  | posts l m isOpen ready place =>
    refine ⟨(congrArg Coordinator.running (struck_coordinator l _)).trans h, _,
      struck_incidents l _, fun x hx => ?_⟩
    rcases List.mem_cons.mp hx with rfl | hx
    · trivial
    · obtain ⟨p, rfl⟩ := mem_receipt hx
      trivial
  | turnsAway p order rest isClosed next =>
    refine ⟨h, _, rfl, fun x hx => ?_⟩
    rcases List.mem_cons.mp hx with rfl | hx
    · trivial
    · rw [List.mem_singleton.mp hx]
      cases order <;> trivial
  | silences t isClosed => exact ⟨h, hnothing⟩
  | serves s r rest running letters => exact absurd (running.symm.trans h) nofun
  | stops s rest running letters => exact absurd (running.symm.trans h) nofun
  | closes stopped isOpen =>
    refine ⟨h, _, rfl, fun x hx => ?_⟩
    rcases List.mem_cons.mp hx with rfl | hx
    · trivial
    · obtain ⟨l, -, hl⟩ := List.mem_flatMap.mp hx
      obtain ⟨p, r, rfl⟩ := mem_answer hl
      rfl
  | passes ms => exact ⟨(o.coordinator.wait_fields ms).2.1.trans h, hnothing⟩
  | shifts change =>
    refine ⟨h, _, rfl, fun x hx => ?_⟩
    rw [List.mem_singleton.mp hx]
    trivial

/-- Whoever writes in a turn after the mailbox was closed is refused. -/
theorem refuses_becomes (hturn : Becomes o o')
    (h : o.coordinator.running = false ∧ o.isClosed = true) :
    (o'.coordinator.running = false ∧ o'.isClosed = true) ∧
      ∃ news, o'.incidents = o.incidents ++ news ∧ ∀ x ∈ news, x.Refuses := by
  obtain ⟨hstopped, hclosed⟩ := h
  have hnothing : ∃ news, o.incidents = o.incidents ++ news ∧ ∀ x ∈ news, Incident.Refuses x :=
    ⟨[], (List.append_nil _).symm, fun x hx => by cases hx⟩
  cases hturn with
  | same => exact ⟨⟨hstopped, hclosed⟩, hnothing⟩
  | waits l m isOpen ready full => exact absurd (isOpen.symm.trans hclosed) nofun
  | posts l m isOpen ready place => exact absurd (isOpen.symm.trans hclosed) nofun
  | turnsAway p order rest isClosed next =>
    refine ⟨⟨hstopped, hclosed⟩, _, rfl, fun x hx => ?_⟩
    rcases List.mem_cons.mp hx with rfl | hx
    · trivial
    · rw [List.mem_singleton.mp hx]
      rfl
  | silences t isClosed => exact ⟨⟨hstopped, hclosed⟩, hnothing⟩
  | serves s r rest running letters => exact absurd (running.symm.trans hstopped) nofun
  | stops s rest running letters => exact absurd (running.symm.trans hstopped) nofun
  | closes stopped isOpen => exact absurd (isOpen.symm.trans hclosed) nofun
  | passes ms => exact ⟨⟨(o.coordinator.wait_fields ms).2.1.trans hstopped, hclosed⟩, hnothing⟩
  | shifts change =>
    refine ⟨⟨hstopped, hclosed⟩, _, rfl, fun x hx => ?_⟩
    rw [List.mem_singleton.mp hx]
    trivial

/-- What every turn adds to the log as long as something is kept is added by a whole run. -/
theorem run_adds {P : Office ρ σ → Prop} {Q : Incident ρ σ → Prop}
    (hturn : ∀ {o o' : Office ρ σ}, Becomes o o' → P o →
      P o' ∧ ∃ news, o'.incidents = o.incidents ++ news ∧ ∀ x ∈ news, Q x)
    (acts : List (Act ρ σ)) (h : P o) : P (o.run acts) ∧
      ∃ news, (o.run acts).incidents = o.incidents ++ news ∧ ∀ x ∈ news, Q x := by
  refine run_induct (P := fun o' => P o' ∧
    ∃ news, o'.incidents = o.incidents ++ news ∧ ∀ x ∈ news, Q x) ?_ acts
    ⟨h, [], (List.append_nil _).symm, fun x hx => by cases hx⟩
  rintro o₁ o₂ hbecomes ⟨hkept, news, hincidents, hnews⟩
  obtain ⟨hkept', more, hmore, hall⟩ := hturn hbecomes hkept
  refine ⟨hkept', news ++ more, by rw [hmore, hincidents, List.append_assoc], fun x hx => ?_⟩
  exact (List.mem_append.mp hx).elim (hnews x) (hall x)

/-! ## Everybody is told -/

/-- Whether a client has a turn. -/
def Act.isTurnOf (p : ρ) : Act ρ σ → Bool
  | send q => q == p
  | _ => false

/-- How many turns a client has. -/
def turns (p : ρ) (acts : List (Act ρ σ)) : Nat := (acts.filter (Act.isTurnOf p)).length

/-- In every turn after the mailbox was closed a client has one order less left. -/
theorem orders_act_of_closed (h : o.coordinator.running = false ∧ o.isClosed = true)
    (a : Act ρ σ) (p : ρ) : (o.act a).orders p = (o.orders p).drop (turns p [a]) := by
  obtain ⟨hstopped, hclosed⟩ := h
  cases a with
  | send q =>
    show (o.send q).orders p = _
    unfold send
    cases horders : o.orders q with
    | nil =>
      by_cases hq : q = p
      · subst hq
        rw [horders, List.drop_nil]
      · simp [turns, Act.isTurnOf, hq]
    | cons order rest =>
      simp only [hclosed, if_true]
      show (if p = q then rest else o.orders p) = _
      by_cases hq : p = q
      · subst hq
        simp [turns, Act.isTurnOf, horders]
      · have hp : ¬ q = p := fun heq => hq heq.symm
        simp [turns, Act.isTurnOf, hq, hp]
  | ring t =>
    show (o.ring t).orders p = o.orders p
    unfold ring
    simp only [hclosed, if_true]
    split <;> rfl
  | work =>
    show o.work.orders p = o.orders p
    unfold work
    simp [hstopped, hclosed]
  | pass ms => rfl
  | shift change => rfl

/-- When the mailbox is closed a client loses one order in each of its turns. -/
theorem orders_run_of_closed (acts : List (Act ρ σ))
    (h : o.coordinator.running = false ∧ o.isClosed = true) (p : ρ) :
    (o.run acts).orders p = (o.orders p).drop (turns p acts) := by
  induction acts generalizing o with
  | nil => rfl
  | cons a rest ih =>
    have hturns : turns p (a :: rest) = turns p [a] + turns p rest := by
      unfold turns
      rw [← List.singleton_append, List.filter_append, List.length_append]
    rw [hturns, ← List.drop_drop, ← orders_act_of_closed h a p]
    exact ih (refuses_becomes (becomes_act a o) h).1

/-- The mailbox is closed in the turn of a coordinator that has shut down. -/
theorem closed_work (h : o.coordinator.running = false) :
    (o.act .work).coordinator.running = false ∧ (o.act .work).isClosed = true := by
  show o.work.coordinator.running = false ∧ o.work.isClosed = true
  unfold work
  rw [if_neg (by rw [h]; exact Bool.false_ne_true)]
  split
  · next hclosed => exact ⟨h, hclosed⟩
  · exact ⟨h, rfl⟩

omit [Desktop σ] in
/-- Once a client has nothing left to order and the mailbox is closed, it was told of each of its
requests: the answers to those that were carried out, and of all others that they were not. -/
theorem Ledger.all_told {orders : ρ → List Order} (h : Ledger orders o)
    {executed : List (Incident ρ σ)} {s : Correspondent ρ}
    (hread : read o.incidents = served executed ++ [⟨s, .shutdown⟩])
    (hanswered : ∀ p, answered o.incidents p = answered executed p)
    (isClosed : o.isClosed = true) {p : ρ} (left : o.orders p = []) :
    ∃ unserved, (orders p).filterMap Order.request? =
        (answered executed p).map Prod.fst ++ unserved ∧
      told o.incidents p =
        answered executed p ++ unserved.map fun r => (r, .error .channelClosed) := by
  refine ⟨(ordersOf p (dropped o.incidents) ++ turnedAway o.incidents p).filterMap Order.request?,
    ?_, ?_⟩
  · have hshutdown : (ordersOf p [(⟨s, .shutdown⟩ : Letter ρ)]).filterMap Order.request? = [] := by
      unfold ordersOf
      by_cases hs : s = .client p <;> simp [List.filterMap_cons, hs, Order.request?]
    rw [h.placed p, left, h.letters, h.isClosed isClosed, hread]
    simp only [List.append_nil, List.nil_append, ordersOf_append, List.filterMap_append,
      requests_served, hshutdown, List.append_assoc]
  · rw [h.replies p, hanswered p]
    rfl

/-! ## Until the order is read -/

/-- The coordinator is at work, and an order to shut down waits behind requests. -/
structure Queued (s : Correspondent ρ) (ahead behind : List (Letter ρ)) (o : Office ρ σ) :
    Prop where
  /-- The coordinator is at work. -/
  running : o.coordinator.running = true
  /-- The letters, oldest first. -/
  letters : o.mailbox.letters = ahead ++ ⟨s, .shutdown⟩ :: behind
  /-- What is ahead are requests. -/
  requests : ∀ l ∈ ahead, l.order ≠ .shutdown

/-- Nothing is read: letters are added at most. -/
structure Waits (o o' : Office ρ σ) : Prop where
  /-- The coordinator neither shuts down nor begins to work again. -/
  running : o'.coordinator.running = o.coordinator.running
  /-- No request is carried out. -/
  served : served o'.incidents = served o.incidents
  /-- Letters stay where they are. -/
  letters : o.mailbox.letters <+: o'.mailbox.letters

/-- Whether the coordinator has a turn. -/
def Act.isWork : Act ρ σ → Bool
  | work => true
  | _ => false

/-- How many turns the coordinator has. -/
def workTurns (acts : List (Act ρ σ)) : Nat := (acts.filter Act.isWork).length

omit [Desktop σ] in
/-- While a letter is put in, or its sender waits, the coordinator does not move. -/
theorem waits_post (l : Letter ρ) (o : Office ρ σ) : Waits o (o.post l).2 := by
  have hletters := o.mailbox.letters_reserve l.sender
  unfold post
  cases hreserve : o.mailbox.reserve l.sender with
  | mk place m =>
    rw [hreserve] at hletters
    cases place with
    | false => exact ⟨rfl, rfl, hletters ▸ List.prefix_rfl⟩
    | true =>
      refine ⟨rfl, ?_, [l], congrArg (· ++ [l]) hletters.symm⟩
      show served (o.incidents ++ .posted l :: l.receipt) = served o.incidents
      have hnone : served (.posted l :: l.receipt (σ := σ)) = [] := (unread_receipt l).served
      rw [served_append, hnone, List.append_nil]

omit [Desktop σ] in
/-- Nor does it in a client's turn. -/
theorem waits_send (p : ρ) (o : Office ρ σ) : Waits o (o.send p) := by
  have hsame : Waits o o := ⟨rfl, rfl, List.prefix_rfl⟩
  unfold send
  cases o.orders p with
  | nil => exact hsame
  | cons order rest =>
    dsimp only
    split
    · refine ⟨rfl, ?_, List.prefix_rfl⟩
      show served (o.incidents ++ [_, _]) = served o.incidents
      rw [served_append]
      exact List.append_nil _
    · split
      · have hpost := waits_post ⟨.client p, order⟩ o
        cases hposted : o.post ⟨.client p, order⟩ with
        | mk place o₁ =>
          rw [hposted] at hpost
          cases place with
          | true => exact ⟨hpost.running, hpost.served, hpost.letters⟩
          | false => exact hpost
      · exact hsame

omit [Desktop σ] in
/-- Nor does it in an alarm's. -/
theorem waits_ring (t : Timer) (o : Office ρ σ) : Waits o (o.ring t) := by
  have hsame : Waits o o := ⟨rfl, rfl, List.prefix_rfl⟩
  unfold ring
  split
  · split
    · exact ⟨rfl, rfl, List.prefix_rfl⟩
    · have hpost := waits_post (.ofAlarm t) o
      cases hposted : o.post (.ofAlarm t) with
      | mk place o₁ =>
        rw [hposted] at hpost
        cases place with
        | true => exact ⟨hpost.running, hpost.served, hpost.letters⟩
        | false => exact hpost
  · exact hsame

/-- Letters wait while anybody but the coordinator has a turn. -/
theorem waits_act {a : Act ρ σ} (ha : a.isWork = false) (o : Office ρ σ) : Waits o (o.act a) := by
  cases a with
  | send p => exact waits_send p o
  | ring t => exact waits_ring t o
  | work => cases ha
  | pass ms => exact ⟨(o.coordinator.wait_fields ms).2.1, rfl, List.prefix_rfl⟩
  | shift change =>
    refine ⟨rfl, ?_, List.prefix_rfl⟩
    show served (o.incidents ++ [.shifted change]) = served o.incidents
    rw [served_append]
    exact List.append_nil _

omit [DecidableEq ρ] [Desktop σ] in
/-- An order to shut down keeps its place while letters are added. -/
theorem Queued.waits {s : Correspondent ρ} {ahead behind : List (Letter ρ)}
    (h : Queued s ahead behind o) (hwaits : Waits o o') :
    ∃ late, Queued s ahead (behind ++ late) o' := by
  obtain ⟨late, hlate⟩ := hwaits.letters
  refine ⟨late, hwaits.running.trans h.running, ?_, h.requests⟩
  rw [← hlate, h.letters, List.append_assoc]
  rfl

omit [DecidableEq ρ] in
/-- In a turn of the coordinator the first request is carried out, and the order to shut down moves
up. -/
theorem Queued.serve {s : Correspondent ρ} {l : Letter ρ} {ahead behind : List (Letter ρ)}
    (h : Queued s (l :: ahead) behind o) : Queued s ahead behind o.work ∧
      served o.work.incidents = served o.incidents ++ [l] := by
  obtain ⟨sender, order⟩ := l
  cases order with
  | shutdown => exact absurd rfl (h.requests _ List.mem_cons_self)
  | request r =>
    rw [work_of_letter h.running h.letters]
    refine ⟨⟨(Coordinator.serve_of_running h.running r).2.2.1, Mailbox.letters_release _,
      fun l hl => h.requests l (List.mem_cons_of_mem _ hl)⟩, ?_⟩
    show served (o.incidents ++ .served sender r _ :: Letter.answer _ ⟨sender, .request r⟩) = _
    rw [served_append, (read_served _ sender r).2.1]

/-- Whoever has turns besides, the coordinator carries out in its next turns the requests that are
ahead of an order to shut down, and then has this order to read. -/
theorem Queued.run {s : Correspondent ρ} {ahead behind : List (Letter ρ)}
    (h : Queued s ahead behind o) {acts : List (Act ρ σ)} (hturns : workTurns acts = ahead.length) :
    ∃ late, Queued s [] (behind ++ late) (o.run acts) ∧
      served (o.run acts).incidents = served o.incidents ++ ahead := by
  induction acts generalizing o ahead behind with
  | nil =>
    obtain rfl : ahead = [] := List.length_eq_zero_iff.mp hturns.symm
    exact ⟨[], (List.append_nil behind).symm ▸ h, (List.append_nil _).symm⟩
  | cons a rest ih =>
    cases ha : a.isWork with
    | false =>
      have hturns' : workTurns rest = ahead.length := by
        rw [← hturns]
        simp [workTurns, ha]
      have hwaits := waits_act ha o
      obtain ⟨late, hqueued⟩ := h.waits hwaits
      obtain ⟨later, hlast, hserved⟩ := ih hqueued hturns'
      exact ⟨late ++ later, (List.append_assoc behind late later) ▸ hlast,
        hserved.trans (congrArg (· ++ ahead) hwaits.served)⟩
    | true =>
      obtain rfl : a = .work := by cases a <;> first | rfl | cases ha
      cases ahead with
      | nil => simp [workTurns, Act.isWork] at hturns
      | cons l ahead =>
        have hturns' : workTurns rest = ahead.length := by
          simpa [workTurns, ha] using hturns
        obtain ⟨hqueued, hone⟩ := h.serve
        obtain ⟨late, hlast, hserved⟩ := ih hqueued hturns'
        refine ⟨late, hlast, hserved.trans ?_⟩
        rw [hone, List.append_assoc]
        rfl

/-! ## The cut -/

/-- The orders of all clients are cut off at an order to shut down that is about to be read. Before
it is read, the office is `before`; then the coordinator shuts down, and there are further turns. -/
structure CutOff (c : Coordinator σ) (orders : ρ → List Order) (before : Office ρ σ)
    (s : Correspondent ρ) (behind : List (Letter ρ)) (later : List (Act ρ σ)) : Prop where
  /-- What was posted ahead of it was carried out, each letter once, in the order of arrival. -/
  ahead : posted before.incidents = served before.incidents ++ ⟨s, .shutdown⟩ :: behind
  /-- The scene is what these requests have made of it, one after the other, and each was answered
  with what came of it. -/
  conduct : Conduct c before
  /-- Clients were told these answers. -/
  answers : ∀ p, told before.incidents p = answered before.incidents p
  /-- When it is read, all satellites are closed. -/
  closing : Scene.AllClosed before.coordinator.scene (before.act .work).coordinator.scene
  /-- This is published, with the number of satellites. -/
  announced : (before.act .work).coordinator.feed =
    before.coordinator.feed.send (.allClosed before.coordinator.scene.fleet.roster.size)
  /-- Nothing is read afterwards, and whoever still waits for an answer is told that there will be
  none. -/
  idle : ∃ news, ((before.act .work).run later).incidents =
      (before.act .work).incidents ++ news ∧ (∀ x ∈ news, x.IsIdle) ∧
    ((before.act .work).run later).coordinator.scene =
      (before.act .work).coordinator.scene.run (moves news)
  /-- Nothing is done afterwards, remembered or published. -/
  unchanged : ((before.act .work).run later).coordinator.scene.fleet =
      (before.act .work).coordinator.scene.fleet ∧
    ((before.act .work).run later).coordinator.scene.journal =
      (before.act .work).coordinator.scene.journal ∧
    ((before.act .work).run later).coordinator.feed = (before.act .work).coordinator.feed
  /-- Once the mailbox is closed, whoever orders anything is refused it. -/
  refused : ∀ first rest, later = first ++ rest →
    ((before.act .work).run first).isClosed = true →
      ∃ news, ((before.act .work).run later).incidents =
        ((before.act .work).run first).incidents ++ news ∧ ∀ x ∈ news, x.Refuses
  /-- A client that has a turn for each of its orders after another turn of the coordinator was told
  of all its requests: the answers to those that were carried out, and of the others that they were
  not. -/
  everybody : ∀ p first rest, later = first ++ .work :: rest →
    (((before.act .work).run first).orders p).length ≤ turns p rest →
      ∃ unserved, (orders p).filterMap Order.request? =
          (answered before.incidents p).map Prod.fst ++ unserved ∧
        told ((before.act .work).run later).incidents p =
          answered before.incidents p ++ unserved.map fun r => (r, .error .channelClosed)

/-- What becomes of an office when an order to shut down is read. -/
theorem Queued.stop {s : Correspondent ρ} {behind : List (Letter ρ)} (h : Queued s [] behind o) :
    (o.act .work).coordinator = o.coordinator.shutdown.2 ∧
      (o.act .work).incidents = o.incidents ++ [.stopped s] := by
  have hletters : o.mailbox.letters = ⟨s, .shutdown⟩ :: behind := h.letters
  show o.work.coordinator = _ ∧ o.work.incidents = _
  rw [work_of_letter h.running hletters]
  exact ⟨rfl, rfl⟩

/-- Once the letter to shut down is the first, the coordinator stops in its next turn. -/
theorem Queued.stopped {s : Correspondent ρ} {behind : List (Letter ρ)} (h : Queued s [] behind o) :
    (o.act .work).coordinator.running = false := by
  rw [h.stop.1]
  exact (Coordinator.shutdown_of_running h.running).2.2.1

/-- Once the coordinator has shut down, nothing is read, done, remembered or published. -/
theorem Conduct.idle_run {c : Coordinator σ} (h : Conduct c o)
    (stopped : o.coordinator.running = false) (later : List (Act ρ σ)) :
    (∃ news, (o.run later).incidents = o.incidents ++ news ∧ (∀ x ∈ news, x.IsIdle) ∧
      (o.run later).coordinator.scene = o.coordinator.scene.run (moves news)) ∧
    (o.run later).coordinator.scene.fleet = o.coordinator.scene.fleet ∧
    (o.run later).coordinator.scene.journal = o.coordinator.scene.journal ∧
    (o.run later).coordinator.feed = o.coordinator.feed := by
  obtain ⟨-, news, hnews, hidle⟩ := run_adds isIdle_becomes later stopped
  have hlast := h.run later
  have hscene : (o.run later).coordinator.scene = o.coordinator.scene.run (moves news) := by
    rw [hlast.scene, hnews, moves_append, Scene.run_append, ← h.scene]
  obtain ⟨hfleet, hjournal⟩ := Scene.run_shifts (of_isIdle hidle).2.2 o.coordinator.scene
  rw [← hscene] at hfleet hjournal
  refine ⟨⟨news, hnews, hidle, hscene⟩, hfleet, hjournal, ?_⟩
  rw [hlast.published, h.published, hjournal]

/-- Whoever has a turn for each order that is left, after a turn of the coordinator that has shut
down, was told of all requests. -/
theorem Queued.everybody_told {orders : ρ → List Order} (hledger : Ledger orders o)
    {s : Correspondent ρ} {behind : List (Letter ρ)} (h : Queued s [] behind o) {p : ρ}
    {first rest : List (Act ρ σ)}
    (hturns : (((o.act .work).run first).orders p).length ≤ turns p rest) :
    ∃ unserved, (orders p).filterMap Order.request? =
        (answered o.incidents p).map Prod.fst ++ unserved ∧
      told ((o.act .work).run (first ++ .work :: rest)).incidents p =
        answered o.incidents p ++ unserved.map fun r => (r, .error .channelClosed) := by
  obtain ⟨-, news, hnews, hidle⟩ :=
    run_adds isIdle_becomes (first ++ .work :: rest) h.stopped
  have hstopped := (run_adds isIdle_becomes first h.stopped).1
  have hclosed := closed_work hstopped
  have hafter : (o.act .work).run (first ++ .work :: rest) =
      (((o.act .work).run first).act .work).run rest := run_append _ _ _
  have hread : read ((o.act .work).run (first ++ .work :: rest)).incidents =
      served o.incidents ++ [⟨s, .shutdown⟩] := by
    rw [hnews, h.stop.2, read_append, read_append, (of_isIdle hidle).1,
      (hledger.running h.running).2]
    exact List.append_nil _
  have hanswered : ∀ q, answered ((o.act .work).run (first ++ .work :: rest)).incidents q =
      answered o.incidents q := by
    intro q
    rw [hnews, h.stop.2, answered_append, answered_append, answered_of_isIdle hidle,
      List.append_nil]
    exact List.append_nil _
  refine ((hledger.becomes (becomes_act .work o)).run (first ++ .work :: rest)).all_told hread
    hanswered ?_ ?_
  · rw [hafter]
    exact (run_adds refuses_becomes rest hclosed).1.2
  · have hkept : (((o.act .work).run first).act .work).orders p =
        ((o.act .work).run first).orders p := by
      show ((o.act .work).run first).work.orders p = _
      unfold work
      rw [if_neg (by rw [hstopped]; exact Bool.false_ne_true)]
      split <;> rfl
    rw [hafter, orders_run_of_closed rest hclosed, hkept]
    exact List.drop_eq_nil_of_le hturns

/-- An order to shut down that is about to be read cuts off the orders of all clients. -/
theorem Queued.cutOff {c : Coordinator σ} {orders : ρ → List Order} (hledger : Ledger orders o)
    (hconduct : Conduct c o) {s : Correspondent ρ} {behind : List (Letter ρ)}
    (h : Queued s [] behind o) (later : List (Act ρ σ)) : CutOff c orders o s behind later := by
  obtain ⟨hopen, hread⟩ := hledger.running h.running
  obtain ⟨hdropped, hnobody⟩ := hledger.isOpen hopen
  have hclosing : Scene.AllClosed o.coordinator.scene o.coordinator.scene.mainWindowClosed :=
    Scene.allClosed_mainWindowClosed _
  obtain ⟨hidle, hunchanged⟩ :=
    (hconduct.becomes (becomes_act .work o)).idle_run h.stopped later
  refine ⟨?_, hconduct, fun p => ?_, ?_, ?_, hidle, hunchanged, ?_, ?_⟩
  · rw [hledger.letters, hread, hdropped, h.letters, List.append_nil]
    rfl
  · rw [hledger.replies p, hdropped, hnobody p]
    exact List.append_nil _
  · rw [h.stop.1, (Coordinator.shutdown_of_running h.running).1]
    exact hclosing
  · rw [h.stop.1, feed_shutdown h.running, hclosing.activities]
    rfl
  · rintro first rest rfl hclosed
    rw [run_append]
    exact (run_adds refuses_becomes rest
      ⟨(run_adds isIdle_becomes first h.stopped).1, hclosed⟩).2
  · rintro p first rest rfl hturns
    exact h.everybody_told hledger hturns

/-- Wherever an order to shut down waits among the letters for a coordinator at work, and whoever
has turns before it is read and later: the coordinator carries out the requests that are ahead of
it, and then it cuts off the orders of all clients. -/
theorem shutdown_cuts_off (capacity : Nat) (orders : ρ → List Order) (isPatient : ρ → Bool)
    (c : Coordinator σ) (acts meanwhile later : List (Act ρ σ)) (s : Correspondent ρ)
    (ahead behind : List (Letter ρ)) :
    let o := (assemble capacity orders isPatient c).run acts
    let before := o.run meanwhile
    Queued s ahead behind o → workTurns meanwhile = ahead.length →
      ∃ late, Queued s [] (behind ++ late) before ∧
        served before.incidents = served o.incidents ++ ahead ∧
        CutOff c orders before s (behind ++ late) later := by
  intro o before h hturns
  obtain ⟨late, hnext, hserved⟩ := h.run hturns
  have hledger : Ledger orders o := ledger_run capacity orders isPatient c acts
  have hconduct : Conduct c o := conduct_run capacity orders isPatient c acts
  exact ⟨late, hnext, hserved, hnext.cutOff (hledger.run meanwhile) (hconduct.run meanwhile) later⟩

/-- A coordinator with one satellite. -/
def attended : Coordinator Simulation :=
  ((Coordinator.start {} .nativeShell .null { screen := ⟨1280, 800⟩ }).serveAll
    [.openSatellite "chart" none ⟨400, 300⟩, .register "chart" 0, .flush "chart"]).2

/-- One client produces an event and shuts the coordinator down; the other one produces an event as
well. -/
def lateProducer : Fin 2 → List Order
  | 0 => [.request (.dispatchEvent ⟨"tick", .int 1⟩), .shutdown]
  | 1 => [.request (.dispatchEvent ⟨"tick", .int 2⟩)]

/-- The second client posts its event when there is a place for it, behind the order to shut down,
and is told that the event was not passed on. -/
theorem late_request_refused :
    let o := (assemble 2 lateProducer (fun _ => false) attended).run
      ([.send 0, .send 0] : List (Act (Fin 2) Simulation))
    let before := o.run [.send 1, .work, .send 1]
    ∃ late, CutOff attended lateProducer before (.client 0) late [.work] ∧
      late = [⟨.client 1, .request (.dispatchEvent ⟨"tick", .int 2⟩)⟩] ∧
      told ((before.act .work).run [.work]).incidents 1 =
        [(.dispatchEvent ⟨"tick", .int 2⟩, .error .channelClosed)] := by
  intro o before
  have hqueued : Queued (.client 0)
      [⟨.client 0, .request (.dispatchEvent ⟨"tick", .int 1⟩)⟩] [] o :=
    ⟨by decide +kernel, by decide +kernel, by decide +kernel⟩
  obtain ⟨late, hnext, -, hcut⟩ := shutdown_cuts_off 2 lateProducer (fun _ => false) attended
    [.send 0, .send 0] [.send 1, .work, .send 1] [.work] (.client 0)
    [⟨.client 0, .request (.dispatchEvent ⟨"tick", .int 1⟩)⟩] [] hqueued rfl
  have hletters : before.mailbox.letters = [⟨.client 0, .shutdown⟩,
      ⟨.client 1, .request (.dispatchEvent ⟨"tick", .int 2⟩)⟩] := by decide +kernel
  have hlate : late = [⟨.client 1, .request (.dispatchEvent ⟨"tick", .int 2⟩)⟩] :=
    (List.cons.inj (hnext.letters.symm.trans hletters)).2
  exact ⟨late, hcut, hlate, by decide +kernel⟩

end Office

end SatelliteWindows
