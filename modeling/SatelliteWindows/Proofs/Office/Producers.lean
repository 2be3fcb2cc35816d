import SatelliteWindows.Proofs.Cascade
import SatelliteWindows.Proofs.Delivery.Bystanders
import SatelliteWindows.Proofs.Office.Conduct
import SatelliteWindows.Proofs.Office.Progress

/-!
# Many producers

However the clients of an office take turns, what the coordinator carries out is an interleaving of
what they order, each client's requests in its own order and none twice, and each client is told
what came of its own requests. So if one of them makes a window register for an opened satellite and
asks for what was held back later, while all others do nothing but produce events, the window takes
an interleaving of what they produce.
-/

namespace SatelliteWindows

/-- The event that a request passes on. -/
def Request.event? : Request → Option Event
  | dispatchEvent e => some e
  | _ => none

namespace Move

variable {σ : Type}

/-- The request that a move carries out. -/
def request? : Move σ → Option Request
  | request r => some r
  | shift _ => none

/-- Moves that carry out requests are known by them. -/
theorem eq_of_requests {moves : List (Move σ)} {requests : List Request}
    (h : moves.map request? = requests.map some) : moves = requests.map request := by
  induction moves generalizing requests with
  | nil =>
    cases requests with
    | nil => rfl
    | cons r rest => cases h
  | cons m rest ih =>
    cases requests with
    | nil => cases h
    | cons r requests =>
      obtain ⟨hfirst, hrest⟩ := List.cons.inj h
      cases m with
      | request r' =>
        cases hfirst
        exact congrArg (request r :: ·) (ih hrest)
      | shift change => cases hfirst

end Move

namespace Coordinator

/-- What can be called stays callable on every run. -/
theorem callable_run {σ : Type} [Desktop σ] (settings : CoordinatorSettings) (platform : Platform)
    (session : Payload) (world : σ) (past : List (Act σ)) :
    ((start settings platform session world).run past).scene.Callable := by
  rw [← (recorded_steps past
    (start settings platform session world)).run_eq]
  exact (Scene.callable_start .main platform session world).run _

end Coordinator

namespace Office

/-- A list is an interleaving of lists, one for each client: it can be signed such that what a
client has signed is its list. -/
def Interleaves {ρ α : Type} [DecidableEq ρ] (lists : ρ → List α) (merged : List α) : Prop :=
  ∃ signed : List (ρ × α), signed.map Prod.snd = merged ∧
    ∀ p, (signed.filter fun x => x.1 = p).map Prod.snd = lists p

namespace Order

/-- The event that is produced. -/
def event? : Order → Option Event
  | request r => r.event?
  | shutdown => none

/-- Whether something about a satellite or its window, or about all satellites, is requested. -/
def disturbs (name : String) (w : WindowId) : Order → Bool
  | request r => r.disturbs name w
  | shutdown => false

end Order

/-- The events that a client produces. -/
def produced (orders : List Order) : List Event := orders.filterMap Order.event?

/-- A client produces events by requests. -/
theorem produced_eq (orders : List Order) :
    produced orders = (orders.filterMap Order.request?).filterMap Request.event? := by
  rw [List.filterMap_filterMap]
  exact List.filterMap_congr fun order _ => by cases order <;> rfl

variable {ρ σ : Type}

namespace Incident

/-- The request of a client that was carried out, and whose it was. -/
def executed? : Incident ρ σ → Option (ρ × Request)
  | served (.client p) r _ => some (p, r)
  | _ => none

/-- Nothing happens that is about a satellite or its window, unless an alarm asks for an opening to
be given up. -/
def Spares (name : String) (w : WindowId) : Incident ρ σ → Prop
  | served (.client _) r _ => r.disturbs name w = false
  | served (.alarm t) r _ => r = .expire t.name t.generation
  | stopped _ => False
  | _ => True

end Incident

/-- The requests of clients that were carried out. -/
def executed (incidents : List (Incident ρ σ)) : List (ρ × Request) :=
  incidents.filterMap Incident.executed?

variable [DecidableEq ρ]

/-- What was carried out for one client. -/
theorem filter_executed (incidents : List (Incident ρ σ)) (p : ρ) :
    ((executed incidents).filter fun x => x.1 = p).map Prod.snd =
      (answered incidents p).map Prod.fst := by
  induction incidents with
  | nil => rfl
  | cons x rest ih =>
    have hexecuted : executed (x :: rest) = executed [x] ++ executed rest :=
      List.filterMap_append (l := [x])
    have hanswered : answered (x :: rest) p = answered [x] p ++ answered rest p :=
      answered_append [x] rest p
    rw [hexecuted, hanswered, List.filter_append, List.map_append, List.map_append, ih]
    congr 1
    cases x with
    | served s r answer =>
      cases s with
      | alarm t => rfl
      | client q =>
        by_cases hq : q = p <;>
          simp [executed, answered, Incident.executed?, Incident.answered?, hq]
    | _ => rfl

/-- What the requests of clients pass on, signed by them. -/
theorem interleaves_events (requests : List (ρ × Request)) :
    Interleaves (fun p => ((requests.filter fun x => x.1 = p).map Prod.snd).filterMap
      Request.event?) ((requests.map Prod.snd).filterMap Request.event?) := by
  refine ⟨requests.filterMap fun x => x.2.event?.map (x.1, ·), ?_, fun p => ?_⟩
  · induction requests with
    | nil => rfl
    | cons x rest ih => cases h : x.2.event? <;> simp [h, ih]
  · induction requests with
    | nil => rfl
    | cons x rest ih =>
      by_cases hp : x.1 = p <;> cases h : x.2.event? <;> simp [h, hp, ih]

/-- A client's requests that were carried out split what has happened. -/
theorem split_answered {incidents : List (Incident ρ σ)} {p : ρ} {r : Request}
    {first last : List Request}
    (h : (answered incidents p).map Prod.fst = first ++ r :: last) :
    ∃ before answer after, incidents = before ++ .served (.client p) r answer :: after ∧
      (answered before p).map Prod.fst = first ∧ (answered after p).map Prod.fst = last := by
  unfold answered at h
  rw [List.map_filterMap] at h
  obtain ⟨before, rest, rfl, hbefore, hrest⟩ := List.filterMap_eq_append_iff.mp h
  obtain ⟨skipped, x, after, rfl, hskipped, hx, hafter⟩ := List.filterMap_eq_cons_iff.mp hrest
  have hserved : ∃ answer, x = .served (.client p) r answer := by
    cases x with
    | served s r' answer =>
      cases s with
      | alarm t => cases hx
      | client q =>
        by_cases hq : q = p
        · subst hq
          refine ⟨answer, ?_⟩
          simpa [Incident.answered?] using hx
        · simp [Incident.answered?, hq] at hx
    | _ => cases hx
  obtain ⟨answer, rfl⟩ := hserved
  refine ⟨before ++ skipped, answer, after, (List.append_assoc _ _ _).symm, ?_, ?_⟩
  · have hnone : skipped.filterMap (fun y => (Incident.answered? p y).map Prod.fst) = [] :=
      List.filterMap_eq_nil_iff.mpr hskipped
    unfold answered
    rw [List.map_filterMap, List.filterMap_append, hbefore, hnone, List.append_nil]
  · unfold answered
    rw [List.map_filterMap]
    exact hafter

variable [Desktop σ]

omit [DecidableEq ρ] in
/-- When nothing happens that is about a satellite or its window, and no opening of the satellite is
given up, all moves are about others. -/
theorem untouched_of_spares {name : String} {w : WindowId} {incidents : List (Incident ρ σ)}
    {s : Scene σ} (h : ∀ x ∈ incidents, x.Spares name w)
    (hexpired : ∀ g, .expired name g ∉ s.history (moves incidents)) :
    ∀ x ∈ s.history (moves incidents), x.touches name w = false := by
  induction incidents generalizing s with
  | nil => exact fun x hx => by cases hx
  | cons i rest ih =>
    have hi := h i List.mem_cons_self
    have hrest := fun y hy => h y (List.mem_cons_of_mem i hy)
    -- What happens first means nothing for the satellite, or it is no move.
    have hcons : ∀ m : Move σ, moves (i :: rest) = m :: moves rest →
        ((s.happening m).touches name w = false ∨ ∃ g, s.happening m = .expired name g) →
        ∀ x ∈ s.history (moves (i :: rest)), x.touches name w = false := by
      intro m hmoves hfirst x hx
      rw [hmoves] at hx hexpired
      rcases List.mem_cons.mp hx with rfl | hx
      · refine hfirst.resolve_right ?_
        rintro ⟨g, hg⟩
        exact hexpired g (hg ▸ List.mem_cons_self)
      · exact ih hrest (fun g hg => hexpired g (List.mem_cons_of_mem _ hg)) x hx
    cases i with
    | served sender r answer =>
      refine hcons (.request r) rfl ?_
      cases sender with
      | client p => exact .inl (Scene.touches_meaning hi s)
      | alarm t =>
        have hr : r = .expire t.name t.generation := hi
        subst hr
        show Happening.touches name w (if (s.expire t.name t.generation).1 then _ else _) = false ∨
          ∃ g, (if (s.expire t.name t.generation).1 then Happening.expired t.name t.generation
            else .other) = .expired name g
        split
        · by_cases hname : t.name = name
          · exact .inr ⟨t.generation, by rw [hname]⟩
          · exact .inl (by simp [Happening.touches, hname])
        · exact .inl rfl
    | stopped sender => exact hi.elim
    | shifted change => exact hcons (.shift change) rfl (.inl rfl)
    | posted | turnedAway | closed | told => exact ih hrest hexpired

omit [DecidableEq ρ] [Desktop σ] in
/-- What is dispatched is what clients pass on, if the coordinator does not shut down and alarms ask
for nothing but openings to be given up. -/
theorem dispatched_moves {incidents : List (Incident ρ σ)}
    (h : ∀ t r answer, .served (.alarm t) r answer ∈ incidents →
      r = .expire t.name t.generation) :
    Move.dispatched (moves incidents) =
      ((executed incidents).map Prod.snd).filterMap Request.event? := by
  induction incidents with
  | nil => rfl
  | cons i rest ih =>
    have hrest := ih fun t r answer hmem => h t r answer (List.mem_cons_of_mem i hmem)
    cases i with
    | served sender r answer =>
      cases sender with
      | client p =>
        show ((.request r : Move σ) :: moves rest).filterMap Move.event? =
          (r :: (executed rest).map Prod.snd).filterMap Request.event?
        rw [List.filterMap_cons, List.filterMap_cons, ← hrest]
        cases r <;> rfl
      | alarm t =>
        rw [h t r answer List.mem_cons_self]
        exact hrest
    | stopped | shifted | posted | turnedAway | closed | told => exact hrest

/-- What the coordinator carries out for the clients of its office. -/
structure InTurn (c : Coordinator σ) (orders : ρ → List Order) (o : Office ρ σ) : Prop where
  /-- It is an interleaving of what is carried out for each of them. -/
  interleaved : Interleaves (fun p => (answered o.incidents p).map Prod.fst)
    ((executed o.incidents).map Prod.snd)
  /-- This is what each client orders up to some point, every order once and in order. -/
  beginnings : ∀ p, ((answered o.incidents p).map fun x => .request x.1) <+: orders p
  /-- Besides, openings are given up when alarms ask for it; they ask for nothing else. -/
  alarms : ∀ t r answer, .served (.alarm t) r answer ∈ o.incidents →
    r = .expire t.name t.generation
  /-- The scene is what all this has made of it, and each request was answered with what came of
  it. -/
  conduct : Conduct c o
  /-- As long as the coordinator is at work, clients were told these answers, and nothing else. -/
  replies : o.coordinator.running = true → ∀ p, told o.incidents p = answered o.incidents p
  /-- When nobody can do anything any more, nothing is left of what clients request. -/
  finished : Idle o → o.Spent
  /-- When nothing is left of it and the coordinator is still at work, it was carried out to the
  last request of each client. -/
  complete : o.Spent → o.coordinator.running = true →
    ∀ p, (answered o.incidents p).map Prod.fst = (orders p).filterMap Order.request?

omit [Desktop σ] in
/-- No client requests anything in letters to which nobody awaits an answer. -/
theorem requests_of_letters {letters : List (Letter ρ)} (h : ∀ l ∈ letters, l.awaited? = none)
    (p : ρ) : (ordersOf p letters).filterMap Order.request? = [] := by
  refine List.filterMap_eq_nil_iff.mpr fun order horder => ?_
  obtain ⟨l, hl, hsome⟩ := List.mem_filterMap.mp horder
  have hnone := h l hl
  obtain ⟨sender, own⟩ := l
  by_cases hp : sender = .client p
  · subst hp
    cases own with
    | request r => cases hnone
    | shutdown =>
      simp only [if_true, Option.some.injEq] at hsome
      rw [← hsome]
      rfl
  · simp [hp] at hsome

/-- Whoever has turns in whatever order, what clients order is carried out in turn. -/
theorem inTurn_run (capacity : Nat) (orders : ρ → List Order) (isPatient : ρ → Bool)
    (c : Coordinator σ) (acts : List (Act ρ σ)) :
    InTurn c orders ((assemble capacity orders isPatient c).run acts) := by
  have hledger := ledger_run capacity orders isPatient c acts
  have hconduct := conduct_run capacity orders isPatient c acts
  have hidle : Idle ((assemble capacity orders isPatient c).run acts) → _ := Idle.spent
  generalize (assemble capacity orders isPatient c).run acts = o at hledger hconduct hidle
  refine ⟨⟨executed o.incidents, rfl, filter_executed o.incidents⟩, fun p => ?_,
    fun t r answer hmem => ?_, hconduct, fun hrunning p => ?_, hidle, fun h hrunning p => ?_⟩
  · rw [← ordersOf_served, hledger.placed p, hledger.letters]
    obtain ⟨others, hread⟩ := hledger.inOrder
    rw [← hread]
    simp only [ordersOf_append, List.append_assoc]
    exact List.prefix_append _ _
  · have hserved : ⟨.alarm t, .request r⟩ ∈ served o.incidents :=
      List.mem_filterMap.mpr ⟨_, hmem, rfl⟩
    have hposted : ⟨.alarm t, .request r⟩ ∈ posted o.incidents := by
      rw [hledger.letters, List.append_assoc]
      exact List.mem_append_left _ (hledger.inOrder.subset hserved)
    have hletter := hledger.alarms _ hposted t rfl
    cases hletter
    rfl
  · obtain ⟨hdropped, hnobody⟩ := hledger.isOpen (hledger.running hrunning).1
    rw [hledger.replies p, hdropped, hnobody p]
    exact List.append_nil _
  · obtain ⟨hopen, hread⟩ := hledger.running hrunning
    obtain ⟨hdropped, hnobody⟩ := hledger.isOpen hopen
    have hwaiting : (ordersOf p o.mailbox.letters).filterMap Order.request? = [] :=
      requests_of_letters h.letters p
    rw [hledger.placed p, hledger.letters, hread, hdropped, hnobody p]
    simp only [List.append_nil, ordersOf_append, List.filterMap_append, requests_served, hwaiting,
      h.orders p]

omit [Desktop σ] in
/-- As long as the coordinator is at work, it has not shut down. -/
theorem not_stopped_of_running {orders : ρ → List Order} {o : Office ρ σ} (h : Ledger orders o)
    (running : o.coordinator.running = true) (s : Correspondent ρ) :
    .stopped s ∉ o.incidents := by
  intro hmem
  have hread : ⟨s, .shutdown⟩ ∈ read o.incidents := List.mem_filterMap.mpr ⟨_, hmem, rfl⟩
  rw [(h.running running).2] at hread
  obtain ⟨x, -, hx⟩ := List.mem_filterMap.mp hread
  cases x <;> cases hx

/-- One client lets a window register for a satellite and asks for what was held back later, and
nobody orders anything else about the satellite or the window. -/
structure HandsOver (name : String) (w : WindowId) (orders : ρ → List Order) (registrar : ρ)
    (registration : Request) : Prop where
  /-- The window registers by this request. -/
  registers : registration.Registers name w
  /-- What the client orders, about the satellite and besides. -/
  plan : ∃ first between last flush, flush.Flushes name ∧ orders registrar =
      first ++ .request registration :: (between ++ .request flush :: last) ∧
    ∀ order ∈ first ++ between ++ last, order.disturbs name w = false
  /-- What the others order. -/
  others : ∀ p, p ≠ registrar → ∀ order ∈ orders p, order.disturbs name w = false

/-- As long as the coordinator is at work, nothing is about a satellite or its window in a part of
what happens, if nothing is in what clients order. -/
theorem InTurn.spares {c : Coordinator σ} {orders : ρ → List Order} {o : Office ρ σ}
    (h : InTurn c orders o) (hstopped : ∀ s, .stopped s ∉ o.incidents) {name : String}
    {w : WindowId} {registrar : ρ}
    (hothers : ∀ p, p ≠ registrar → ∀ order ∈ orders p, order.disturbs name w = false)
    {part : List (Incident ρ σ)} (hpart : part ⊆ o.incidents) {own : List Order}
    (hown : ∀ order ∈ own, order.disturbs name w = false)
    (hrequests : (answered part registrar).map Prod.fst = own.filterMap Order.request?) :
    ∀ x ∈ part, x.Spares name w := by
  intro x hx
  cases x with
  | served s r reply =>
    cases s with
    | alarm t => exact h.alarms t r reply (hpart hx)
    | client p =>
      have hanswered : ∀ incidents : List (Incident ρ σ), .served (.client p) r reply ∈ incidents →
          (r, reply) ∈ answered incidents p := fun incidents hmem =>
        List.mem_filterMap.mpr ⟨_, hmem, by simp [Incident.answered?]⟩
      by_cases hp : p = registrar
      · subst hp
        have hr : r ∈ (answered part p).map Prod.fst :=
          List.mem_map.mpr ⟨_, hanswered part hx, rfl⟩
        rw [hrequests] at hr
        obtain ⟨order, horder, hrequest⟩ := List.mem_filterMap.mp hr
        have hundisturbed := hown order horder
        cases order with
        | request r' =>
          cases hrequest
          exact hundisturbed
        | shutdown => cases hrequest
      · exact hothers p hp (.request r) ((h.beginnings p).subset
          (List.mem_map.mpr ⟨_, hanswered o.incidents (hpart hx), rfl⟩))
  | stopped s => exact hstopped s (hpart hx)
  | _ => trivial

/-- When everything was carried out that was requested, what was dispatched is an interleaving of
what clients produce. -/
theorem InTurn.interleaves_produced {c : Coordinator σ} {orders : ρ → List Order} {o : Office ρ σ}
    (h : InTurn c orders o) (hcomplete : ∀ p,
      (answered o.incidents p).map Prod.fst = (orders p).filterMap Order.request?) :
    Interleaves (fun p => produced (orders p)) (Move.dispatched (moves o.incidents)) := by
  have hproduced : (fun p => produced (orders p)) = fun p =>
      (((executed o.incidents).filter fun x => x.1 = p).map Prod.snd).filterMap
        Request.event? := by
    funext p
    rw [produced_eq, filter_executed, hcomplete p]
  rw [hproduced, dispatched_moves h.alarms]
  exact interleaves_events (executed o.incidents)

/-- What happens when everything was carried out and one client hands a window over is a handover,
if the opening is not given up. -/
theorem InTurn.handover {c : Coordinator σ} {orders : ρ → List Order} {o : Office ρ σ}
    (h : InTurn c orders o) (hstopped : ∀ s, .stopped s ∉ o.incidents)
    (hcallable : c.scene.Callable) {name : String} {w : WindowId} {registrar : ρ}
    {registration : Request} (hhands : HandsOver name w orders registrar registration)
    (hcomplete : (answered o.incidents registrar).map Prod.fst =
      (orders registrar).filterMap Order.request?)
    (hexpired : ∀ g, .expired name g ∉ c.scene.history (moves o.incidents)) :
    ∃ flush waiting between rest, moves o.incidents = waiting ++ .request registration ::
        (between ++ .request flush :: rest) ∧
      Scene.Handover name w c.scene registration flush waiting between rest := by
  obtain ⟨first, middle, last, flush, hflushes, horders, hown⟩ := hhands.plan
  rw [horders, List.filterMap_append] at hcomplete
  obtain ⟨earlier, answer, later, hsplit, hfirst, hlater⟩ := split_answered hcomplete
  obtain ⟨meanwhile, answer', latest, rfl, hmiddle, hlast⟩ :=
    split_answered (hlater.trans List.filterMap_append)
  have hmoves : moves o.incidents = moves earlier ++ .request registration ::
      (moves meanwhile ++ .request flush :: moves latest) := by
    rw [hsplit, moves_append]
    show moves earlier ++ .request registration :: moves (meanwhile ++ _) = _
    rw [moves_append]
    rfl
  have hspares := fun {part own} (hpart : part ⊆ o.incidents)
      (hmine : ∀ order ∈ own, order ∈ first ++ middle ++ last) hrequests =>
    h.spares hstopped hhands.others hpart (fun order horder => hown order (hmine order horder))
      hrequests
  rw [hmoves, Scene.history_append] at hexpired
  refine ⟨flush, moves earlier, moves meanwhile, moves latest, hmoves,
    Scene.handover_of_requests hcallable hhands.registers hflushes
      (untouched_of_spares (hspares ?_ ?_ hfirst) fun g hg => ?_)
      (untouched_of_spares (hspares ?_ ?_ hmiddle) fun g hg => ?_)
      (untouched_of_spares (hspares ?_ ?_ hlast) fun g hg => ?_)⟩
  · exact fun x hx => by rw [hsplit]; simp [hx]
  · exact fun order horder => by simp [horder]
  · exact hexpired g (List.mem_append_left _ hg)
  · exact fun x hx => by rw [hsplit]; simp [hx]
  · exact fun order horder => by simp [horder]
  · refine hexpired g (List.mem_append_right _ (List.mem_cons_of_mem _ ?_))
    rw [Scene.history_append]
    exact List.mem_append_left _ hg
  · exact fun x hx => by rw [hsplit]; simp [hx]
  · exact fun order horder => by simp [horder]
  · refine hexpired g (List.mem_append_right _ (List.mem_cons_of_mem _ ?_))
    rw [Scene.history_append]
    exact List.mem_append_right _ (List.mem_cons_of_mem _ hg)

/-- Take any coordinator at work, and any clients that write to it in whatever order, whether or not
they wait for answers, and with however many places for letters. What they order is carried out in
turn. Suppose moreover that a satellite is waited for at the beginning, that its window is not
registered for another one, and that one client hands the window over; that the opening is not given
up, and that the window stays alive and takes every message from its registration on. Then, when
nothing is left of what clients request and the coordinator has not shut down yet, the window has
taken what was held back at the beginning and an interleaving of all events that clients produce,
each event once. -/
theorem producers_served_in_turn (settings : CoordinatorSettings) (platform : Platform)
    (session : Payload) (world : σ) (past : List (Coordinator.Act σ)) (capacity : Nat)
    (orders : ρ → List Order) (isPatient : ρ → Bool) (acts : List (Act ρ σ)) :
    let c := (Coordinator.start settings platform session world).run past
    let o := (assemble capacity orders isPatient c).run acts
    InTurn c orders o ∧
    ∀ (name : String) (w : WindowId) (queue : List Event) (registrar : ρ) (registration : Request),
      c.scene.fleet.backlog.queue? name = some queue →
      (∀ other, ⟨other, w⟩ ∈ c.scene.fleet.roster.entries → other = name) →
      HandsOver name w orders registrar registration →
      (∀ g, .expired name g ∉ c.scene.history (moves o.incidents)) →
      (∀ before after, moves o.incidents = before ++ .request registration :: after →
        ((c.scene.run before).move (.request registration)).keepsSteady w after = true) →
      o.Spent → o.coordinator.running = true →
      ∃ merged, Interleaves (fun p => produced (orders p)) merged ∧
        Journal.taken w (o.coordinator.scene.journal.drop c.scene.journal.length) =
          queue ++ merged := by
  intro c o
  have hturn : InTurn c orders o := inTurn_run capacity orders isPatient c acts
  refine ⟨hturn, fun name w queue registrar registration hqueue halone hhands hexpired hsteady
    hspent hrunning => ?_⟩
  have hcomplete := hturn.complete hspent hrunning
  have hstopped : ∀ s, .stopped s ∉ o.incidents :=
    not_stopped_of_running (ledger_run capacity orders isPatient c acts) hrunning
  obtain ⟨flush, waiting, between, rest, hmoves, hhandover⟩ := hturn.handover hstopped
    (Coordinator.callable_run settings platform session world past) hhands (hcomplete registrar)
    hexpired
  refine ⟨Move.dispatched (moves o.incidents), hturn.interleaves_produced hcomplete, ?_⟩
  rw [hturn.conduct.scene, hmoves]
  exact hhandover.taken_eq (Coordinator.unique_run settings platform session world past) hqueue
    halone (hsteady waiting _ hmoves)

/-- A coordinator that has just asked for a window for a satellite. -/
def expectant : List (Coordinator.Act Simulation) :=
  [.ask (.openSatellite "chart" none ⟨640, 480⟩) rfl]

/-- An event that a client produces. -/
def tick (k : Int) : Order := .request (.dispatchEvent ⟨"tick", .int k⟩)

/-- The first client produces one event and lets the window register and ask for what was held
back; the second one produces two events. -/
def twoProducers : Fin 2 → List Order
  | 0 => [tick 1, .request (.invoke "register-as-satellite" ⟨"chart", some 0⟩),
      .request (.invoke "flush-pending-events" ⟨"chart", none⟩)]
  | 1 => [tick 2, tick 3]

/-- There is one place for letters only, so that the second client has to wait for it. -/
def crossing : List (Act (Fin 2) Simulation) :=
  [.send 0, .send 1, .work, .send 1, .work, .send 0, .work, .send 1, .work, .send 0, .work]

/-- What is carried out then, in order. -/
def crossingRequests : List Request :=
  [.dispatchEvent ⟨"tick", .int 1⟩, .dispatchEvent ⟨"tick", .int 2⟩,
    .invoke "register-as-satellite" ⟨"chart", some 0⟩, .dispatchEvent ⟨"tick", .int 3⟩,
    .invoke "flush-pending-events" ⟨"chart", none⟩]

/-- One event before the registration from each client, and one between registration and flush. -/
theorem taken_of_crossing :
    let c := (Coordinator.start {} .nativeShell .null ({ screen := ⟨1280, 800⟩ } : Simulation)).run
      expectant
    let o := (assemble 1 twoProducers (fun _ => false) c).run crossing
    let merged := [⟨"tick", .int 1⟩, ⟨"tick", .int 2⟩, ⟨"tick", .int 3⟩]
    Journal.taken 0 (o.coordinator.scene.journal.drop c.scene.journal.length) = merged ∧
      Interleaves (fun p => produced (twoProducers p)) merged := by
  intro c o merged
  have hrequests : (moves o.incidents).map Move.request? =
      crossingRequests.map some := by decide +kernel
  have hmoves : moves o.incidents = crossingRequests.map .request := Move.eq_of_requests hrequests
  have hhistory : c.scene.history (moves o.incidents) = [.dispatched ⟨"tick", .int 1⟩,
      .dispatched ⟨"tick", .int 2⟩, .registered "chart" 0, .dispatched ⟨"tick", .int 3⟩,
      .flushed "chart"] := by
    rw [hmoves]
    decide +kernel
  have hnobody : c.scene.fleet.roster.entries = [] := by decide +kernel
  have hidle : Idle o := by
    refine idle_of_nothing_left (by decide +kernel) (by decide +kernel) ?_ ?_
    · show ∀ p : Fin 2, o.orders p = []
      decide +kernel
    · have hnone : o.alarms = [] := by decide +kernel
      intro t ht
      rw [hnone] at ht
      cases ht
  have hqueue : c.scene.fleet.backlog.queue? "chart" = some [] := by decide +kernel
  obtain ⟨hturn, hwindow⟩ := producers_served_in_turn {} .nativeShell .null
    ({ screen := ⟨1280, 800⟩ } : Simulation) expectant 1 twoProducers (fun _ => false) crossing
  have hother : ∀ other, (⟨other, 0⟩ : Entry) ∈ c.scene.fleet.roster.entries →
      other = "chart" := by
    intro other hmem
    rw [hnobody] at hmem
    cases hmem
  have hexpired : ∀ g, .expired "chart" g ∉ c.scene.history (moves o.incidents) := by
    intro g hg
    rw [hhistory] at hg
    simp at hg
  have hsteady : ∀ before after, moves o.incidents = before ++
      .request (.invoke "register-as-satellite" ⟨"chart", some 0⟩) :: after →
      ((c.scene.run before).move
        (.request (.invoke "register-as-satellite" ⟨"chart", some 0⟩))).keepsSteady 0 after =
          true := by
    intro before after hsplit
    rw [hmoves] at hsplit
    -- the registration stands at one place only, so the split is the one shown by the history
    obtain _ | ⟨m₁, _ | ⟨m₂, _ | ⟨m₃, _ | ⟨m₄, _ | ⟨m₅, rest⟩⟩⟩⟩⟩ := before <;>
      simp [crossingRequests] at hsplit
    obtain ⟨rfl, rfl, rfl⟩ := hsplit
    decide +kernel
  have hhands : HandsOver "chart" 0 twoProducers 0
      (.invoke "register-as-satellite" ⟨"chart", some 0⟩) :=
    ⟨.byCall, ⟨[tick 1], [], [], _, .byCall none, rfl, by decide +kernel⟩, by decide +kernel⟩
  obtain ⟨taken, hinterleaves, htaken⟩ := hwindow "chart" 0 [] 0
    (.invoke "register-as-satellite" ⟨"chart", some 0⟩) hqueue hother hhands hexpired hsteady
    (hturn.finished hidle) (by decide +kernel)
  have hmerged : taken = merged := by
    rw [List.nil_append] at htaken
    rw [← htaken]
    decide +kernel
  exact ⟨by decide +kernel, hmerged ▸ hinterleaves⟩

end Office

end SatelliteWindows
