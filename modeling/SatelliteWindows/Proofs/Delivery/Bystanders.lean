import SatelliteWindows.Proofs.Delivery.NoLoss
import SatelliteWindows.Proofs.Delivery.Order
import SatelliteWindows.Proofs.Isolation.Seat
import SatelliteWindows.Proofs.Provisions

/-!
# Requests about others

Requests that are neither about a satellite nor about its window, nor about all satellites, mean
nothing for the handshake of the satellite. A window that is not registered for a satellite takes no
event on its behalf. And what can be called stays callable, so calls by the names of operations mean
on any run what they meant at its beginning.
-/

namespace SatelliteWindows

/-- Whether something that happens is about a satellite, about a window or about all satellites. -/
def Happening.touches (name : String) (w : WindowId) : Happening → Bool
  | opened n _ | flushed n | closed n | expired n _ => n == name
  | registered n v => n == name || v == w
  | allClosed => true
  | _ => false

namespace Happening

variable {name : String} {w : WindowId} {x : Happening}

/-- What is not about a satellite neither opens nor stops it. -/
theorem opens_eq_false (h : x.touches name w = false) : x.opens name = false := by
  cases x <;> first | exact h | rfl

/-- What does not touch a satellite or its window does not stop it either. -/
theorem stops_eq_false_of_touches (h : x.touches name w = false) : x.stops name = false := by
  cases x <;> first | exact h | rfl

/-- In particular, neither that satellite registers nor another one with that window. -/
theorem ne_registered (h : x.touches name w = false) {other : String} {v : WindowId}
    (hv : other = name ∨ v = w) : x ≠ .registered other v := by
  rintro rfl
  rcases hv with rfl | rfl <;> simp [touches] at h

end Happening

namespace Request

/-- Whether a request opens, closes or gives up a satellite, makes a window register, asks for what
was held back, or closes all satellites. -/
def disturbs (name : String) (w : WindowId) : Request → Bool
  | openSatellite n .. | forceReopen n _ | close n | flush n | expire n _ => n == name
  | closeAll | mainWindowClosed => true
  | register n v => n == name || v == w
  | invoke _ caller => caller.name == name || caller.window == some w
  | _ => false

/-- A request by which a window registers for a satellite. -/
inductive Registers (name : String) (w : WindowId) : Request → Prop where
  /-- It is made directly. -/
  | directly : Registers name w (.register name w)
  /-- It is a call. -/
  | byCall : Registers name w (.invoke Call.register.operation ⟨name, some w⟩)

/-- A request by which a satellite asks for what was held back. -/
inductive Flushes (name : String) : Request → Prop where
  /-- It is made directly. -/
  | directly : Flushes name (.flush name)
  /-- It is a call, and the window of the caller is not asked for. -/
  | byCall (window : Option WindowId) :
      Flushes name (.invoke Call.flush.operation ⟨name, window⟩)

end Request

/-! ## What can be called -/

namespace CallTable

variable {α : Type}

/-- An operation that is installed is not replaced. -/
theorem get?_install {t : CallTable α} {name : String} {call : α} (h : t.get? name = some call)
    (other : String) (new : α) : (t.install other new).2.get? name = some call := by
  unfold install
  split
  · exact h
  · next hfree =>
    have hne : ¬ name = other := by
      rintro rfl
      refine hfree ?_
      show (t.get? name).isSome = true
      rw [h]
      rfl
    show (t.calls.put other new).get? name = some call
    rw [NameMap.get?_put, if_neg hne]
    exact h

end CallTable

namespace Scene

variable {σ : Type} [Desktop σ]

/-- Everything that can be called is. -/
def Callable (s : Scene σ) : Prop := ∀ c : Call, s.fleet.calls.get? c.operation = some c

/-- What can be called changes only when calls are installed. -/
theorem calls_perform {r : Request} (hr : r ≠ .installCalls) (s : Scene σ) :
    (s.perform r).2.fleet.calls = s.fleet.calls := by
  have hsame : r.provides = false → (s.perform r).2.fleet.calls = s.fleet.calls := fun hr =>
    congrArg Provisions.calls (provisions_perform hr s)
  cases r with
  | openSatellite name params preferred =>
    exact (supplies_openSatellite name params preferred s).calls
  | forceReopen name params => exact (supplies_forceReopen name params s).calls
  | updateSession => rfl
  | installCalls => exact absurd rfl hr
  | _ => exact hsame rfl

/-- What can be called stays callable. -/
theorem Callable.perform {s : Scene σ} (h : s.Callable) (r : Request) :
    (s.perform r).2.Callable := by
  by_cases hr : r = .installCalls
  · subst hr
    intro c
    show (Call.all.foldl (fun t c => (t.install c.operation c).2) s.fleet.calls).get? _ = _
    have hinstall : ∀ (l : List Call) (t : CallTable Call), t.get? c.operation = some c →
        (l.foldl (fun t c => (t.install c.operation c).2) t).get? c.operation = some c := by
      intro l
      induction l with
      | nil => exact fun t ht => ht
      | cons d rest ih => exact fun t ht => ih _ (CallTable.get?_install ht d.operation d)
    exact hinstall Call.all s.fleet.calls (h c)
  · intro c
    rw [calls_perform hr]
    exact h c

/-- Calls stay installed on a whole run. -/
theorem Callable.run {s : Scene σ} (h : s.Callable) (moves : List (Move σ)) :
    (s.run moves).Callable := by
  induction moves generalizing s with
  | nil => exact h
  | cons m rest ih =>
    cases m with
    | request r => exact ih (h.perform r)
    | shift change => exact ih h

omit [Desktop σ] in
/-- A scene in which calls have been installed has calls to be made. -/
theorem callable_start (role : Role) (platform : Platform) (session : Payload) (world : σ) :
    (start role platform session world).installCalls.Callable := by
  have hall : ∀ c : Call, (Call.all.foldl (fun t c => (t.install c.operation c).2)
      CallTable.empty).get? c.operation = some c := by
    intro c
    cases c <;> decide +kernel
  exact hall

/-! ## What requests mean -/

/-- A window registers if it asks for it. -/
theorem meaning_of_registers {s : Scene σ} (h : s.Callable) {name : String} {w : WindowId}
    {r : Request} (hr : r.Registers name w) : s.meaning r = .registered name w := by
  cases hr with
  | directly => rfl
  | byCall =>
    unfold meaning
    dsimp only
    rw [h .register]

/-- A flush that is asked for means that what was held back is passed on. -/
theorem meaning_of_flushes {s : Scene σ} (h : s.Callable) {name : String} {r : Request}
    (hr : r.Flushes name) : s.meaning r = .flushed name := by
  cases hr with
  | directly => rfl
  | byCall window =>
    unfold meaning
    dsimp only
    rw [h .flush]

/-- A request about others means nothing for a satellite and its window. -/
theorem touches_meaning {name : String} {w : WindowId} {r : Request}
    (h : r.disturbs name w = false) (s : Scene σ) : (s.meaning r).touches name w = false := by
  cases r with
  | openSatellite n params preferred =>
    rcases opening_cases n params preferred s with ⟨g, -, hmeaning⟩ | ⟨-, hmeaning⟩
    · rw [hmeaning]
      exact h
    · rw [hmeaning]
      rfl
  | forceReopen n params =>
    show (s.meaningOfOpening (.forceReopen n params)).touches name w = false
    rcases forceReopen_cases n params s with hcalm | ⟨t, placement, hcalm, heq⟩
    · have hsame : Calm s (s.perform (.forceReopen n params)).2 := hcalm
      rw [hsame.meaningOfOpening_eq]
      rfl
    · rw [(turn_of_openAnew (r := .forceReopen n params) hcalm heq).1]
      exact h
  | expire n generation =>
    show Happening.touches name w (if (s.expire n generation).1 then _ else _) = false
    split
    · exact h
    · rfl
  | invoke operation caller =>
    obtain ⟨hname, hwindow⟩ :
        (caller.name == name) = false ∧ (caller.window == some w) = false := by
      simpa [Request.disturbs] using h
    unfold meaning
    dsimp only
    split
    · next v _ hv =>
      rw [hv] at hwindow
      have hne : (v == w) = false := by simpa using hwindow
      simp [Happening.touches, hname, hne]
    · exact hname
    · rfl
  | closeAll | mainWindowClosed => cases h
  | register | flush | close => exact h
  | _ => rfl

/-! ## Runs that are about others -/

variable {name : String} {w : WindowId}

/-- A satellite that nothing is held back for stays so until it is opened. -/
theorem isHolding_run_of_untouched (moves : List (Move σ)) {s : Scene σ}
    (hnot : s.fleet.isHolding name = false)
    (h : ∀ x ∈ s.history moves, x.touches name w = false) :
    (s.run moves).fleet.isHolding name = false := by
  induction moves generalizing s with
  | nil => exact hnot
  | cons m rest ih =>
    have hx := h (s.happening m) List.mem_cons_self
    refine ih ?_ fun x hx => h x (List.mem_cons_of_mem _ hx)
    have hbefore : s.handshake.backlog.isHolding name = false := hnot
    show (s.move m).handshake.backlog.isHolding name = false
    rw [(s.turn_move m).isHolding_eq name, Happening.opens_eq_false hx, hbefore]
    simp

end Scene

/-- Only by registering a window comes on the roster. -/
theorem Turn.mem_roster {x : Happening} {h k : Handshake} (turn : Turn x h k) {d : Entry}
    (hd : d ∈ k.roster.entries) : d ∈ h.roster.entries ∨ x = .registered d.name d.window := by
  cases turn with
  | registered n v =>
    rcases Roster.mem_upsert hd with rfl | hbefore
    · exact .inr rfl
    · exact .inl hbefore
  | allClosed => cases hd
  | dispatched e _ r kept => exact .inl (kept.subset hd)
  | commanded c _ r kept => exact .inl (kept.subset hd)
  | opened | flushed | closed | expired | idle | lapsed => exact .inl hd

namespace Scene

open Journal

variable {σ : Type} [Desktop σ] {name : String} {w : WindowId}

omit [Desktop σ] in
/-- A window takes nothing on behalf of a satellite when only other windows are handed something for
it. -/
theorem received_of_others {s t : Scene σ} {attempts : List Attempt}
    (h : t.journal.passedFor name = s.journal.passedFor name ++ attempts)
    (hother : ∀ a ∈ attempts, a.window ≠ w) :
    received name w t.journal = received name w s.journal := by
  have hnone : (attempts.filter fun a => a.window == w && a.fault.isNone) = [] := by
    refine List.filter_eq_nil_iff.mpr fun a ha => ?_
    simp [hother a ha]
  unfold received
  rw [h, List.filter_append, hnone, List.append_nil]

/-- A window that is not registered for a satellite takes nothing on its behalf. -/
theorem received_move_of_absent {s : Scene σ} (hu : s.fleet.roster.Unique)
    (habsent : ⟨name, w⟩ ∉ s.fleet.roster.entries) (m : Move σ) :
    received name w (s.move m).journal = received name w s.journal := by
  have hpassing := passing_move m s
  generalize s.happening m = x, s.move m = t at hpassing
  have hsame : t.journal.passedFor name = s.journal.passedFor name →
      received name w t.journal = received name w s.journal := fun h => by
    unfold received
    rw [h]
  cases hpassing with
  | silent _ _ _ hpassed =>
    refine hsame ?_
    unfold passedFor
    rw [hpassed]
  | commanded c => exact hsame ((discreet_dispatchCommand c s).passedFor name)
  | flushed n =>
    by_cases hn : n = name
    · subst hn
      obtain ⟨attempts, hpassed, ⟨rfl, -⟩ | ⟨v, hlive, -, hwindows⟩⟩ := passedFor_flush hu n
      · exact received_of_others hpassed fun a ha => by cases ha
      · refine received_of_others hpassed fun a ha hw => habsent ?_
        have hmem : (⟨n, v⟩ : Entry) ∈ s.fleet.roster.live s.isAlive n := by
          rw [hlive]
          exact List.mem_singleton_self _
        rw [← hw, (hwindows a ha).1]
        exact (List.mem_filter.mp hmem).1
    · exact hsame (passedFor_flush_of_ne hn s)
  | dispatched e =>
    cases hholding : s.fleet.isHolding name with
    | true => exact hsame (passedFor_dispatchEvent_of_holding hholding e)
    | false =>
      cases offered_dispatchEvent hu hholding e with
      | skipped hpassed _ => exact hsame hpassed
      | handed a hpassed hentry _ _ =>
        refine received_of_others hpassed fun b hb hw => habsent ?_
        rw [← hw, List.mem_singleton.mp hb]
        exact hentry

/-- As long as it does not register for it, a window takes nothing on behalf of a satellite. -/
theorem received_run_of_absent (moves : List (Move σ)) {s : Scene σ}
    (hu : s.fleet.roster.Unique) (habsent : ⟨name, w⟩ ∉ s.fleet.roster.entries)
    (h : .registered name w ∉ s.history moves) :
    received name w (s.run moves).journal = received name w s.journal := by
  induction moves generalizing s with
  | nil => rfl
  | cons m rest ih =>
    obtain ⟨hfirst, hrest⟩ := not_or.mp (List.mem_cons.not.mp h)
    have hturn := s.turn_move m
    have hstill : ⟨name, w⟩ ∉ (s.move m).fleet.roster.entries := by
      intro hmem
      rcases hturn.mem_roster hmem with hbefore | hregistered
      · exact habsent hbefore
      · exact hfirst hregistered.symm
    exact (ih (hturn.unique hu) hstill hrest).trans (received_move_of_absent hu habsent m)

end Scene

/-- The events that a window took, on behalf of whatever satellite. -/
def Journal.taken (w : WindowId) (j : Journal) : List Event :=
  (j.passed.filter fun a => a.window == w && a.fault.isNone).filterMap fun a => a.message.event?

/-- A window that takes nothing on behalf of other satellites takes everything on behalf of one. -/
theorem Journal.taken_eq_received {name : String} {w : WindowId} {j : Journal}
    (h : ∀ other, other ≠ name → j.received other w = []) : j.taken w = j.received name w := by
  have hname : ∀ a ∈ j.passed, (a.window == w && a.fault.isNone) = true → a.name = name := by
    intro a ha htook
    by_contra hne
    have hnone := h a.name hne
    unfold received at hnone
    have hmem : a ∈ (j.passedFor a.name).filter fun a => a.window == w && a.fault.isNone :=
      List.mem_filter.mpr ⟨List.mem_filter.mpr ⟨ha, beq_self_eq_true a.name⟩, htook⟩
    have hevent : a.message.event?.isSome = true := (List.mem_filter.mp ha).2
    rw [List.filterMap_eq_nil_iff.mp hnone a hmem] at hevent
    cases hevent
  unfold taken received passedFor
  rw [List.filter_filter]
  refine congrArg (List.filterMap _) (List.filter_congr fun a ha => ?_)
  cases htook : (a.window == w && a.fault.isNone) with
  | false => rfl
  | true => simp [hname a ha htook]

namespace Scene

open Happening Journal

variable {σ : Type} [Desktop σ] {name : String} {w : WindowId}

/-- What is dispatched in a run is what its moves mean. -/
theorem events_history (moves : List (Move σ)) (s : Scene σ) :
    events (s.history moves) = Move.dispatched moves := by
  induction moves generalizing s with
  | nil => rfl
  | cons m rest ih =>
    have hcons : Move.dispatched (m :: rest) = m.event?.toList ++ Move.dispatched rest := by
      unfold Move.dispatched
      rw [List.filterMap_cons]
      cases m.event? <;> rfl
    show events (s.happening m :: (s.move m).history rest) = _
    rw [events_cons, event?_happening, ih, hcons]

/-! ## From hand to hand -/

/-- A window registers for a satellite, what was held back is asked for later, and nothing else in a
run is about the satellite or the window. -/
structure Handover (name : String) (w : WindowId) (s : Scene σ) (registration flush : Request)
    (waiting between rest : List (Move σ)) : Prop where
  /-- The window registers. -/
  registers : (s.run waiting).happening (.request registration) = .registered name w
  /-- What was held back is asked for. -/
  flushes : (((s.run waiting).move (.request registration)).run between).happening
    (.request flush) = .flushed name
  /-- What happens before the window registers is about others. -/
  before : ∀ x ∈ s.history waiting, x.touches name w = false
  /-- What happens until it is asked for what was held back is about others. -/
  meanwhile : ∀ x ∈ ((s.run waiting).move (.request registration)).history between,
    x.touches name w = false
  /-- What happens afterwards is about others. -/
  after : ∀ x ∈ ((((s.run waiting).move (.request registration)).run between).move
    (.request flush)).history rest, x.touches name w = false

namespace Handover

variable {s : Scene σ} {registration flush : Request} {waiting between rest : List (Move σ)}

/-- What happens once the window has registered. -/
theorem history_registered (h : Handover name w s registration flush waiting between rest) :
    ((s.run waiting).move (.request registration)).history (between ++ .request flush :: rest) =
      ((s.run waiting).move (.request registration)).history between ++ .flushed name ::
        ((((s.run waiting).move (.request registration)).run between).move
          (.request flush)).history rest := by
  rw [history_append, ← h.flushes]
  rfl

/-- Once the window has registered, nothing but the flush is about the satellite or the window. -/
theorem eq_flushed (h : Handover name w s registration flush waiting between rest) {x : Happening}
    (hx : x ∈ ((s.run waiting).move (.request registration)).history
      (between ++ .request flush :: rest)) (htouches : x.touches name w = true) :
    x = .flushed name := by
  rw [h.history_registered] at hx
  rcases List.mem_append.mp hx with hx | hx
  · rw [h.meanwhile x hx] at htouches
    cases htouches
  · rcases List.mem_cons.mp hx with rfl | hx
    · rfl
    · rw [h.after x hx] at htouches
      cases htouches

/-- When the window registers, everything that was dispatched until then is held back, and nothing
was handed to the window on behalf of the satellite. -/
theorem held (h : Handover name w s registration flush waiting between rest)
    {queue : List Event} (hqueue : s.fleet.backlog.queue? name = some queue) :
    ((s.run waiting).move (.request registration)).fleet.backlog.held name =
        queue ++ events (s.history waiting) ∧
      received name w ((s.run waiting).move (.request registration)).journal =
        received name w s.journal := by
  have hholding : s.fleet.isHolding name = true := by
    simp [Fleet.isHolding, Backlog.isHolding, hqueue]
  obtain ⟨-, hheld, hpassed⟩ := hold_run waiting s hholding
    fun x hx => stops_eq_false_of_touches (h.before x hx)
  constructor
  · have hstart : s.fleet.backlog.held name = queue := by simp [Backlog.held, hqueue]
    rw [held_move (by rw [h.registers]; rfl), h.registers, hheld, hstart]
    simp [event?]
  · have hmove : ((s.run waiting).move (.request registration)).journal.passed =
        (s.run waiting).journal.passed := passed_move (by rw [h.registers]; rfl)
    unfold received passedFor at *
    rw [hmove, hpassed]

/-- At the end nothing is held back. -/
theorem held_eq_nil (h : Handover name w s registration flush waiting between rest) :
    (((s.run waiting).move (.request registration)).run
      (between ++ .request flush :: rest)).fleet.backlog.held name = [] := by
  refine Backlog.held_eq_nil ?_
  rw [run_append]
  refine isHolding_run_of_untouched (w := w) rest ?_ h.after
  have hturn := (((s.run waiting).move (.request registration)).run between).turn_move
    (.request flush)
  have hopened := hturn.isHolding_eq name
  rw [h.flushes] at hopened
  exact hopened.trans (by simp [opens, stops])

/-- The window takes what was held back at first and everything that is dispatched on behalf of the
satellite, if it stays alive and takes every message from its registration on. -/
theorem received_eq (h : Handover name w s registration flush waiting between rest)
    (hu : s.fleet.roster.Unique) {queue : List Event}
    (hqueue : s.fleet.backlog.queue? name = some queue)
    (hsteady : ((s.run waiting).move (.request registration)).keepsSteady w
      (between ++ .request flush :: rest) = true) :
    received name w (s.run (waiting ++ .request registration ::
        (between ++ .request flush :: rest))).journal =
      received name w s.journal ++ (queue ++ Move.dispatched (waiting ++ .request registration ::
        (between ++ .request flush :: rest))) := by
  obtain ⟨hheld, hnothing⟩ := h.held hqueue
  have hunique : ((s.run waiting).move (.request registration)).fleet.roster.Unique :=
    unique_of_run (unique_of_run hu waiting) [.request registration]
  have haccount := received_of_keepsSteady hunique (mem_of_registered h.registers) hsteady
    (fun v hv => by cases h.eq_flushed hv (by simp [touches]))
    (fun x hx hstops => by
      cases htouches : x.touches name w with
      | true => exact h.eq_flushed hx htouches
      | false =>
        rw [stops_eq_false_of_touches htouches] at hstops
        cases hstops)
  rw [h.held_eq_nil, List.append_nil, hnothing, hheld] at haccount
  have hevents : events (s.history (waiting ++ .request registration ::
      (between ++ .request flush :: rest))) = events (s.history waiting) ++
        events (((s.run waiting).move (.request registration)).history
          (between ++ .request flush :: rest)) := by
    rw [history_append, events_append]
    show _ ++ events ((s.run waiting).happening (.request registration) :: _) = _
    rw [events_cons, h.registers]
    rfl
  rw [run_append, ← events_history _ s, hevents]
  exact haccount.trans (by simp only [List.append_assoc])

/-- The window takes nothing on behalf of other satellites, if it was not registered for them. -/
theorem received_of_ne (h : Handover name w s registration flush waiting between rest)
    (hu : s.fleet.roster.Unique) {other : String} (hne : other ≠ name)
    (habsent : ⟨other, w⟩ ∉ s.fleet.roster.entries) :
    received other w (s.run (waiting ++ .request registration ::
        (between ++ .request flush :: rest))).journal = received other w s.journal := by
  refine received_run_of_absent _ hu habsent fun hx => ?_
  rw [history_append] at hx
  rcases List.mem_append.mp hx with hx | hx
  · exact absurd rfl (ne_registered (h.before _ hx) (.inr rfl))
  · rcases List.mem_cons.mp hx with hx | hx
    · rw [h.registers] at hx
      exact hne (Happening.registered.inj hx).1
    · cases h.eq_flushed hx (by simp [touches])

/-- The window takes what was held back at first and everything that is dispatched, each event once
and in order, and nothing else, if it stays alive and takes every message from its registration on,
and was not registered for another satellite. -/
theorem taken_eq (h : Handover name w s registration flush waiting between rest)
    (hu : s.fleet.roster.Unique) {queue : List Event}
    (hqueue : s.fleet.backlog.queue? name = some queue)
    (halone : ∀ other, ⟨other, w⟩ ∈ s.fleet.roster.entries → other = name)
    (hsteady : ((s.run waiting).move (.request registration)).keepsSteady w
      (between ++ .request flush :: rest) = true) :
    taken w ((s.run (waiting ++ .request registration ::
        (between ++ .request flush :: rest))).journal.drop s.journal.length) =
      queue ++ Move.dispatched (waiting ++ .request registration ::
        (between ++ .request flush :: rest)) := by
  have hreceived := h.received_eq hu hqueue hsteady
  have hothers : ∀ other, other ≠ name → received other w (s.run (waiting ++
      .request registration :: (between ++ .request flush :: rest))).journal =
        received other w s.journal :=
    fun other hne => h.received_of_ne hu hne fun hmem => hne (halone other hmem)
  obtain ⟨news, hnews⟩ := journal_run (waiting ++ .request registration ::
    (between ++ .request flush :: rest)) s
  rw [← hnews] at hreceived hothers ⊢
  rw [List.drop_left, taken_eq_received fun other hne => ?_]
  · rw [received_append] at hreceived
    exact List.append_cancel_left hreceived
  · have hsame := hothers other hne
    rw [received_append] at hsame
    exact List.append_right_eq_self.mp hsame

end Handover

/-- Requests by which a window registers and asks for what was held back hand over, as long as
everything can be called and all other moves are about others. -/
theorem handover_of_requests {s : Scene σ} {registration flush : Request}
    {waiting between rest : List (Move σ)} (hcallable : s.Callable)
    (hregisters : registration.Registers name w) (hflushes : flush.Flushes name)
    (hbefore : ∀ x ∈ s.history waiting, x.touches name w = false)
    (hmeanwhile : ∀ x ∈ ((s.run waiting).move (.request registration)).history between,
      x.touches name w = false)
    (hafter : ∀ x ∈ ((((s.run waiting).move (.request registration)).run between).move
      (.request flush)).history rest, x.touches name w = false) :
    Handover name w s registration flush waiting between rest where
  registers := meaning_of_registers (hcallable.run waiting) hregisters
  flushes := meaning_of_flushes
    (((hcallable.run waiting).run [.request registration]).run between) hflushes
  before := hbefore
  meanwhile := hmeanwhile
  after := hafter

end Scene

end SatelliteWindows
