import SatelliteWindows.Proofs.Books.Metrics
import SatelliteWindows.Proofs.Delivery.Bystanders
import SatelliteWindows.Proofs.Provisions

/-!
# What satellites can do

Satellites and other child windows reach the fleet by calls only. Whatever they call, under any
names and with any windows, they are told things and things are reported, but no window is asked
for, brought to the front or closed. They can neither make events be held back nor lengthen a queue,
and all they can get passed on is what was held back before they called. A satellite that is
registered stays so, unless a window registers in its place.

Calls are installed once: to install them again makes no difference to anything.
-/

namespace SatelliteWindows

/-- Whether an effect tells something: to a window, or to whoever listens. -/
def Effect.isTelling : Effect → Bool
  | delivery .. | report _ => true
  | openRequest .. | raise .. | focus .. | close .. => false

/-- Whether a request is a call, or makes calls possible. -/
def Request.isCall : Request → Bool
  | invoke .. | installCalls => true
  | _ => false

/-- Whether a move is a call, makes calls possible, or happens to the desktop. -/
def Move.isCall {σ : Type} : Move σ → Bool
  | request r => r.isCall
  | shift _ => true

/-- Whether a move installs the calls. -/
def Move.installs {σ : Type} : Move σ → Bool
  | request .installCalls => true
  | _ => false

/-- Whether a call can mean what happens. -/
def Happening.isServed : Happening → Bool
  | registered .. | flushed _ | other => true
  | _ => false

/-! ## Registrations -/

namespace Roster

/-- A registration moves nobody: names stay where they are, and a new one comes at the end. -/
theorem names_upsert_prefix (new : Entry) (r : Roster) : r.names <+: (r.upsert new).names := by
  unfold upsert
  split
  · exact List.prefix_rfl
  · show r.names <+: (putEntry new r.entries).map Entry.name
    rw [map_name_putEntry]
    split
    · exact List.prefix_rfl
    · exact List.prefix_append _ _

/-- A registration takes away no entry but the one of its own name, in whose place it comes. -/
theorem mem_upsert_or_replaced (new : Entry) {e : Entry} {r : Roster} (he : e ∈ r.entries) :
    e ∈ (r.upsert new).entries ∨ new.name = e.name ∧ new.window ≠ e.window := by
  by_cases hname : e.name = new.name
  · by_cases hwindow : new.window = e.window
    · have hsame : e = new := by cases e; cases new; simp_all
      exact .inl (hsame ▸ mem_upsert_self new r)
    · exact .inr ⟨hname.symm, hwindow⟩
  · exact .inl (mem_upsert_of_name_ne he hname)

end Roster

namespace CallTable

variable {α : Type}

/-- A name that is installed is taken. -/
theorem contains_install (name : String) (call : α) (t : CallTable α) :
    (t.install name call).2.calls.contains name = true := by
  unfold install
  split
  · assumption
  · show ((t.calls.put name call).get? name).isSome = true
    rw [NameMap.get?_put, if_pos rfl]
    rfl

/-- A name that is taken stays so. -/
theorem contains_of_install {t : CallTable α} {name : String}
    (h : t.calls.contains name = true) (other : String) (new : α) :
    (t.install other new).2.calls.contains name = true := by
  obtain ⟨call, hcall⟩ := Option.isSome_iff_exists.mp h
  show ((t.install other new).2.get? name).isSome = true
  rw [get?_install hcall]
  rfl

end CallTable

namespace Scene

open Happening Journal

variable {σ : Type}

/-! ## What calls do -/

/-- From one scene to another things were told, and neither the session nor the parameters supplied
nor the numbering of openings has changed. -/
structure Tells (s t : Scene σ) : Prop where
  /-- What was done. -/
  journal : ∃ news : Journal, t.journal = s.journal ++ news ∧ ∀ e ∈ news, e.isTelling = true
  /-- The session. -/
  session : t.fleet.session = s.fleet.session
  /-- The parameters supplied. -/
  startup : t.fleet.startup = s.fleet.startup
  /-- The number of the last opening. -/
  generation : t.fleet.generation = s.fleet.generation
  /-- How often a window was asked for. -/
  opensRequested : t.fleet.tally.opensRequested = s.fleet.tally.opensRequested

/-- To write nothing down, to ask for no window and to keep the session and the params is no more
than calls may do. -/
theorem Tells.of_silent {s t : Scene σ} (journal : t.journal = s.journal)
    (session : t.fleet.session = s.fleet.session) (startup : t.fleet.startup = s.fleet.startup)
    (generation : t.fleet.generation = s.fleet.generation)
    (opensRequested : t.fleet.tally.opensRequested = s.fleet.tally.opensRequested) : Tells s t :=
  ⟨⟨[], journal.trans (List.append_nil _).symm, by simp⟩, session, startup, generation,
    opensRequested⟩

/-- Calls may do nothing at all. -/
theorem Tells.refl (s : Scene σ) : Tells s s := .of_silent rfl rfl rfl rfl rfl

/-- What calls may do in two stretches they may do in both together. -/
theorem Tells.trans {s t u : Scene σ} (hst : Tells s t) (htu : Tells t u) : Tells s u where
  journal := by
    obtain ⟨first, hfirst, htelling⟩ := hst.journal
    obtain ⟨more, hmore, htelling'⟩ := htu.journal
    refine ⟨first ++ more, by rw [hmore, hfirst, List.append_assoc], fun e he => ?_⟩
    exact (List.mem_append.mp he).elim (htelling e) (htelling' e)
  session := htu.session.trans hst.session
  startup := htu.startup.trans hst.startup
  generation := htu.generation.trans hst.generation
  opensRequested := htu.opensRequested.trans hst.opensRequested

variable [Desktop σ]

/-- A call means a registration, a flush, or nothing. -/
theorem isServed_happening {m : Move σ} (hm : m.isCall = true) (s : Scene σ) :
    (s.happening m).isServed = true := by
  cases m with
  | shift change => rfl
  | request r =>
    cases r with
    | invoke operation caller =>
      have hserved := served_invoke operation caller s
      show (s.meaning (.invoke operation caller)).isServed = true
      generalize s.meaning (.invoke operation caller) = x, (s.invoke operation caller).2 = t
        at hserved
      cases hserved <;> rfl
    | installCalls => rfl
    | _ => cases hm

/-- Nothing is counted for a call but what is written down of it. -/
theorem entered_of_isCall {m : Move σ} (hm : m.isCall = true) (s : Scene σ) :
    ∃ news : Journal, Entered news s (s.move m) := by
  cases enters_move m s with
  | quiet _ hnews =>
    obtain ⟨news, hentered, -⟩ := hnews
    exact ⟨news, hentered⟩
  | flushed name _ does =>
    obtain ⟨⟨news, hentered, -⟩, -⟩ := entered_flush name s
    exact ⟨news, does ▸ hentered⟩
  | broadcast _ means =>
    -- only dispatches send something to all satellites, and they are no calls
    rcases move_of_broadcasts means with ⟨e, rfl⟩ | ⟨c, rfl⟩ <;> cases hm

/-- A call tells things: all that it may write down is told. -/
theorem tells_invoke (operation : String) (caller : Caller) (s : Scene σ) :
    Tells s (s.move (.request (.invoke operation caller))) := by
  obtain ⟨news, hentered⟩ := entered_of_isCall (m := .request (.invoke operation caller)) rfl s
  obtain ⟨written, hwritten, hmay⟩ := (writes_perform (.invoke operation caller) s).journal
  have hsame : written = news := List.append_cancel_left (hwritten.symm.trans hentered.journal)
  subst hsame
  have hrequests : Journal.openRequests written = [] :=
    List.filterMap_eq_nil_iff.mpr fun e he => (Effect.OfTelling.quiet (hmay e he)).2
  have hprovisions := provisions_invoke operation caller s
  refine ⟨⟨written, hentered.journal, fun e he => ?_⟩, congrArg Provisions.session hprovisions,
    congrArg Provisions.startup hprovisions, ?_, ?_⟩
  · have htold := hmay e he
    cases e with
    | delivery | report => rfl
    | _ => cases htold
  · rw [hentered.generation, hrequests]
    rfl
  · rw [hentered.tally]
    show _ + (Journal.openRequests written).length = _
    rw [hrequests]
    rfl

/-- A call does no more than calls may do. -/
theorem tells_move {m : Move σ} (hm : m.isCall = true) (s : Scene σ) : Tells s (s.move m) := by
  cases m with
  | shift change => exact .of_silent rfl rfl rfl rfl rfl
  | request r =>
    cases r with
    | invoke operation caller => exact tells_invoke operation caller s
    | installCalls => exact .of_silent rfl rfl rfl rfl rfl
    | _ => cases hm

/-- Nor do any number of calls. -/
theorem tells_run {moves : List (Move σ)} (hcalls : ∀ m ∈ moves, m.isCall = true) (s : Scene σ) :
    Tells s (s.run moves) := by
  induction moves generalizing s with
  | nil => exact .refl s
  | cons m rest ih =>
    have hrest : ∀ m ∈ rest, m.isCall = true := fun n hn => hcalls n (List.mem_cons_of_mem _ hn)
    exact (tells_move (hcalls m List.mem_cons_self) s).trans (ih hrest (s.move m))

end Scene

/-! ## What becomes of queues and registrations -/

/-- Events are held back for fewer satellites, and for those that are left the queue is the same. -/
def Backlog.Shrinks (b c : Backlog) : Prop :=
  ∀ name, c.queue? name = b.queue? name ∨ c.queue? name = none

/-- Where a registered satellite is to be found later: its name is where it was, and its window is
the same unless another one has registered for it. -/
structure Roster.Keeps (hs : List Happening) (r t : Roster) : Prop where
  /-- Names stay where they are. -/
  names : r.names <+: t.names
  /-- So do windows, unless another one takes the place. -/
  entries : ∀ e ∈ r.entries, e ∈ t.entries ∨
    ∃ w, w ≠ e.window ∧ ⟨e.name, w⟩ ∈ t.entries ∧ .registered e.name w ∈ hs

/-- A roster that is left alone keeps its satellites. -/
theorem Roster.Keeps.refl (r : Roster) : Roster.Keeps [] r r :=
  ⟨List.prefix_rfl, fun _ he => .inl he⟩

/-- What is kept in two stretches is kept in both together. -/
theorem Roster.Keeps.trans {hs ks : List Happening} {r t u : Roster} (hrt : Roster.Keeps hs r t)
    (htu : Roster.Keeps ks t u) : Roster.Keeps (hs ++ ks) r u where
  names := hrt.names.trans htu.names
  entries e he := by
    rcases hrt.entries e he with ht | ⟨w, hw, ht, hregistered⟩
    · rcases htu.entries e ht with hu | ⟨v, hv, hu, hregistered⟩
      · exact .inl hu
      · exact .inr ⟨v, hv, hu, List.mem_append_right hs hregistered⟩
    · rcases htu.entries ⟨e.name, w⟩ ht with hu | ⟨v, hv, hu, hregistered'⟩
      · exact .inr ⟨w, hw, hu, List.mem_append_left ks hregistered⟩
      · -- the window that was there first may have come back
        by_cases hback : v = e.window
        · rw [hback] at hu
          exact .inl hu
        · exact .inr ⟨v, hback, hu, List.mem_append_right hs hregistered'⟩

namespace Turn

variable {x : Happening} {h k : Handshake}

/-- A call that is served holds nothing back. -/
theorem backlog_shrinks (turn : Turn x h k) (hx : x.isServed = true) :
    h.backlog.Shrinks k.backlog := by
  intro name
  rw [turn.queue?_eq name]
  cases x with
  | registered | other =>
    simp [Happening.onQueue, Happening.opens, Happening.stops, Happening.event?]
  | flushed n => by_cases hn : n = name <;> simp [Happening.onQueue, Happening.opens,
      Happening.stops, Happening.event?, hn]
  | _ => cases hx

/-- A call that is served takes nobody off the roster. -/
theorem roster_keeps (turn : Turn x h k) (hx : x.isServed = true) :
    Roster.Keeps [x] h.roster k.roster := by
  cases turn with
  | registered name w =>
    refine ⟨Roster.names_upsert_prefix ⟨name, w⟩ h.roster, fun e he => ?_⟩
    rcases Roster.mem_upsert_or_replaced ⟨name, w⟩ he with hkept | ⟨hname, hwindow⟩
    · exact .inl hkept
    · have hsame : name = e.name := hname
      subst hsame
      exact .inr
        ⟨w, hwindow, Roster.mem_upsert_self ⟨e.name, w⟩ h.roster, List.mem_singleton_self _⟩
  | flushed | idle | lapsed => exact ⟨List.prefix_rfl, fun _ he => .inl he⟩
  | opened | closed | allClosed | expired | dispatched | commanded => cases hx

end Turn

namespace Scene

open Happening Journal

variable {σ : Type} [Desktop σ]

/-- However many calls are made, nothing more is held back. -/
theorem backlog_shrinks_run {moves : List (Move σ)} (hcalls : ∀ m ∈ moves, m.isCall = true)
    (s : Scene σ) : s.fleet.backlog.Shrinks (s.run moves).fleet.backlog := by
  induction moves generalizing s with
  | nil => exact fun name => .inl rfl
  | cons m rest ih =>
    have hmove : s.fleet.backlog.Shrinks (s.move m).fleet.backlog :=
      (s.turn_move m).backlog_shrinks (isServed_happening (hcalls m List.mem_cons_self) s)
    intro name
    rcases ih (fun n hn => hcalls n (List.mem_cons_of_mem _ hn)) (s.move m) name with hsame | hnone
    · exact (hmove name).imp hsame.trans hsame.trans
    · exact .inr hnone

/-- However many calls are made, nobody is taken off the roster. -/
theorem roster_keeps_run {moves : List (Move σ)} (hcalls : ∀ m ∈ moves, m.isCall = true)
    (s : Scene σ) : Roster.Keeps (s.history moves) s.fleet.roster (s.run moves).fleet.roster := by
  induction moves generalizing s with
  | nil => exact .refl _
  | cons m rest ih =>
    have hmove : Roster.Keeps [s.happening m] s.fleet.roster (s.move m).fleet.roster :=
      (s.turn_move m).roster_keeps (isServed_happening (hcalls m List.mem_cons_self) s)
    exact hmove.trans (ih (fun n hn => hcalls n (List.mem_cons_of_mem _ hn)) (s.move m))

omit [Desktop σ] in
/-- No call dispatches an event. -/
theorem dispatched_eq_nil {moves : List (Move σ)} (hcalls : ∀ m ∈ moves, m.isCall = true) :
    Move.dispatched moves = [] := by
  refine List.filterMap_eq_nil_iff.mpr fun m hm => ?_
  have hcall := hcalls m hm
  cases m with
  | shift change => rfl
  | request r => cases r <;> first | rfl | cases hcall

/-! ## Installing calls -/

/-- Whether every call has a name that something is installed under. -/
def Installed (s : Scene σ) : Prop :=
  ∀ c : Call, s.fleet.calls.calls.contains c.operation = true

omit [Desktop σ] in
/-- Once calls have been installed, each has its name. -/
theorem installed_installCalls (s : Scene σ) : s.installCalls.Installed := by
  have hstays : ∀ (name : String) (l : List Call) (t : CallTable Call),
      t.calls.contains name = true →
      (l.foldl (fun t c => (t.install c.operation c).2) t).calls.contains name = true := by
    intro name l
    induction l with
    | nil => exact fun t ht => ht
    | cons c rest ih => exact fun t ht => ih _ (CallTable.contains_of_install ht c.operation c)
  have hall : ∀ (c : Call) (l : List Call) (t : CallTable Call), c ∈ l →
      (l.foldl (fun t c => (t.install c.operation c).2) t).calls.contains c.operation = true := by
    intro c l
    induction l with
    | nil => exact fun t hc => by cases hc
    | cons d rest ih =>
      intro t hc
      rcases List.mem_cons.mp hc with rfl | hc
      · exact hstays c.operation rest _ (CallTable.contains_install c.operation c t)
      · exact ih _ hc
  exact fun c => hall c Call.all s.fleet.calls (by cases c <;> decide)

omit [Desktop σ] in
/-- Where everything is installed there is nothing to install. -/
theorem Installed.installCalls_eq {s : Scene σ} (h : s.Installed) : s.installCalls = s := by
  have hinstall : ∀ l : List Call,
      l.foldl (fun t c => (t.install c.operation c).2) s.fleet.calls = s.fleet.calls := by
    intro l
    induction l with
    | nil => rfl
    | cons c rest ih =>
      rw [List.foldl_cons, CallTable.install, if_pos (h c)]
      exact ih
  show { s with fleet := { s.fleet with calls := _ } } = s
  rw [hinstall Call.all]

/-- Calls that were installed stay installed, whatever is asked and whatever happens to
the desktop. -/
theorem Installed.move {s : Scene σ} (h : s.Installed) (m : Move σ) : (s.move m).Installed := by
  cases m with
  | shift change => exact h
  | request r =>
    by_cases hr : r = .installCalls
    · subst hr
      exact installed_installCalls s
    · intro c
      show (s.perform r).2.fleet.calls.calls.contains c.operation = true
      rw [calls_perform hr]
      exact h c

/-- Once everything is installed, moves that install make no difference. -/
theorem Installed.run_filter {s : Scene σ} (h : s.Installed) (moves : List (Move σ)) :
    s.run (moves.filter fun m => !m.installs) = s.run moves := by
  induction moves generalizing s with
  | nil => rfl
  | cons m rest ih =>
    cases hm : m.installs with
    | false =>
      rw [List.filter_cons_of_pos (by simp [hm])]
      exact ih (h.move m)
    | true =>
      have hsame : s.move m = s := by
        cases m with
        | shift change => cases hm
        | request r => cases r <;> first | exact h.installCalls_eq | cases hm
      rw [List.filter_cons_of_neg (by simp [hm]), ih h]
      show s.run rest = (s.move m).run rest
      rw [hsame]

/-! ## Confinement -/

/-- Calls and whatever happens to the desktop in between, from wherever a run has come to: windows
and listeners are told things, and no window is asked for, brought to the front or closed; the
session, the parameters and the numbering of openings stay as they are. No queue appears or grows,
and no registration goes away unless another window registers in its place. What is handed on for a
satellite is part of what was held back for it at first, each event once. And once calls are
installed, installing them again changes neither answers nor anything that comes later. -/
theorem calls_confined (role : Role) (platform : Platform) (session : Payload) (world : σ)
    (earlier calls : List (Move σ)) (hcalls : ∀ m ∈ calls, m.isCall = true) :
    let s := (start role platform session world).run earlier
    let t := s.run calls
    Tells s t ∧ s.fleet.backlog.Shrinks t.fleet.backlog ∧
    Roster.Keeps (s.history calls) s.fleet.roster t.fleet.roster ∧
    (∀ name, ∃ es, tried name t.journal = tried name s.journal ++ es ∧
      (es ++ t.fleet.backlog.held name).Sublist (s.fleet.backlog.held name)) ∧
    ∀ (moves : List (Move σ)) (r : Request),
      (s.installCalls.run (moves.filter fun m => !m.installs)).perform r =
        (s.installCalls.run moves).perform r := by
  intro s t
  have hunique : s.fleet.roster.Unique := unique_of_run Roster.unique_empty earlier
  refine ⟨tells_run hcalls s, backlog_shrinks_run hcalls s, roster_keeps_run hcalls s,
    fun name => ?_, fun moves r => ?_⟩
  · obtain ⟨es, htried, hes⟩ := tried_run hunique calls name
    rw [dispatched_eq_nil hcalls, List.append_nil] at hes
    exact ⟨es, htried, hes⟩
  · rw [(installed_installCalls s).run_filter moves]

/-- A satellite is opened, and two events are dispatched. -/
def openedForEvents : List (Move Simulation) :=
  [.request .installCalls, .request (.openSatellite "chart" none ⟨400, 300⟩),
    .request (.dispatchEvent ⟨"tick", .int 1⟩), .request (.dispatchEvent ⟨"tick", .int 2⟩)]

/-- The window registers under another name as well, asks twice for what was held back, and calls
something that there is not. -/
def callsOfWindow : List (Move Simulation) :=
  [.request (.invoke Call.register.operation ⟨"chart", some 0⟩),
    .request (.invoke Call.register.operation ⟨"table", some 0⟩),
    .request (.invoke Call.flush.operation ⟨"table", none⟩), .request .installCalls,
    .request (.invoke Call.flush.operation ⟨"chart", none⟩),
    .request (.invoke Call.flush.operation ⟨"chart", some 0⟩),
    .request (.invoke "close-all-satellites" ⟨"chart", some 0⟩)]

/-- The window gets what was held back for it once, and no window is asked for. -/
theorem tried_of_callsOfWindow :
    let s := (start .main .nativeShell .null ({ screen := ⟨1280, 800⟩ } : Simulation)).run
      openedForEvents
    let t := s.run callsOfWindow
    (∀ m ∈ callsOfWindow, m.isCall = true) ∧
      tried "chart" t.journal = [⟨"tick", .int 1⟩, ⟨"tick", .int 2⟩] ∧
      tried "table" t.journal = [] ∧ t.fleet.tally.opensRequested = 1 := by
  intro s t
  have hcalls : ∀ m ∈ callsOfWindow, m.isCall = true := by
    intro m hm
    simp only [callsOfWindow, List.mem_cons, List.not_mem_nil, or_false] at hm
    rcases hm with rfl | rfl | rfl | rfl | rfl | rfl | rfl <;> rfl
  have hconfined := calls_confined .main .nativeShell .null
    ({ screen := ⟨1280, 800⟩ } : Simulation) openedForEvents callsOfWindow hcalls
  have htells : Tells s t := hconfined.1
  have hheld : s.fleet.backlog.held "table" = [] := by decide +kernel
  have hbefore : tried "table" s.journal = [] := by decide +kernel
  have hchart : tried "chart" t.journal = [⟨"tick", .int 1⟩, ⟨"tick", .int 2⟩] := by decide +kernel
  have hasked : s.fleet.tally.opensRequested = 1 := by decide +kernel
  obtain ⟨es, heq, hes⟩ := hconfined.2.2.2.1 "table"
  have hnone : es = [] := by
    rw [hheld] at hes
    exact (List.append_eq_nil_iff.mp (List.sublist_nil.mp hes)).1
  refine ⟨hcalls, hchart, heq.trans ?_, htells.opensRequested.trans hasked⟩
  rw [hbefore, hnone]
  rfl

end Scene

end SatelliteWindows
