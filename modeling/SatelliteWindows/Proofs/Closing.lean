import SatelliteWindows.Proofs.Closing.Bygones
import SatelliteWindows.Proofs.Delivery.Order
import SatelliteWindows.Proofs.Office.Shutdown
import SatelliteWindows.Proofs.Standing

/-!
# After all satellites were closed

When the main window goes, every registered window is asked to close once, and nothing is remembered
of any satellite: nobody is registered, nothing is held back and no opening is awaited. From then on
a fleet is told apart by nothing from one built anew with the session, the parameters, the calls,
the numbering and the counts that it has. So no event from before is ever passed on, and no opening
from before is ever given up.
-/

namespace SatelliteWindows

/-- Closing does what it says: a window that could be closed is gone, and one that is gone does not
come back when windows are closed. -/
structure Desktop.ClosesForGood (σ : Type) [Desktop σ] : Prop where
  /-- A window that could be closed is gone. -/
  gone : ∀ (w : WindowId) (a : σ), (Desktop.close w a).1 = none →
    Desktop.isAlive (Desktop.close w a).2 w = false
  /-- A window that is gone does not come back. -/
  stays : ∀ (v w : WindowId) (a : σ), Desktop.isAlive a w = false →
    Desktop.isAlive (Desktop.close v a).2 w = false

/-- A killed window is not there, and no other window comes back when one is killed. -/
theorem Simulation.isAlive_kill (d : Simulation) (v w : WindowId) :
    (d.modify v SimulatedWindow.kill).isAlive w = (d.isAlive w && decide (v ≠ w)) := by
  unfold isAlive
  rw [window?_modify]
  cases d.window? w with
  | none => rfl
  | some x => by_cases h : v = w <;> simp [h, SimulatedWindow.kill]

/-- A simulated window that is to be closed refuses, or it is killed. -/
theorem Simulation.close_cases (w : WindowId) (d : Simulation) :
    (∃ f, d.close w = (some f, d)) ∨ d.close w = (none, d.modify w SimulatedWindow.kill) := by
  unfold close ask
  cases d.window? w with
  | none => exact .inl ⟨_, rfl⟩
  | some window =>
    dsimp only
    split
    · exact .inl ⟨_, rfl⟩
    · exact .inr rfl

/-- On the simulated desktop windows are closed for good. -/
theorem Simulation.closesForGood : Desktop.ClosesForGood Simulation where
  gone w d h := by
    show (Simulation.close w d).2.isAlive w = false
    have hclose : (Simulation.close w d).1 = none := h
    rcases close_cases w d with ⟨f, hrefused⟩ | hkilled
    · rw [hrefused] at hclose
      cases hclose
    · simp [hkilled, isAlive_kill]
  stays v w d h := by
    show (Simulation.close v d).2.isAlive w = false
    have hdead : d.isAlive w = false := h
    rcases close_cases v d with ⟨f, hrefused⟩ | hkilled
    · rw [hrefused]
      exact hdead
    · simp [hkilled, isAlive_kill, hdead]

namespace Scene

open Journal

variable {σ : Type} [Desktop σ]

/-! ## Windows that are closed -/

/-- A window that is gone does not come back when windows are closed. -/
theorem isAlive_closeWindows_of_gone (h : Desktop.ClosesForGood σ) (ws : List WindowId)
    {s : Scene σ} {w : WindowId} (hw : s.isAlive w = false) :
    (s.closeWindows ws).isAlive w = false := by
  induction ws generalizing s with
  | nil => exact hw
  | cons v rest ih => exact ih (h.stays v w s.world hw)

/-- Windows that could be closed are gone when all have been closed. -/
theorem isAlive_closeWindows (h : Desktop.ClosesForGood σ) (ws : List WindowId) {s : Scene σ}
    {w : WindowId} (hs : s.journal = []) (hw : .close w none ∈ (s.closeWindows ws).journal) :
    (s.closeWindows ws).isAlive w = false := by
  induction ws generalizing s with
  | nil =>
    rw [show (s.closeWindows []).journal = s.journal from rfl, hs] at hw
    cases hw
  | cons v rest ih =>
    -- what was done first stands before what the rest of the windows do
    have hsplit : s.closeWindows (v :: rest) =
        ((Scene.mk s.fleet (Desktop.close v s.world).2 []).closeWindows rest).behind
          [.close v (Desktop.close v s.world).1] := by
      rw [← closeWindows_behind]
      show (s.closeWindow v).2.closeWindows rest = _
      unfold closeWindow record behind
      simp only [hs, List.nil_append, List.append_nil]
    rw [hsplit] at hw ⊢
    rcases List.mem_append.mp hw with hfirst | hlater
    · have heq := List.mem_singleton.mp hfirst
      injection heq with hv hfault
      subst hv
      exact isAlive_closeWindows_of_gone h rest (h.gone w s.world hfault.symm)
    · exact ih rfl hlater

/-- Registered windows that could be closed are gone when all satellites have been closed. -/
theorem isAlive_closeAll (h : Desktop.ClosesForGood σ) {s : Scene σ} {w : WindowId}
    (hw : .close w none ∈ s.closeAll.journal.drop s.journal.length) :
    s.closeAll.isAlive w = false := by
  obtain ⟨j, t, ht, rfl⟩ : ∃ j t, t.journal = [] ∧ s = t.behind j :=
    ⟨s.journal, { s with journal := [] }, rfl, by simp [behind]⟩
  have hlength : (t.behind j).journal.length = j.length := by simp [behind, ht]
  rw [closeAll_behind, hlength] at hw
  rw [closeAll_behind]
  have hnews : .close w none ∈ t.closeAll.journal := by
    simpa only [behind, List.drop_left] using hw
  rcases List.mem_append.mp hnews with hclosed | hreport
  · exact isAlive_closeWindows h _ (s := t.alter fun f => { f with roster := Roster.empty })
      ht hclosed
  · cases List.mem_singleton.mp hreport

/-! ## What is left -/

/-- A new scene for what is not about the satellites that there are: where the fleet is looked
after, its session, the parameters supplied, the calls, the numbering and the counts. -/
def builtAnew (f : Fleet) (world : σ) : Scene σ :=
  (start f.role f.platform f.session world).alter fun fresh => { fresh with
    startup := f.startup
    calls := f.calls
    generation := f.generation
    tally := f.tally }

/-- When all satellites have been closed, the fleet is as one that is built anew. -/
theorem fleet_closeAll (s : Scene σ) :
    s.closeAll.fleet = (builtAnew s.fleet s.closeAll.world).fleet := by
  have hkept := (closeWindows_eq (s.fleet.roster.entries.map Entry.window)
    (s.alter fun f => { f with roster := Roster.empty })).1
  exact congrArg (fun f : Fleet =>
    { f with backlog := Backlog.empty, awaited := NameMap.empty }) hkept

/-- A fleet whose satellites were all closed is one that was built anew, apart from what is written
down. -/
theorem closeAll_eq (s : Scene σ) :
    s.closeAll = (builtAnew s.fleet s.closeAll.world).behind s.closeAll.journal := by
  show s.closeAll =
    ⟨(builtAnew s.fleet s.closeAll.world).fleet, s.closeAll.world, s.closeAll.journal ++ []⟩
  rw [← fleet_closeAll, List.append_nil]

/-- An opening from before is never given up afterwards. -/
theorem not_expired_of_closeAll (s : Scene σ) (later : List (Move σ)) (name : String) {g : Nat}
    (hg : g ≤ s.fleet.generation) : ((s.closeAll.run later).expire name g).1 = false := by
  have hpast : s.closeAll.handshake.Past name g := by
    rw [handshake_closeAll]
    exact ⟨hg, fun j _ hstanding => by cases hstanding.1⟩
  have hlater : (s.closeAll.run later).handshake.Past name g :=
    (Course.of_run later s.closeAll).induct (fun turn h => (turn.past h).1) hpast
  refine Bool.eq_false_iff.mpr fun hgiven => ?_
  exact hlater.2 g (Nat.le_refl g) ((expire_fst name g _).mp hgiven)

/-- What is passed on afterwards was dispatched afterwards. -/
theorem tried_of_closeAll (s : Scene σ) (later : List (Move σ)) (name : String) :
    ∃ es : List Event, tried name (s.closeAll.run later).journal = tried name s.journal ++ es ∧
      es.Sublist (Move.dispatched later) := by
  have hunique : s.closeAll.fleet.roster.Unique := by
    rw [fleet_closeAll]
    exact Roster.unique_empty
  have hheld : s.closeAll.fleet.backlog.held name = [] := by
    rw [fleet_closeAll]
    rfl
  have htried : tried name s.closeAll.journal = tried name s.journal := by
    unfold tried
    rw [(discreet_closeAll s).passedFor name]
  obtain ⟨es, hes, hsublist⟩ := tried_run hunique later name
  rw [hheld, List.nil_append] at hsublist
  exact ⟨es, by rw [hes, htried], (List.sublist_append_left _ _).trans hsublist⟩

/-- A scene goes on like one that is built anew: after any moves it remembers the same, the desktop
is the same, what was done since is the same, and so are the answers to whatever is asked next. -/
def StartsAfresh (f : Fleet) (t : Scene σ) : Prop :=
  ∀ later : List (Move σ),
    t.run later = ((builtAnew f t.world).run later).behind t.journal ∧
      ∀ r, ((t.run later).perform r).1 = (((builtAnew f t.world).run later).perform r).1

/-- Closing all satellites starts afresh. -/
theorem startsAfresh_closeAll (s : Scene σ) : StartsAfresh s.fleet s.closeAll := by
  intro later
  have hrun : s.closeAll.run later =
      ((builtAnew s.fleet s.closeAll.world).run later).behind s.closeAll.journal := by
    rw [← run_behind, ← closeAll_eq]
  refine ⟨hrun, fun r => ?_⟩
  rw [hrun, perform_behind]
  rfl

/-- On every run, to close all satellites, or to lose the main window, asks every registered window
to close, once and in order, whatever comes of it, and reports how many there were. Registrations,
events held back and openings are forgotten, and every window that could be closed is gone.

From then on the fleet does the same as one that is built anew. No opening from before is given up.
And if events are numbered as they are dispatched, then those that are passed on afterwards, under
any name, carry the numbers of events that were dispatched afterwards. -/
theorem closing_all_starts_afresh (role : Role) (platform : Platform) (session : Payload)
    (world : σ) (earlier : List (Move σ)) :
    let first := start role platform session world
    let s := first.run earlier
    let t := s.closeAll
    let k := (Move.dispatched earlier).length
    let numbered :=
      (start role platform session (Numbered.mk world)).run (Move.numberFrom 0 earlier)
    (s.perform .closeAll = (.ok .done, t) ∧ s.perform .mainWindowClosed = (.ok .done, t)) ∧
    AllClosed s t ∧
    (Desktop.ClosesForGood σ → ∀ w, .close w none ∈ t.journal.drop s.journal.length →
      t.isAlive w = false) ∧
    StartsAfresh s.fleet t ∧
    (∀ later name, ∀ g ≤ s.fleet.generation, ((t.run later).expire name g).1 = false) ∧
    (∀ e ∈ Move.dispatched (Move.numberFrom 0 earlier), e.number < k) ∧
    ∀ later name,
      (numbered.closeAll.run (Move.numberFrom k later)).seen Numbered.view = t.run later ∧
      ∃ es, tried name (numbered.closeAll.run (Move.numberFrom k later)).journal =
        tried name numbered.journal ++ es ∧ ∀ e ∈ es, k ≤ e.number := by
  intro first s t k numbered
  have hclosed : AllClosed s t := allClosed_mainWindowClosed s
  refine ⟨⟨rfl, rfl⟩, hclosed, fun hgood w hw => ?_, startsAfresh_closeAll s,
    fun later name g hg => not_expired_of_closeAll s later name hg, fun e he => ?_,
    fun later name => ⟨?_, ?_⟩⟩
  · exact isAlive_closeAll hgood hw
  · have hbefore := (Move.number_of_dispatched he).2
    rwa [Nat.zero_add] at hbefore
  · have hseen : numbered.seen Numbered.view = s :=
      seen_run Numbered.view (Move.numberFrom_seenAs 0 earlier) _
    rw [seen_run Numbered.view (Move.numberFrom_seenAs k later), seen_closeAll, hseen]
  · obtain ⟨es, htried, hes⟩ := tried_of_closeAll numbered (Move.numberFrom k later) name
    exact ⟨es, htried, fun e he => (Move.number_of_dispatched (hes.subset he)).1⟩

/-- A chart and a map come up and register, and the window of the map is one that cannot be
closed. -/
def reluctant : List (Move Simulation) :=
  [.request (.openSatellite "chart" none ⟨400, 300⟩), .request (.register "chart" 0),
    .request (.openSatellite "map" none ⟨400, 300⟩), .request (.register "map" 1),
    .shift fun d => d.modify 1 fun w => { w with defects := { close := true } }]

/-- When all satellites have been closed, the window of the chart, which could be closed, is gone.
That of the map is still there. -/
theorem gone_of_reluctant :
    let s := (start .main .nativeShell .null ({ screen := ⟨1280, 800⟩ } : Simulation)).run reluctant
    Desktop.ClosesForGood Simulation ∧
      .close 0 none ∈ s.closeAll.journal.drop s.journal.length ∧
      s.isAlive 0 = true ∧ s.closeAll.isAlive 0 = false ∧
      .close 1 none ∉ s.closeAll.journal.drop s.journal.length ∧
      s.closeAll.isAlive 1 = true := by
  intro s
  have hclosed : .close 0 none ∈ s.closeAll.journal.drop s.journal.length := by decide +kernel
  obtain ⟨-, -, hgone, -⟩ := closing_all_starts_afresh .main .nativeShell .null
    ({ screen := ⟨1280, 800⟩ } : Simulation) reluctant
  exact ⟨Simulation.closesForGood, hclosed, by decide +kernel,
    hgone Simulation.closesForGood 0 hclosed, by decide +kernel, by decide +kernel⟩

end Scene

end SatelliteWindows
