import SatelliteWindows.Proofs.Delivery.Bystanders
import SatelliteWindows.Proofs.Household.Windows
import SatelliteWindows.Proofs.Reopening
import SatelliteWindows.Scenario.Deed
import SatelliteWindows.Scenario.Validation

/-!
# A desktop that makes windows

On a simulated desktop that neither denies openings nor fails them, a satellite that is opened has a
window from then on: one is made for it, or it has registered one, and then one was made before. A
window may die, but it is never taken off the desktop.

Therefore no request of a scenario's steps is refused by the main window, and a satellite that was
opened never lacks a window.
-/

namespace SatelliteWindows

namespace Simulation

/-- A window was made for a satellite; it may be dead. -/
def HasWindow (name : String) (d : Simulation) : Prop :=
  ∃ w window, d.latest? name = some w ∧ d.window? w = some window ∧ window.name = name

/-- A window comes up whenever one is asked for. -/
structure Hosts (d : Simulation) : Prop where
  /-- No request for a window is swallowed. -/
  denying : d.denying = false
  /-- No request for a window fails. -/
  failingOpens : d.failingOpens = false
  /-- The window last made for a satellite is a window of that satellite. -/
  named : ∀ name w, d.latest? name = some w → d.HasWindow name

/-- A desktop goes on to make windows, and the windows that were made stay. -/
structure Grown (a b : Simulation) : Prop where
  /-- Windows are made as before. -/
  hosts : a.Hosts → b.Hosts
  /-- Satellites keep their windows. -/
  windows : ∀ name, a.HasWindow name → b.HasWindow name

/-- A desktop that is left alone has grown by nothing. -/
theorem Grown.refl (d : Simulation) : Grown d d := ⟨id, fun _ => id⟩

/-- A desktop that has grown twice has grown. -/
theorem Grown.trans {a b c : Simulation} (hab : Grown a b) (hbc : Grown b c) : Grown a c :=
  ⟨fun h => hbc.hosts (hab.hosts h), fun name h => hbc.windows name (hab.windows name h)⟩

variable {a b d : Simulation}

/-- A desktop grows when every satellite with a window keeps one, and no other has got one. -/
theorem Grown.of_windows (denying : a.denying = false → b.denying = false)
    (failingOpens : b.failingOpens = a.failingOpens)
    (latest : ∀ name w, b.latest? name = some w → b.HasWindow name ∨ a.latest? name = some w)
    (windows : ∀ name, a.HasWindow name → b.HasWindow name) : Grown a b where
  hosts h := ⟨denying h.denying, failingOpens.trans h.failingOpens, fun name w hlatest =>
    (latest name w hlatest).elim id fun hbefore => windows name (h.named name w hbefore)⟩
  windows := windows

/-- What does not touch the windows does not matter. -/
theorem Grown.of_eq (windows : b.windows = a.windows) (latest : b.latest = a.latest)
    (denying : a.denying = false → b.denying = false)
    (failingOpens : b.failingOpens = a.failingOpens) : Grown a b := by
  have hlatest : ∀ name, b.latest? name = a.latest? name := fun name => by
    unfold latest?
    rw [latest]
  have hwindow : ∀ w, b.window? w = a.window? w := fun w => by
    unfold window?
    rw [windows]
  refine .of_windows denying failingOpens (fun name w h => .inr ((hlatest name).symm.trans h))
    fun name h => ?_
  obtain ⟨w, window, hw, hat, hname⟩ := h
  exact ⟨w, window, (hlatest name).trans hw, (hwindow w).trans hat, hname⟩

/-- Windows that are dealt with stay, and others come up as before. -/
theorem Grown.of_tended (h : Tended a b) : Grown a b := by
  refine .of_windows h.denying.trans h.failingOpens
    (fun name w hw => .inr ((h.latest?_eq name).symm.trans hw)) fun name hname => ?_
  obtain ⟨w, x, hw, hx, hxname⟩ := hname
  obtain ⟨y, hy, hages, -⟩ := h.ages hx
  exact ⟨w, y, (h.latest?_eq name).trans hw, hy, hages.name.trans hxname⟩

/-- Windows keep their names whatever else becomes of them. -/
theorem grown_modify (w : WindowId) (f : SimulatedWindow → SimulatedWindow)
    (hf : ∀ window, (f window).name = window.name) (d : Simulation) : Grown d (d.modify w f) := by
  refine .of_windows id rfl (fun _ _ => .inr) fun name h => ?_
  obtain ⟨v, window, hlatest, hwindow, hname⟩ := h
  refine ⟨v, _, hlatest, (window?_modify w f d v).trans (congrArg _ hwindow), ?_⟩
  split
  · exact (hf window).trans hname
  · exact hname

/-- The window that has come up is that of its satellite. -/
theorem hasWindow_withFresh (r : OpenRequest) (d : Simulation) :
    (d.withFresh r).HasWindow r.name :=
  ⟨_, _, (latest?_withFresh r d r.name).trans (if_pos rfl), (window?_add (freshWindow r) d).1, rfl⟩

/-- A desktop grows when a window is made. -/
theorem grown_makeWindow (r : OpenRequest) (d : Simulation) : Grown d (d.makeWindow r) := by
  rcases makeWindow_eq r d with ⟨w, -, -, -, -, heq⟩ | ⟨-, heq⟩
  · rw [heq]
    exact grown_modify w SimulatedWindow.loadAgain (fun _ => rfl) d
  · rw [heq]
    have hother : ∀ name, name ≠ r.name → (d.withFresh r).latest? name = d.latest? name :=
      fun name hne => (latest?_withFresh r d name).trans (if_neg hne)
    refine .of_windows id rfl (fun name w hlatest => ?_) fun name h => ?_
    · by_cases hself : name = r.name
      · exact .inl (hself ▸ hasWindow_withFresh r d)
      · exact .inr ((hother name hself).symm.trans hlatest)
    · by_cases hself : name = r.name
      · exact hself ▸ hasWindow_withFresh r d
      · obtain ⟨w, v, hw, hv, hvname⟩ := h
        exact ⟨w, v, (hother name hself).trans hw, (window?_add (freshWindow r) d).2 hv, hvname⟩

/-- A satellite whose window is asked for has one. -/
theorem hasWindow_makeWindow (h : d.Hosts) (r : OpenRequest) :
    (d.makeWindow r).HasWindow r.name := by
  rcases makeWindow_eq r d with ⟨w, x, hw, -, -, heq⟩ | ⟨-, heq⟩
  · rw [heq]
    exact (grown_modify w SimulatedWindow.loadAgain (fun _ => rfl) d).windows _ (h.named _ w hw)
  · rw [heq]
    exact hasWindow_withFresh r d

/-- It does when a request is noted. -/
theorem grown_asked (r : OpenRequest) (d : Simulation) : Grown d (d.asked r) :=
  .of_eq rfl rfl id rfl

/-- It does when a window is asked for. -/
theorem grown_openWindow (r : OpenRequest) (d : Simulation) : Grown d (d.openWindow r).2 := by
  unfold openWindow
  split
  · exact .refl d
  · dsimp only
    split
    · exact grown_asked r d
    · exact (grown_asked r d).trans (grown_makeWindow r _)

/-- On a desktop that makes windows one is there when it was asked for. -/
theorem hasWindow_openWindow (h : d.Hosts) (r : OpenRequest) :
    (d.openWindow r).2.HasWindow r.name := by
  rw [openWindow_eq r h.denying h.failingOpens]
  exact hasWindow_makeWindow ((grown_asked r d).hosts h) r

/-- Whatever a desktop is asked, windows come up as before, and those that were made stay. -/
theorem grown_of_reaches (h : Desktop.Reaches a b) : Grown a b := by
  induction h with
  | refl => exact .refl a
  | deliver w m _ ih => exact ih.trans (.of_tended (tended_deliver w m _))
  | focus w _ ih => exact ih.trans (.of_tended (tended_focus w _))
  | close w _ ih => exact ih.trans (.of_tended (tended_close w _))
  | openWindow r _ ih => exact ih.trans (grown_openWindow r _)
  | raise windowName _ ih => exact ih.trans (.of_tended (tended_raise windowName _))
  | elapse _ ih => exact ih

end Simulation

namespace Scene

/-- The main window looks after satellites, and those that have registered have windows. -/
structure Ready (s : Scene Simulation) : Prop where
  /-- Satellites can be opened. -/
  role : s.fleet.role = .main
  /-- Everything that can be called is. -/
  callable : s.Callable
  /-- Windows that are asked for come up. -/
  hosts : s.world.Hosts
  /-- Whoever is registered has a window. -/
  registered : ∀ e ∈ s.fleet.roster.entries, s.world.HasWindow e.name

/-- No request makes a main window of a satellite, or the other way round. -/
theorem role_perform {σ : Type} [Desktop σ] (r : Request) (s : Scene σ) :
    (s.perform r).2.fleet.role = s.fleet.role := congrArg Prod.fst (station_perform r s)

variable {s : Scene Simulation}

/-- The main window goes on, as long as only satellites with windows register. -/
theorem Ready.perform (h : s.Ready) {r : Request}
    (hregisters : ∀ name w, s.meaning r = .registered name w → s.world.HasWindow name) :
    (s.perform r).2.Ready := by
  have hgrown := Simulation.grown_of_reaches (leads_perform r s).world
  refine ⟨(role_perform r s).trans h.role, h.callable.perform r, hgrown.hosts h.hosts,
    fun e he => hgrown.windows _ ?_⟩
  rcases (turn_perform r s).mem_roster he with hbefore | hnew
  · exact h.registered e hbefore
  · exact hregisters e.name e.window hnew

/-- The main window goes on when the desktop changes and windows stay. -/
theorem Ready.shift (h : s.Ready) {world : Simulation} (hgrown : s.world.Grown world) :
    ({ s with world := world } : Scene Simulation).Ready :=
  ⟨h.role, h.callable, hgrown.hosts h.hosts, fun e he => hgrown.windows _ (h.registered e he)⟩

/-- A satellite that was opened has a window. -/
theorem Ready.hasWindow_openSatellite (h : s.Ready) (name : String) (params : Option Payload)
    (preferred : Size) :
    (s.perform (.openSatellite name params preferred)).2.world.HasWindow name := by
  have hanew : ∀ {t : Scene Simulation}, t.world.Hosts →
      (t.openAnew name params (.fit preferred)).2.world.HasWindow name := fun {t} ht =>
    Simulation.hasWindow_openWindow ht (t.requestFor name (.fit preferred))
  cases hfind : s.find? name with
  | none =>
    have hopen : s.openPlaced name params (.fit preferred) =
        (s.openAnew name params (.fit preferred)).map .ok id := by
      unfold openPlaced
      rw [h.role, hfind]
    show (s.openPlaced name params (.fit preferred)).2.world.HasWindow name
    rw [hopen]
    exact hanew h.hosts
  | some w =>
    refine (Simulation.grown_of_reaches (leads_perform _ s).world).windows name ?_
    obtain ⟨e, he, -⟩ := Option.map_eq_some_iff.mp hfind
    have hname := (List.find?_eq_some_iff_append.mp he).1
    have hmatch : e.name = name := by
      simpa using (Bool.and_eq_true_iff.mp hname).1
    exact hmatch ▸ h.registered e (List.mem_of_find?_eq_some he)

end Scene

/-! ## What steps come to -/

/-- What the steps that ask for something ask for. -/
inductive Step.Asks : Step → Request → Prop where
  | openSatellite (name : String) (params : Option Payload) (size : Option Size)
      (preferred : Size) :
      Asks (.openSatellite name params size) (.openSatellite name params preferred)
  | forceReopen (name : String) (params : Option Payload) :
      Asks (.forceReopen name params) (.forceReopen name params)
  | register (name : String) (w : WindowId) :
      Asks (.register name) (.invoke Call.register.operation ⟨name, some w⟩)
  | flush (name : String) : Asks (.flush name) (.invoke Call.flush.operation ⟨name, none⟩)
  | dispatchEvent (eventType : String) (data : Payload) :
      Asks (.dispatchEvent eventType data) (.dispatchEvent ⟨eventType, data⟩)
  | dispatchCommand (id : String) : Asks (.dispatchCommand id) (.dispatchCommand ⟨id⟩)
  | activate (name : String) : Asks (.activate name) (.activate name)
  | close (name : String) : Asks (.close name) (.close name)
  | closeAll : Asks .closeAll .closeAll
  | updateSession (snapshot : Payload) : Asks (.updateSession snapshot) (.updateSession snapshot)
  | mainWindowClosed : Asks .mainWindowClosed .mainWindowClosed

namespace Step.Asks

variable {s : Step} {r : Request} {scene : Scene Simulation}

/-- The main window refuses no step what it asks for. -/
theorem answered (h : s.Asks r) (hready : scene.Ready) : ∃ a, (scene.perform r).1 = .ok a := by
  cases h with
  | openSatellite name params size preferred =>
    obtain ⟨o, ho⟩ := Scene.openPlaced_of_main hready.role name params (.fit preferred)
    refine ⟨.opening o, ?_⟩
    show (scene.openPlaced name params (.fit preferred)).1.map Answer.opening = _
    rw [ho]
    rfl
  | forceReopen name params =>
    have hmain : ¬ scene.Ousts (.forceReopen name params) := fun ⟨_, _, _, hrole, _⟩ => by
      cases hready.role.symm.trans hrole
    obtain ⟨u, hu⟩ := Scene.forceReopen_of_not_ousts hmain
    refine ⟨.done, ?_⟩
    show (scene.forceReopen name params).1.map (fun _ => Answer.done) = _
    rw [hu]
    rfl
  | register name w =>
    refine ⟨.done, ?_⟩
    show (scene.invoke Call.register.operation ⟨name, some w⟩).1.map (fun _ => Answer.done) = _
    unfold Scene.invoke
    rw [hready.callable .register]
    rfl
  | flush name =>
    refine ⟨.done, ?_⟩
    show (scene.invoke Call.flush.operation ⟨name, none⟩).1.map (fun _ => Answer.done) = _
    unfold Scene.invoke
    rw [hready.callable .flush]
    rfl
  | _ => exact ⟨_, rfl⟩

/-- Only a step that registers a satellite does so. -/
theorem registers (h : s.Asks r) (hready : scene.Ready) {name : String} {w : WindowId}
    (hmeaning : scene.meaning r = .registered name w) : s = .register name := by
  have hopening : ∀ r, scene.meaningOfOpening r ≠ .registered name w := fun r heq => by
    unfold Scene.meaningOfOpening at heq
    split at heq <;> cases heq
  cases h with
  | openSatellite => exact absurd hmeaning (hopening _)
  | forceReopen => exact absurd hmeaning (hopening _)
  | register name' v =>
    have hregisters : Request.Registers name' v
        (.invoke Call.register.operation ⟨name', some v⟩) := .byCall
    have hcall := Scene.meaning_of_registers hready.callable hregisters
    cases hcall.symm.trans hmeaning
    rfl
  | flush name' =>
    have hflushes : Request.Flushes name'
        (.invoke Call.flush.operation ⟨name', none⟩) := .byCall none
    have hcall := Scene.meaning_of_flushes hready.callable hflushes
    cases hcall.symm.trans hmeaning
  | _ => cases hmeaning

/-- A step that opens a satellite asks for it to be opened, and has seen to its window then. -/
theorem opens (h : s.Asks r) (hready : scene.Ready) {opened : List String}
    (hopened : ∀ name ∈ opened, scene.world.HasWindow name) :
    ∀ name ∈ s.opening opened, (scene.perform r).2.world.HasWindow name := by
  have hgrown := Simulation.grown_of_reaches (Scene.leads_perform r scene).world
  intro name hname
  cases h with
  | openSatellite name' params size preferred =>
    rcases List.mem_cons.mp hname with rfl | hbefore
    · exact hready.hasWindow_openSatellite name params preferred
    · exact hgrown.windows name (hopened name hbefore)
  | _ => exact hgrown.windows name (hopened name hname)

end Step.Asks

namespace Step

/-- What a step comes to. A step that needs a window fails if that is dead, and it is one that
registers or closes it. -/
inductive Outlook (d : Simulation) : Step → Except StepFault Deed → Prop where
  /-- It asks for something. -/
  | ask {s : Step} {r : Request} (asks : s.Asks r) : Outlook d s (.ok (.ask r))
  /-- It changes the desktop, and no window goes. -/
  | change {s : Step} {f : Simulation → Simulation} (grown : d.Grown (f d))
      (opens : ∀ opened, s.opening opened = opened) : Outlook d s (.ok (.change f))
  /-- It lets time pass. -/
  | pause (ms : Nat) : Outlook d (.wait ms) (.ok (.pause ms))
  /-- It finds a dead window. -/
  | closed {s : Step} {name : String} {w : WindowId} {window : SimulatedWindow}
      (which : s = .register name ∨ s = .kill name) (latest : d.latest? name = some w)
      (found : d.window? w = some window) (dead : window.alive = false) :
      Outlook d s (.error (.alreadyClosed name))

/-- A satellite that has a window has a latest one. -/
theorem windowFor_of_hasWindow {name : String} {d : Simulation} (h : d.HasWindow name) :
    ∃ w window, d.latest? name = some w ∧ d.window? w = some window ∧
      d.windowFor name = .ok w ∧ d.isAlive w = window.alive := by
  obtain ⟨w, window, hlatest, hwindow, -⟩ := h
  refine ⟨w, window, hlatest, hwindow, ?_, ?_⟩
  · unfold Simulation.windowFor
    rw [hlatest]
  · unfold Simulation.isAlive
    rw [hwindow]

/-- The live window that a step needs is there, or it is dead. -/
theorem liveWindowFor_of_hasWindow {name : String} {d : Simulation} (h : d.HasWindow name) :
    ∃ w window, d.latest? name = some w ∧ d.window? w = some window ∧
      (d.liveWindowFor name = .ok w ∨
        window.alive = false ∧ d.liveWindowFor name = .error (.alreadyClosed name)) := by
  obtain ⟨w, window, hlatest, hwindow, hfor, halive⟩ := windowFor_of_hasWindow h
  refine ⟨w, window, hlatest, hwindow, ?_⟩
  unfold Simulation.liveWindowFor
  rw [hfor]
  cases hcase : window.alive with
  | true => exact .inl (if_pos (halive.trans hcase))
  | false => exact .inr ⟨rfl, if_neg (by rw [halive, hcase]; exact Bool.false_ne_true)⟩

/-- A step that does something to the window that its satellite made last. -/
theorem Outlook.of_window {s : Step} {d : Simulation} {name : String} {toWindow : WindowId → Deed}
    (has : d.HasWindow name) (done : ∀ w, Outlook d s (.ok (toWindow w))) :
    Outlook d s (do let w ← d.windowFor name; return toWindow w) := by
  obtain ⟨w, window, -, -, hfor, -⟩ := windowFor_of_hasWindow has
  rw [hfor]
  exact done w

/-- A step that does something to it only if it is alive. -/
theorem Outlook.of_liveWindow {s : Step} {d : Simulation} {name : String}
    {toWindow : WindowId → Deed} (which : s = .register name ∨ s = .kill name)
    (has : d.HasWindow name) (done : ∀ w, Outlook d s (.ok (toWindow w))) :
    Outlook d s (do let w ← d.liveWindowFor name; return toWindow w) := by
  obtain ⟨w, window, hlatest, hfound, hlive | ⟨hdead, hfault⟩⟩ := liveWindowFor_of_hasWindow has
  · rw [hlive]
    exact done w
  · rw [hfault]
    exact .closed which hlatest hfound hdead

/-- A step whose satellite has a window if it needs one, and that does not start to deny openings,
has a good outlook. -/
theorem outlook {s : Step} {d : Simulation} (size : Size)
    (hwindow : s.needsWindow = true → ∃ name, s.target? = some name ∧ d.HasWindow name)
    (hdeny : s ≠ .denyOpens true) : Outlook d s (s.deed size d) := by
  have has : ∀ {name : String}, s.needsWindow = true → s.target? = some name →
      d.HasWindow name := fun hneeds htarget => by
    obtain ⟨other, hother, hhas⟩ := hwindow hneeds
    cases hother.symm.trans htarget
    exact hhas
  cases s with
  | openSatellite name params given => exact .ask (.openSatellite name params given _)
  | forceReopen name params => exact .ask (.forceReopen name params)
  | register name => exact .of_liveWindow (.inl rfl) (has rfl rfl) fun w => .ask (.register name w)
  | flush name => exact .ask (.flush name)
  | dispatchEvent eventType data => exact .ask (.dispatchEvent eventType data)
  | dispatchCommand id => exact .ask (.dispatchCommand id)
  | kill name =>
    exact .of_liveWindow (.inr rfl) (has rfl rfl) fun w =>
      .change (Simulation.grown_modify w SimulatedWindow.kill (fun _ => rfl) d) fun _ => rfl
  -- for the next two it does not matter whether the window is alive
  | failDeliveries name failing =>
    exact .of_window (has rfl rfl) fun w =>
      .change (Simulation.grown_modify w (fun window => { window with failing := failing })
        (fun _ => rfl) d) fun _ => rfl
  | move name size' position =>
    exact .of_window (has rfl rfl) fun w =>
      .change (Simulation.grown_modify w
        (fun window => { window with geometry := ⟨size', position⟩ }) (fun _ => rfl) d) fun _ => rfl
  | activate name => exact .ask (.activate name)
  | close name => exact .ask (.close name)
  | closeAll => exact .ask .closeAll
  | updateSession snapshot => exact .ask (.updateSession snapshot)
  | denyOpens deny =>
    cases deny with
    | true => exact absurd rfl hdeny
    | false => exact .change (.of_eq rfl rfl (fun _ => rfl) rfl) fun _ => rfl
  | mainWindowClosed => exact .ask .mainWindowClosed
  | wait ms => exact .pause ms

end Step

end SatelliteWindows
