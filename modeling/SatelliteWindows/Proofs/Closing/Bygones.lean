import SatelliteWindows.Proofs.Handshake

/-!
# What was done before

Nothing that is done depends on what was done before it: every operation adds to the journal and
never looks at it. So a scene with a journal goes on exactly as the same scene without one, and
what it does then comes behind what was done before.
-/

namespace SatelliteWindows.Scene

variable {σ : Type}

/-- A scene before which more was done. -/
def behind (j : Journal) (s : Scene σ) : Scene σ := { s with journal := j ++ s.journal }

variable (j : Journal)

/-! ## Elementary steps -/

/-- What a fleet remembers does not depend on what is written down. -/
theorem alter_behind (f : Fleet → Fleet) (s : Scene σ) :
    (s.behind j).alter f = (s.alter f).behind j := rfl

/-- An effect is written down behind what was done before. -/
theorem record_behind (e : Effect) (world : σ) (s : Scene σ) :
    ({ s.behind j with world := world }.record e) =
      ({ s with world := world }.record e).behind j := by
  unfold record behind
  rw [List.append_assoc]

/-- So is a report. -/
theorem report_behind (a : Activity) (s : Scene σ) :
    (s.behind j).report a = (s.report a).behind j :=
  record_behind j (.report a) s.world s

/-- Steps that do not look back may be repeated. -/
theorem foldl_behind {α : Type} {step : Scene σ → α → Scene σ}
    (hstep : ∀ t x, step (t.behind j) x = (step t x).behind j) (l : List α) (s : Scene σ) :
    l.foldl step (s.behind j) = (l.foldl step s).behind j := by
  induction l generalizing s with
  | nil => rfl
  | cons x rest ih => rw [List.foldl_cons, List.foldl_cons, hstep, ih]

/-- Entries are reported as dropped without a look at what was done before. -/
theorem reportEvicted_behind (dead : List Entry) (s : Scene σ) :
    (s.behind j).reportEvicted dead = (s.reportEvicted dead).behind j :=
  foldl_behind j (fun t e => report_behind j (.evicted e.name)
    (t.count fun u => { u with deadEvicted := u.deadEvicted + 1 })) dead s

/-- They are dropped without one. -/
theorem evict_behind (dead : List Entry) (s : Scene σ) :
    (s.behind j).evict dead = (s.evict dead).behind j :=
  reportEvicted_behind j dead
    (s.alter fun f => { f with roster := f.roster.removeEntries dead })

variable [Desktop σ]

/-- A message is handed over without one. -/
theorem deliver_behind (name : String) (w : WindowId) (m : Message) (s : Scene σ) :
    (s.behind j).deliver name w m = (s.deliver name w m).behind j := by
  have hworld : (s.behind j).world = s.world := rfl
  unfold deliver
  rw [hworld]
  cases Desktop.deliver w m s.world with
  | mk fault world =>
    dsimp only
    rw [record_behind]
    cases fault with
    | none => rfl
    | some f =>
      dsimp only [count]
      rw [alter_behind, report_behind]

/-- So are several. -/
theorem deliverAll_behind (name : String) (w : WindowId) (ms : List Message) (s : Scene σ) :
    (s.behind j).deliverAll name w ms = (s.deliverAll name w ms).behind j :=
  foldl_behind j (fun t m => deliver_behind j name w m t) ms s

/-- A window is brought to the front without one. -/
theorem focus_behind (w : WindowId) (s : Scene σ) :
    (s.behind j).focus w = (s.focus w).behind j :=
  record_behind j _ _ s

/-- So it is by the shell. -/
theorem raise_behind (windowName : String) (s : Scene σ) :
    (s.behind j).raise windowName = (s.raise windowName).behind j :=
  record_behind j _ _ s

/-- A window is asked for without one. -/
theorem requestWindow_behind (r : OpenRequest) (s : Scene σ) :
    (s.behind j).requestWindow r = (s.requestWindow r).behind j :=
  record_behind j _ _ s

/-- A window is closed without one. -/
theorem closeWindow_behind (w : WindowId) (s : Scene σ) :
    (s.behind j).closeWindow w = (s.closeWindow w).map id (behind j) :=
  Prod.ext rfl (record_behind j _ _ s)

/-- So are several. -/
theorem closeWindows_behind (ws : List WindowId) (s : Scene σ) :
    (s.behind j).closeWindows ws = (s.closeWindows ws).behind j :=
  foldl_behind j (fun t w => congrArg Prod.snd (closeWindow_behind j w t)) ws s

/-! ## Opening and closing -/

/-- A satellite is opened anew without a look at what was done before. -/
theorem openAnew_behind (name : String) (params : Option Payload) (placement : Placement)
    (s : Scene σ) : (s.behind j).openAnew name params placement =
      (s.openAnew name params placement).map id (behind j) := by
  refine Prod.ext rfl ?_
  show (Scene.requestWindow _ ((s.alter (Fleet.expect name params)).behind j)).report _ = _
  rw [requestWindow_behind, report_behind]
  rfl

/-- A satellite is brought to the front without one. -/
theorem reactivate_behind (name : String) (w : WindowId) (params : Option Payload)
    (s : Scene σ) : (s.behind j).reactivate name w params =
      (s.reactivate name w params).behind j := by
  have hcount : (s.behind j).count (fun t => { t with reactivations := t.reactivations + 1 }) =
      (s.count fun t => { t with reactivations := t.reactivations + 1 }).behind j := rfl
  unfold reactivate
  rw [hcount, deliver_behind, report_behind]

/-- Whether it is opened anew or brought to the front does not depend on what was done before. -/
theorem openPlaced_behind (name : String) (params : Option Payload) (placement : Placement)
    (s : Scene σ) : (s.behind j).openPlaced name params placement =
      (s.openPlaced name params placement).map id (behind j) := by
  have hrole : (s.behind j).fleet.role = s.fleet.role := rfl
  have hplatform : (s.behind j).fleet.platform = s.fleet.platform := rfl
  have hfind : (s.behind j).find? name = s.find? name := rfl
  unfold openPlaced
  rw [hrole, hplatform, hfind]
  cases s.fleet.role with
  | satellite => rfl
  | main =>
    dsimp only
    cases s.find? name with
    | none =>
      dsimp only
      rw [openAnew_behind]
      rfl
    | some w =>
      dsimp only
      cases s.fleet.platform.reactivation with
      | hostActivate =>
        dsimp only
        rw [raise_behind, reactivate_behind]
        rfl
      | refocus =>
        dsimp only
        rw [focus_behind, reactivate_behind]
        rfl
      | reopen =>
        dsimp only
        rw [deliver_behind, openAnew_behind]
        rfl

/-- Nor does it when a satellite is forced open again. -/
theorem forceReopen_behind (name : String) (params : Option Payload) (s : Scene σ) :
    (s.behind j).forceReopen name params =
      (s.forceReopen name params).map id (behind j) := by
  have hworld : (s.behind j).world = s.world := rfl
  have hfind : (s.behind j).find? name = s.find? name := rfl
  unfold forceReopen
  rw [hworld, hfind]
  cases s.find? name with
  | none => rfl
  | some w =>
    dsimp only
    cases Desktop.geometry s.world w with
    | error f => rfl
    | ok g =>
      dsimp only
      rw [deliver_behind, closeWindow_behind]
      dsimp only [Prod.map]
      rw [openPlaced_behind]
      rfl

/-- A satellite is activated without a look at what was done before. -/
theorem activate_behind (name : String) (s : Scene σ) :
    (s.behind j).activate name = (s.activate name).behind j := by
  have hplatform : (s.behind j).fleet.platform = s.fleet.platform := rfl
  have hfind : (s.behind j).find? name = s.find? name := rfl
  unfold activate
  rw [hplatform, hfind]
  split
  · exact raise_behind j _ s
  · split
    · exact focus_behind j _ s
    · rfl

/-- It is closed without one. -/
theorem closeSatellite_behind (name : String) (s : Scene σ) :
    (s.behind j).closeSatellite name = (s.closeSatellite name).behind j := by
  have hgiveUp : (s.behind j).alter (fun f => { f with
      awaited := f.awaited.erase name
      backlog := f.backlog.release name }) = (s.alter fun f => { f with
        awaited := f.awaited.erase name
        backlog := f.backlog.release name }).behind j := rfl
  unfold closeSatellite
  dsimp only
  rw [hgiveUp]
  generalize s.alter _ = t
  have hfind : (t.behind j).find? name = t.find? name := rfl
  rw [hfind]
  cases t.find? name with
  | none => rfl
  | some w =>
    dsimp only
    rw [closeWindow_behind]
    cases t.closeWindow w with
    | mk fault u =>
      cases fault with
      | none => exact report_behind j _ u
      | some f => rfl

/-- All satellites are closed without one. -/
theorem closeAll_behind (s : Scene σ) : (s.behind j).closeAll = s.closeAll.behind j := by
  have hroster : (s.behind j).alter (fun f => { f with roster := Roster.empty }) =
      (s.alter fun f => { f with roster := Roster.empty }).behind j := rfl
  have hentries : (s.behind j).fleet.roster.entries = s.fleet.roster.entries := rfl
  unfold closeAll
  dsimp only [Roster.removeAll]
  rw [hroster, hentries, closeWindows_behind, alter_behind, report_behind]

omit [Desktop σ] in
/-- Whether an opening expires does not depend on what was done before. -/
theorem expire_behind (name : String) (generation : Nat) (s : Scene σ) :
    (s.behind j).expire name generation = (s.expire name generation).map id (behind j) := by
  have hawaited : (s.behind j).fleet.awaited = s.fleet.awaited := rfl
  have hholding : (s.behind j).fleet.isHolding name = s.fleet.isHolding name := rfl
  unfold expire
  rw [hawaited, hholding]
  dsimp only
  split
  · split
    · dsimp only [count]
      rw [alter_behind, alter_behind, alter_behind, report_behind]
      rfl
    · rfl
  · rfl

/-! ## Calls and broadcasts -/

/-- A satellite is registered without a look at what was done before. -/
theorem register_behind (name : String) (w : WindowId) (s : Scene σ) :
    (s.behind j).register name w = (s.register name w).behind j := by
  have henter : (s.behind j).alter (fun f => { f with
      roster := f.roster.upsert ⟨name, w⟩
      awaited := f.awaited.erase name }) = (s.alter fun f => { f with
        roster := f.roster.upsert ⟨name, w⟩
        awaited := f.awaited.erase name }).behind j := rfl
  unfold register
  dsimp only
  rw [henter]
  generalize s.alter _ = t
  have hsession : (t.behind j).fleet.session = t.fleet.session := rfl
  rw [hsession, deliver_behind]
  generalize t.deliver name w (.setSession t.fleet.session) = u
  have hstartup : (u.behind j).fleet.startup = u.fleet.startup := rfl
  rw [hstartup]
  cases u.fleet.startup.get? name with
  | none => exact report_behind j _ u
  | some params =>
    dsimp only
    rw [deliver_behind]
    exact report_behind j _ _

/-- What is passed on does not depend on what was done before. -/
theorem flush_behind (name : String) (s : Scene σ) :
    (s.behind j).flush name = (s.flush name).behind j := by
  have hheld : (s.behind j).fleet.backlog.held name = s.fleet.backlog.held name := rfl
  have hlive : (s.behind j).fleet.roster.live (s.behind j).isAlive name =
      s.fleet.roster.live s.isAlive name := rfl
  have hlet : (s.behind j).letGo name = (s.letGo name).behind j := rfl
  rw [flush_eq, flush_eq, hheld, hlive, hlet]
  split
  · rfl
  · rw [foldl_behind j (fun t w => deliverAll_behind j name w _ t)]
    exact report_behind j _ _

/-- A call is served without a look at what was done before. -/
theorem serveCall_behind (c : Call) (caller : Caller) (s : Scene σ) :
    (s.behind j).serveCall c caller = (s.serveCall c caller).map id (behind j) := by
  unfold serveCall
  cases c with
  | register =>
    dsimp only
    cases caller.requireWindow .register with
    | ok w => exact Prod.ext rfl (register_behind j caller.name w s)
    | error f => rfl
  | flush => exact Prod.ext rfl (flush_behind j caller.name s)
  | registerChild =>
    dsimp only
    cases caller.requireWindow .registerChild with
    | ok w => exact Prod.ext rfl (report_behind j _ s)
    | error f => rfl
  | unregisterChild => exact Prod.ext rfl (report_behind j _ s)

/-- Whether there is such a call does not depend on it. -/
theorem invoke_behind (operation : String) (caller : Caller) (s : Scene σ) :
    (s.behind j).invoke operation caller = (s.invoke operation caller).map id (behind j) := by
  have hcalls : (s.behind j).fleet.calls = s.fleet.calls := rfl
  unfold invoke
  rw [hcalls]
  cases s.fleet.calls.get? operation with
  | none => rfl
  | some c => exact serveCall_behind j c caller s

/-- Dead entries are found without a look at what was done before. -/
theorem sweep_behind (s : Scene σ) : (s.behind j).sweep = s.sweep.behind j :=
  reportEvicted_behind j (s.fleet.roster.removeDead s.isAlive).1
    (s.alter fun f => { f with roster := (s.fleet.roster.removeDead s.isAlive).2 })

/-- A message is offered in turn without one. -/
theorem offer_behind (m : Message) (l : List Entry) (s : Scene σ) :
    offer m l (s.behind j) = (offer m l s).map id (behind j) := by
  induction l generalizing s with
  | nil => rfl
  | cons e rest ih =>
    have helapse : (s.behind j).elapse = s.elapse.behind j := rfl
    have hholding : (s.elapse.behind j).fleet.isHolding e.name =
        s.elapse.fleet.isHolding e.name := rfl
    have halive : (s.elapse.behind j).isAlive e.window = s.elapse.isAlive e.window := rfl
    unfold offer
    dsimp only
    rw [helapse, hholding, halive, deliver_behind]
    split
    · exact ih s.elapse
    · split
      · exact ih (s.elapse.deliver e.name e.window m)
      · rw [ih s.elapse]
        rfl

/-- A message is broadcast without one. -/
theorem broadcast_behind (m : Message) (s : Scene σ) :
    (s.behind j).broadcast m = (s.broadcast m).behind j := by
  have hentries : (s.sweep.behind j).fleet.roster.entries = s.sweep.fleet.roster.entries := rfl
  unfold broadcast
  dsimp only
  rw [sweep_behind, hentries, offer_behind]
  exact evict_behind j _ _

/-- An event is dispatched without one. -/
theorem dispatchEvent_behind (e : Event) (s : Scene σ) :
    (s.behind j).dispatchEvent e = (s.dispatchEvent e).behind j := by
  unfold dispatchEvent
  dsimp only
  rw [broadcast_behind]
  rfl

/-- So is a command. -/
theorem dispatchCommand_behind (c : Command) (s : Scene σ) :
    (s.behind j).dispatchCommand c = (s.dispatchCommand c).behind j := by
  unfold dispatchCommand
  dsimp only
  rw [broadcast_behind]
  rfl

/-! ## Requests and runs -/

/-- A request is answered in the same way whatever was done before, and it does the same. -/
theorem perform_behind (r : Request) (s : Scene σ) :
    (s.behind j).perform r = (s.perform r).map id (behind j) := by
  cases r with
  | openSatellite name params preferred =>
    dsimp only [perform, openSatellite]
    rw [openPlaced_behind]
    rfl
  | forceReopen name params =>
    dsimp only [perform]
    rw [forceReopen_behind]
    rfl
  | activate name => exact Prod.ext rfl (activate_behind j name s)
  | close name => exact Prod.ext rfl (closeSatellite_behind j name s)
  | closeAll => exact Prod.ext rfl (closeAll_behind j s)
  | mainWindowClosed => exact Prod.ext rfl (closeAll_behind j s)
  | register name w => exact Prod.ext rfl (register_behind j name w s)
  | flush name => exact Prod.ext rfl (flush_behind j name s)
  | registerChild name w => exact Prod.ext rfl (report_behind j _ s)
  | unregisterChild windowName => exact Prod.ext rfl (report_behind j _ s)
  | installCalls => rfl
  | invoke operation caller =>
    dsimp only [perform]
    rw [invoke_behind]
    rfl
  | dispatchEvent e => exact Prod.ext rfl (dispatchEvent_behind j e s)
  | dispatchCommand c => exact Prod.ext rfl (dispatchCommand_behind j c s)
  | updateSession snapshot => rfl
  | expire name generation =>
    dsimp only [perform]
    rw [expire_behind]
    rfl
  | isOpen name => rfl
  | metrics => rfl

/-- A run goes on in the same way whatever was done before. -/
theorem run_behind (moves : List (Move σ)) (s : Scene σ) :
    (s.behind j).run moves = (s.run moves).behind j := by
  induction moves generalizing s with
  | nil => rfl
  | cons m rest ih =>
    have hmove : (s.behind j).move m = (s.move m).behind j := by
      cases m with
      | request r => exact congrArg Prod.snd (perform_behind j r s)
      | shift change => rfl
    show ((s.behind j).move m).run rest = _
    rw [hmove]
    exact ih (s.move m)

end SatelliteWindows.Scene
