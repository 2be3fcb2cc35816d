import SatelliteWindows.Proofs.History

/-!
# Numbers that are forgotten

The number of an opening is looked at for one purpose only: to see whether the opening may still be
given up, which needs events to be held back for its satellite. So a number whose satellite nothing
is held back for may as well be forgotten. Whatever is asked afterwards is answered in the same way,
does the same to the outside, and leaves the same behind but for such numbers.
-/

namespace SatelliteWindows

/-- Whether numbers of openings are those that are remembered, as far as events are held back. -/
def Fleet.Knows (f : Fleet) (awaited : NameMap Nat) : Prop :=
  ∀ name, f.isHolding name = true → awaited.get? name = f.awaited.get? name

namespace Fleet.Knows

variable {f g : Fleet} {awaited : NameMap Nat}

/-- The numbers that are remembered are known. -/
theorem refl (f : Fleet) : f.Knows f.awaited := fun _ _ => rfl

/-- Where no more is held back than before, the numbers that are known still are. -/
theorem mono (h : f.Knows awaited) (hawaited : g.awaited = f.awaited)
    (hholding : ∀ name, g.isHolding name = true → f.isHolding name = true) : g.Knows awaited := by
  intro name hname
  rw [hawaited]
  exact h name (hholding name hname)

/-- A number that is forgotten on both sides is of no account. -/
theorem erase (h : f.Knows awaited) {name : String} (hawaited : g.awaited = f.awaited.erase name)
    (hholding : ∀ other, g.isHolding other = true → f.isHolding other = true) :
    g.Knows (awaited.erase name) := by
  intro other hother
  rw [hawaited, NameMap.get?_erase, NameMap.get?_erase, h other (hholding other hother)]

/-- The number of a fresh opening is known on both sides. -/
theorem expect (h : f.Knows awaited) (name : String) (params : Option Payload) :
    (f.expect name params).Knows (awaited.put name (f.generation + 1)) := by
  intro other hother
  show (awaited.put name _).get? other = (f.awaited.put name _).get? other
  rw [NameMap.get?_put, NameMap.get?_put]
  split
  · rfl
  · next hne =>
    refine h other ?_
    have hqueue : (f.backlog.hold name).isHolding other = true := hother
    unfold Backlog.isHolding at hqueue
    rwa [Backlog.queue?_hold, if_neg hne] at hqueue

end Fleet.Knows

namespace Backlog

/-- Of those for whom nothing is released events are held back as before. -/
theorem isHolding_of_release {b : Backlog} {name other : String}
    (h : (b.release name).isHolding other = true) : other ≠ name ∧ b.isHolding other = true := by
  unfold isHolding at h ⊢
  rw [queue?_release] at h
  split at h
  · cases h
  · next hne => exact ⟨hne, h⟩

/-- Holding one more event back holds back events for nobody else. -/
theorem isHolding_enqueueAll (b : Backlog) (e : Event) (name : String) :
    (b.enqueueAll e).isHolding name = b.isHolding name := by
  unfold isHolding
  rw [queue?_enqueueAll, Option.isSome_map]

end Backlog

namespace Scene

variable {σ : Type}

/-- A scene in which other openings are awaited. -/
def awaiting (awaited : NameMap Nat) (s : Scene σ) : Scene σ :=
  s.alter fun f => { f with awaited := awaited }

variable (a : NameMap Nat)

/-! ## What numbers do not matter for -/

/-- Steps that do not look at the numbers may be repeated. -/
theorem foldl_awaiting {α : Type} {step : Scene σ → α → Scene σ}
    (hstep : ∀ t x, step (t.awaiting a) x = (step t x).awaiting a) (l : List α) (s : Scene σ) :
    l.foldl step (s.awaiting a) = (l.foldl step s).awaiting a := by
  induction l generalizing s with
  | nil => rfl
  | cons x rest ih =>
    rw [List.foldl_cons, hstep, ih]
    rfl

/-- Entries are reported as dropped without a look at the numbers. -/
theorem reportEvicted_awaiting (dead : List Entry) (s : Scene σ) :
    (s.awaiting a).reportEvicted dead = (s.reportEvicted dead).awaiting a :=
  foldl_awaiting a (fun _ _ => rfl) dead s

/-- They are dropped without one. -/
theorem evict_awaiting (dead : List Entry) (s : Scene σ) :
    (s.awaiting a).evict dead = (s.evict dead).awaiting a :=
  reportEvicted_awaiting a dead
    (s.alter fun f => { f with roster := f.roster.removeEntries dead })

variable [Desktop σ]

/-- A message is handed over without one. -/
theorem deliver_awaiting (name : String) (w : WindowId) (m : Message) (s : Scene σ) :
    (s.awaiting a).deliver name w m = (s.deliver name w m).awaiting a := by
  have hworld : (s.awaiting a).world = s.world := rfl
  unfold deliver
  rw [hworld]
  cases Desktop.deliver w m s.world with
  | mk fault world => cases fault <;> rfl

/-- So are several. -/
theorem deliverAll_awaiting (name : String) (w : WindowId) (ms : List Message) (s : Scene σ) :
    (s.awaiting a).deliverAll name w ms = (s.deliverAll name w ms).awaiting a :=
  foldl_awaiting a (fun t m => deliver_awaiting a name w m t) ms s

/-- Windows are closed without one. -/
theorem closeWindows_awaiting (ws : List WindowId) (s : Scene σ) :
    (s.awaiting a).closeWindows ws = (s.closeWindows ws).awaiting a :=
  foldl_awaiting a (fun _ _ => rfl) ws s

/-- Dead entries are found without one. -/
theorem sweep_awaiting (s : Scene σ) : (s.awaiting a).sweep = s.sweep.awaiting a :=
  reportEvicted_awaiting a (s.fleet.roster.removeDead s.isAlive).1
    (s.alter fun f => { f with roster := (s.fleet.roster.removeDead s.isAlive).2 })

/-- A message is offered in turn without one. -/
theorem offer_awaiting (m : Message) (l : List Entry) (s : Scene σ) :
    offer m l (s.awaiting a) = (offer m l s).map id (awaiting a) := by
  induction l generalizing s with
  | nil => rfl
  | cons e rest ih =>
    have helapse : (s.awaiting a).elapse = s.elapse.awaiting a := rfl
    have hholding : (s.elapse.awaiting a).fleet.isHolding e.name =
        s.elapse.fleet.isHolding e.name := rfl
    have halive : (s.elapse.awaiting a).isAlive e.window = s.elapse.isAlive e.window := rfl
    unfold offer
    dsimp only
    rw [helapse, hholding, halive, deliver_awaiting]
    split
    · exact ih s.elapse
    · split
      · exact ih (s.elapse.deliver e.name e.window m)
      · rw [ih s.elapse]
        rfl

/-- A message is broadcast without one. -/
theorem broadcast_awaiting (m : Message) (s : Scene σ) :
    (s.awaiting a).broadcast m = (s.broadcast m).awaiting a := by
  have hentries : (s.sweep.awaiting a).fleet.roster.entries = s.sweep.fleet.roster.entries := rfl
  unfold broadcast
  dsimp only
  rw [sweep_awaiting, hentries, offer_awaiting]
  exact evict_awaiting a _ _

/-- An event is dispatched without one. -/
theorem dispatchEvent_awaiting (e : Event) (s : Scene σ) :
    (s.awaiting a).dispatchEvent e = (s.dispatchEvent e).awaiting a := by
  unfold dispatchEvent
  dsimp only
  rw [broadcast_awaiting]
  rfl

/-- So is a command. -/
theorem dispatchCommand_awaiting (c : Command) (s : Scene σ) :
    (s.awaiting a).dispatchCommand c = (s.dispatchCommand c).awaiting a := by
  unfold dispatchCommand
  dsimp only
  rw [broadcast_awaiting]
  rfl

/-- A satellite is brought to the front without one. -/
theorem reactivate_awaiting (name : String) (w : WindowId) (params : Option Payload)
    (s : Scene σ) : (s.awaiting a).reactivate name w params =
      (s.reactivate name w params).awaiting a := by
  have hcount : (s.awaiting a).count (fun t => { t with reactivations := t.reactivations + 1 }) =
      (s.count fun t => { t with reactivations := t.reactivations + 1 }).awaiting a := rfl
  unfold reactivate
  rw [hcount, deliver_awaiting]
  rfl

/-- What was held back is passed on without one. -/
theorem flush_awaiting (name : String) (s : Scene σ) :
    (s.awaiting a).flush name = (s.flush name).awaiting a := by
  have hheld : (s.awaiting a).fleet.backlog.held name = s.fleet.backlog.held name := rfl
  have hlive : (s.awaiting a).fleet.roster.live (s.awaiting a).isAlive name =
      s.fleet.roster.live s.isAlive name := rfl
  have hlet : (s.awaiting a).letGo name = (s.letGo name).awaiting a := rfl
  rw [flush_eq, flush_eq, hheld, hlive, hlet]
  split
  · rfl
  · rw [foldl_awaiting a (fun t w => deliverAll_awaiting a name w _ t)]
    rfl

/-- A satellite is activated without one. -/
theorem activate_awaiting (name : String) (s : Scene σ) :
    (s.awaiting a).activate name = (s.activate name).awaiting a := by
  have hplatform : (s.awaiting a).fleet.platform = s.fleet.platform := rfl
  have hfind : (s.awaiting a).find? name = s.find? name := rfl
  unfold activate
  rw [hplatform, hfind]
  split
  · rfl
  · split <;> rfl

/-! ## What becomes of numbers -/

/-- The same is answered and done, and the same is left behind, but for numbers of openings that
agree with those remembered as far as events are held back. -/
def Unnoticed {α : Type} (after after' : α × Scene σ) : Prop :=
  ∃ b, after' = after.map id (awaiting b) ∧ after.2.fleet.Knows b

variable {a} {s t : Scene σ}

omit [Desktop σ] in
/-- Where the handshake is the same, the same numbers are known. -/
theorem knows_of_handshake (h : t.handshake = s.handshake) (hknows : s.fleet.Knows a) :
    t.fleet.Knows a := by
  have hbacklog : t.fleet.backlog = s.fleet.backlog := congrArg Handshake.backlog h
  refine hknows.mono (congrArg Handshake.awaited h) fun name hname => ?_
  unfold Fleet.isHolding at hname ⊢
  rwa [hbacklog] at hname

omit [Desktop σ] in
/-- What goes unnoticed goes unnoticed whatever is made of the answer. -/
theorem Unnoticed.map {α β : Type} {after after' : α × Scene σ} (h : Unnoticed after after')
    (f : α → β) : Unnoticed (after.map f id) (after'.map f id) := by
  obtain ⟨b, rfl, hb⟩ := h
  exact ⟨b, rfl, hb⟩

omit [Desktop σ] in
/-- What leaves the handshake where it is goes unnoticed. -/
theorem Unnoticed.of_handshake {α : Type} {x : α} (hknows : s.fleet.Knows a)
    (h : t.handshake = s.handshake) : Unnoticed (x, t) (x, t.awaiting a) :=
  ⟨a, rfl, knows_of_handshake h hknows⟩

/-- A satellite is opened anew, and its number is remembered on both sides. -/
theorem openAnew_unnoticed (hknows : s.fleet.Knows a) (name : String) (params : Option Payload)
    (placement : Placement) : Unnoticed (s.openAnew name params placement)
      ((s.awaiting a).openAnew name params placement) :=
  ⟨a.put name (s.fleet.generation + 1), rfl, hknows.expect name params⟩

/-- A satellite is opened, and other numbers go unnoticed. -/
theorem openPlaced_unnoticed (hknows : s.fleet.Knows a) (name : String)
    (params : Option Payload) (placement : Placement) :
    Unnoticed (s.openPlaced name params placement)
      ((s.awaiting a).openPlaced name params placement) := by
  have hrole : (s.awaiting a).fleet.role = s.fleet.role := rfl
  have hplatform : (s.awaiting a).fleet.platform = s.fleet.platform := rfl
  have hfind : (s.awaiting a).find? name = s.find? name := rfl
  unfold openPlaced
  rw [hrole, hplatform, hfind]
  cases s.fleet.role with
  | satellite => exact .of_handshake hknows rfl
  | main =>
    dsimp only
    cases s.find? name with
    | none => exact (openAnew_unnoticed hknows name params placement).map Except.ok
    | some w =>
      dsimp only
      cases s.fleet.platform.reactivation with
      | hostActivate =>
        have hraise : (s.awaiting a).raise (WindowName.ofSatellite name) =
            (s.raise (WindowName.ofSatellite name)).awaiting a := rfl
        dsimp only
        rw [hraise, reactivate_awaiting]
        exact .of_handshake hknows (calm_reactivate name w params _).handshake
      | refocus =>
        have hfocus : (s.awaiting a).focus w = (s.focus w).awaiting a := rfl
        dsimp only
        rw [hfocus, reactivate_awaiting]
        exact .of_handshake hknows (calm_reactivate name w params _).handshake
      | reopen =>
        have htold := knows_of_handshake (handshake_deliver name w .pendingReactivate s) hknows
        dsimp only
        rw [deliver_awaiting]
        exact (openAnew_unnoticed htold name params placement).map Except.ok

/-- So they do when it is forced open again. -/
theorem forceReopen_unnoticed (hknows : s.fleet.Knows a) (name : String)
    (params : Option Payload) :
    Unnoticed (s.forceReopen name params) ((s.awaiting a).forceReopen name params) := by
  have hworld : (s.awaiting a).world = s.world := rfl
  have hfind : (s.awaiting a).find? name = s.find? name := rfl
  unfold forceReopen
  rw [hworld, hfind]
  cases s.find? name with
  | none => exact .of_handshake hknows rfl
  | some w =>
    dsimp only
    cases Desktop.geometry s.world w with
    | error f => exact .of_handshake hknows rfl
    | ok g =>
      have hclose : ((s.deliver name w .pendingReactivate).awaiting a).closeWindow w =
          ((s.deliver name w .pendingReactivate).closeWindow w).map id (awaiting a) := rfl
      have hvacated : ((s.deliver name w .pendingReactivate).closeWindow w).2.fleet.Knows a :=
        knows_of_handshake (by rw [handshake_closeWindow, handshake_deliver]) hknows
      dsimp only
      rw [deliver_awaiting, hclose]
      exact (openPlaced_unnoticed hvacated name params (.restore g)).map _

/-- So they do when it is closed, which forgets its number on both sides. -/
theorem closeSatellite_unnoticed {α : Type} {x : α} (hknows : s.fleet.Knows a) (name : String) :
    Unnoticed (x, s.closeSatellite name) (x, (s.awaiting a).closeSatellite name) := by
  refine ⟨a.erase name, congrArg (Prod.mk x) ?_, ?_⟩
  · unfold closeSatellite
    have hgiveUp : (s.awaiting a).alter (fun f => { f with
        awaited := f.awaited.erase name
        backlog := f.backlog.release name }) = (s.alter fun f => { f with
          awaited := f.awaited.erase name
          backlog := f.backlog.release name }).awaiting (a.erase name) := rfl
    dsimp only
    rw [hgiveUp]
    generalize s.alter _ = t
    have hfind : (t.awaiting (a.erase name)).find? name = t.find? name := rfl
    rw [hfind]
    cases t.find? name with
    | none => rfl
    | some w =>
      have hclose : (t.awaiting (a.erase name)).closeWindow w =
          (t.closeWindow w).map id (awaiting (a.erase name)) := rfl
      dsimp only
      rw [hclose]
      cases t.closeWindow w with
      | mk fault u => cases fault <;> rfl
  · have hafter := handshake_closeSatellite name s
    refine hknows.erase (congrArg Handshake.awaited hafter) fun other hother => ?_
    have hbacklog : (s.closeSatellite name).fleet.backlog = s.fleet.backlog.release name :=
      congrArg Handshake.backlog hafter
    unfold Fleet.isHolding at hother
    rw [hbacklog] at hother
    exact (Backlog.isHolding_of_release hother).2

/-- When all satellites are closed all numbers are forgotten. -/
theorem closeAll_unnoticed {α : Type} {x : α} :
    Unnoticed (x, s.closeAll) (x, (s.awaiting a).closeAll) := by
  refine ⟨NameMap.empty, congrArg (Prod.mk x) ?_, fun name hname => ?_⟩
  · have hroster : (s.awaiting a).alter (fun f => { f with roster := Roster.empty }) =
        (s.alter fun f => { f with roster := Roster.empty }).awaiting a := rfl
    have hentries : (s.awaiting a).fleet.roster.entries = s.fleet.roster.entries := rfl
    unfold closeAll
    dsimp only [Roster.removeAll]
    rw [hroster, hentries, closeWindows_awaiting]
    rfl
  · have hbacklog : s.closeAll.fleet.backlog = Backlog.empty :=
      congrArg Handshake.backlog (handshake_closeAll s)
    unfold Fleet.isHolding at hname
    rw [hbacklog] at hname
    cases hname

/-- A satellite registers, which forgets its number on both sides. -/
theorem register_unnoticed {α : Type} {x : α} (hknows : s.fleet.Knows a) (name : String)
    (w : WindowId) :
    Unnoticed (x, s.register name w) (x, (s.awaiting a).register name w) := by
  refine ⟨a.erase name, congrArg (Prod.mk x) ?_, ?_⟩
  · have henter : (s.awaiting a).alter (fun f => { f with
        roster := f.roster.upsert ⟨name, w⟩
        awaited := f.awaited.erase name }) = (s.alter fun f => { f with
          roster := f.roster.upsert ⟨name, w⟩
          awaited := f.awaited.erase name }).awaiting (a.erase name) := rfl
    unfold register
    dsimp only
    rw [henter]
    generalize s.alter _ = t
    have hsession : (t.awaiting (a.erase name)).fleet.session = t.fleet.session := rfl
    rw [hsession, deliver_awaiting]
    generalize t.deliver name w (.setSession t.fleet.session) = u
    have hstartup : (u.awaiting (a.erase name)).fleet.startup = u.fleet.startup := rfl
    rw [hstartup]
    cases u.fleet.startup.get? name with
    | none => rfl
    | some params =>
      dsimp only
      rw [deliver_awaiting]
      rfl
  · have hafter := handshake_register name w s
    refine hknows.erase (congrArg Handshake.awaited hafter) fun other hother => ?_
    have hbacklog : (s.register name w).fleet.backlog = s.fleet.backlog :=
      congrArg Handshake.backlog hafter
    unfold Fleet.isHolding at hother ⊢
    rwa [hbacklog] at hother

/-- What was held back is passed on, and numbers for which nothing is held back any more do not
matter. -/
theorem flush_unnoticed {α : Type} {x : α} (hknows : s.fleet.Knows a) (name : String) :
    Unnoticed (x, s.flush name) (x, (s.awaiting a).flush name) := by
  have hafter := handshake_flush name s
  refine ⟨a, congrArg (Prod.mk x) (flush_awaiting a name s),
    hknows.mono (congrArg Handshake.awaited hafter) fun other hother => ?_⟩
  have hbacklog : (s.flush name).fleet.backlog = s.fleet.backlog.release name :=
    congrArg Handshake.backlog hafter
  unfold Fleet.isHolding at hother
  rw [hbacklog] at hother
  exact (Backlog.isHolding_of_release hother).2

omit [Desktop σ] in
/-- Where nothing is held back for a satellite, its opening is not given up, and at most its number
is forgotten. -/
theorem expire_of_not_holding {name : String} (h : s.fleet.isHolding name = false)
    (generation : Nat) :
    ∃ b, s.expire name generation = (false, s.awaiting b) ∧
      ∀ other, other ≠ name → b.get? other = s.fleet.awaited.get? other := by
  unfold expire
  split
  · refine ⟨s.fleet.awaited.erase name, ?_, fun other hne => ?_⟩
    · dsimp only
      rw [if_neg (by rw [h]; exact Bool.false_ne_true)]
      rfl
    · rw [NameMap.get?_erase, if_neg hne]
  · exact ⟨s.fleet.awaited, rfl, fun _ _ => rfl⟩

omit [Desktop σ] in
/-- Where events are held back the number is the same on both sides, so the opening is given up on
both or on neither. -/
theorem expire_unnoticed (hknows : s.fleet.Knows a) (name : String) (generation : Nat) :
    Unnoticed (s.expire name generation) ((s.awaiting a).expire name generation) := by
  cases hholding : s.fleet.isHolding name with
  | false =>
    obtain ⟨b, hb, hsame⟩ := expire_of_not_holding hholding generation
    obtain ⟨c, hc, hsame'⟩ :=
      expire_of_not_holding (s := s.awaiting a) hholding generation
    rw [hb, hc]
    refine ⟨c, rfl, fun other hother => ?_⟩
    have hne : other ≠ name := by
      rintro rfl
      exact Bool.false_ne_true (hholding.symm.trans hother)
    exact (hsame' other hne).trans ((hknows other hother).trans (hsame other hne).symm)
  | true =>
    have hsame : a.get? name = s.fleet.awaited.get? name := hknows name hholding
    have hawaited : (s.awaiting a).fleet.awaited = a := rfl
    unfold expire
    rw [hawaited, hsame]
    split
    · dsimp only
      rw [hholding, if_pos rfl, show (s.awaiting a).fleet.isHolding name = true from hholding,
        if_pos rfl]
      refine ⟨a.erase name, rfl, hknows.erase rfl fun other hother => ?_⟩
      exact (Backlog.isHolding_of_release hother).2
    · exact .of_handshake hknows rfl

/-- A call is served, and other numbers go unnoticed. -/
theorem serveCall_unnoticed (hknows : s.fleet.Knows a) (c : Call) (caller : Caller) :
    Unnoticed (s.serveCall c caller) ((s.awaiting a).serveCall c caller) := by
  unfold serveCall
  cases c with
  | register =>
    dsimp only
    cases caller.requireWindow .register with
    | ok w => exact register_unnoticed hknows caller.name w
    | error f => exact .of_handshake hknows rfl
  | flush => exact flush_unnoticed hknows caller.name
  | registerChild =>
    dsimp only
    cases caller.requireWindow .registerChild with
    | ok w => exact .of_handshake hknows rfl
    | error f => exact .of_handshake hknows rfl
  | unregisterChild => exact .of_handshake hknows rfl

/-- So they do when a call is made that may not be there. -/
theorem invoke_unnoticed (hknows : s.fleet.Knows a) (operation : String) (caller : Caller) :
    Unnoticed (s.invoke operation caller) ((s.awaiting a).invoke operation caller) := by
  have hcalls : (s.awaiting a).fleet.calls = s.fleet.calls := rfl
  unfold invoke
  rw [hcalls]
  cases s.fleet.calls.get? operation with
  | none => exact .of_handshake hknows rfl
  | some c => exact serveCall_unnoticed hknows c caller

/-- What is known of numbers stays known when a broadcast takes entries off the roster. -/
theorem broadcast_knows (hknows : s.fleet.Knows a) (m : Message) :
    (s.broadcast m).fleet.Knows a := by
  have hafter := handshake_broadcast m s
  refine hknows.mono (congrArg Handshake.awaited hafter) fun name hname => ?_
  have hbacklog : (s.broadcast m).fleet.backlog = s.fleet.backlog :=
    congrArg Handshake.backlog hafter
  unfold Fleet.isHolding at hname ⊢
  rwa [hbacklog] at hname

/-! ## Whole runs -/

/-- Numbers that may have been forgotten make no difference to a request. -/
theorem perform_unnoticed (hknows : s.fleet.Knows a) (r : Request) :
    Unnoticed (s.perform r) ((s.awaiting a).perform r) := by
  cases r with
  | openSatellite name params preferred =>
    exact (openPlaced_unnoticed hknows name params (.fit preferred)).map _
  | forceReopen name params => exact (forceReopen_unnoticed hknows name params).map _
  | activate name =>
    dsimp only [perform]
    rw [activate_awaiting]
    exact .of_handshake hknows (calm_activate name s).handshake
  | close name => exact closeSatellite_unnoticed hknows name
  | closeAll => exact closeAll_unnoticed
  | mainWindowClosed => exact closeAll_unnoticed
  | register name w => exact register_unnoticed hknows name w
  | flush name => exact flush_unnoticed hknows name
  | registerChild name w => exact .of_handshake hknows rfl
  | unregisterChild windowName => exact .of_handshake hknows rfl
  | installCalls => exact .of_handshake hknows rfl
  | invoke operation caller => exact (invoke_unnoticed hknows operation caller).map _
  | dispatchEvent e =>
    dsimp only [perform]
    rw [dispatchEvent_awaiting]
    refine ⟨a, rfl, (broadcast_knows hknows (.event e)).mono rfl fun name hname => ?_⟩
    exact (Backlog.isHolding_enqueueAll _ e name).symm.trans hname
  | dispatchCommand c =>
    dsimp only [perform]
    rw [dispatchCommand_awaiting]
    exact ⟨a, rfl, broadcast_knows hknows (.command c.id)⟩
  | updateSession snapshot => exact .of_handshake hknows rfl
  | expire name generation =>
    exact (expire_unnoticed hknows name generation).map fun b => Except.ok (Answer.flag b)
  | isOpen name => exact .of_handshake hknows rfl
  | metrics => exact .of_handshake hknows rfl

/-- Nor do they make a difference to a whole run. -/
theorem run_unnoticed (moves : List (Move σ)) (hknows : s.fleet.Knows a) :
    ∃ b, (s.awaiting a).run moves = (s.run moves).awaiting b ∧ (s.run moves).fleet.Knows b := by
  induction moves generalizing s a with
  | nil => exact ⟨a, rfl, hknows⟩
  | cons m rest ih =>
    obtain ⟨b, hmove, hb⟩ : ∃ b, (s.awaiting a).move m = (s.move m).awaiting b ∧
        (s.move m).fleet.Knows b := by
      cases m with
      | request r =>
        obtain ⟨b, hperform, hb⟩ := perform_unnoticed hknows r
        exact ⟨b, congrArg Prod.snd hperform, hb⟩
      | shift change => exact ⟨a, rfl, hknows⟩
    have hrest := ih hb
    rw [← hmove] at hrest
    exact hrest

omit [Desktop σ] in
/-- An opening that is not given up leaves everything as it is, but for numbers that do not matter
any more. -/
theorem expire_forgets {name : String} {generation : Nat}
    (h : (s.expire name generation).1 = false) :
    ∃ b, (s.expire name generation).2 = s.awaiting b ∧ s.fleet.Knows b := by
  cases hholding : s.fleet.isHolding name with
  | false =>
    obtain ⟨b, hb, hsame⟩ := expire_of_not_holding hholding generation
    refine ⟨b, congrArg Prod.snd hb, fun other hother => hsame other ?_⟩
    rintro rfl
    rw [hholding] at hother
    cases hother
  | true =>
    have hawaited : s.fleet.awaited.get? name ≠ some generation := by
      intro heq
      rw [(expire_fst name generation s).mpr ⟨heq, hholding⟩] at h
      cases h
    refine ⟨s.fleet.awaited, ?_, .refl s.fleet⟩
    unfold expire
    rw [if_neg hawaited]
    rfl

end Scene

end SatelliteWindows
