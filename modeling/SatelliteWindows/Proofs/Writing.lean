import SatelliteWindows.Scene.Request

/-!
# What a request may write down

Operations only ever add to the journal, and they touch the desktop only by asking it something.
What they may add depends on the request. Openings ask for windows, and bring them to the front,
under the window name of their satellite, and tell a window that it was brought to the front;
closings close windows; calls and dispatches tell windows and listeners things; and only a request
to give an opening up reports that one was given up.

This is said once, of every request. That a request asks for no window, hands no event or no command
to a window, or hands the desktop no window name but one, follows from it without looking at the
operation again.
-/

namespace SatelliteWindows

namespace Desktop

variable {σ : Type} [Desktop σ]

/-- One state of a desktop comes of another by asking the desktop things. -/
inductive Reaches (a : σ) : σ → Prop where
  /-- Nothing was asked. -/
  | refl : Reaches a a
  /-- A message was handed to a window. -/
  | deliver {b : σ} (w : WindowId) (m : Message) :
      Reaches a b → Reaches a (Desktop.deliver w m b).2
  /-- A window was to be focused. -/
  | focus {b : σ} (w : WindowId) : Reaches a b → Reaches a (Desktop.focus w b).2
  /-- A window was to be closed. -/
  | close {b : σ} (w : WindowId) : Reaches a b → Reaches a (Desktop.close w b).2
  /-- A window was asked for. -/
  | openWindow {b : σ} (r : OpenRequest) : Reaches a b → Reaches a (Desktop.openWindow r b).2
  /-- The shell was asked to raise a window. -/
  | raise {b : σ} (windowName : String) : Reaches a b → Reaches a (Desktop.raise windowName b).2
  /-- A moment passed. -/
  | elapse {b : σ} : Reaches a b → Reaches a (Desktop.elapse b)

/-- What is asked afterwards is asked as well. -/
theorem Reaches.trans {a b c : σ} (hab : Reaches a b) (hbc : Reaches b c) : Reaches a c := by
  induction hbc with
  | refl => exact hab
  | deliver w m _ ih => exact ih.deliver w m
  | focus w _ ih => exact ih.focus w
  | close w _ ih => exact ih.close w
  | openWindow r _ ih => exact ih.openWindow r
  | raise windowName _ ih => exact ih.raise windowName
  | elapse _ ih => exact ih.elapse

end Desktop

/-- The satellite whose opening is reported as given up, with the number of events dropped. -/
def Activity.timedOut? : Activity → Option (String × Nat)
  | openTimedOut name discarded => some (name, discarded)
  | _ => none

namespace Effect

/-- What the opening of a satellite may write down. -/
def OfOpening (name : String) : Effect → Prop
  | delivery other _ m _ =>
    other = name ∧ (m = .pendingReactivate ∨ ∃ params, m = .reactivated params)
  | openRequest q _ => q.name = name ∧ q.windowName = WindowName.ofSatellite name
  | raise windowName _ => windowName = WindowName.ofSatellite name
  | focus .. | close .. => True
  | report a => a.timedOut? = none

/-- What closing satellites may write down. -/
def OfClosing : Effect → Prop
  | close .. => True
  | report a => a.timedOut? = none
  | delivery .. | openRequest .. | raise .. | focus .. => False

/-- What may be written down where windows are only handed messages of some kind. -/
def OfTelling (kind : Message → Prop) : Effect → Prop
  | delivery _ _ m _ => kind m
  | report a => a.timedOut? = none
  | openRequest .. | raise .. | focus .. | close .. => False

/-- What giving an opening up may write down. -/
def OfExpiry (name : String) : Effect → Prop
  | report a => ∃ discarded, a = .openTimedOut name discarded
  | delivery .. | openRequest .. | raise .. | focus .. | close .. => False

end Effect

/-- What a request may write down. -/
def Request.MayWrite : Request → Effect → Prop
  | openSatellite name .. | forceReopen name _ | activate name => Effect.OfOpening name
  | close _ | closeAll | mainWindowClosed => Effect.OfClosing
  | register .. => Effect.OfTelling fun m => m.event? = none ∧ m.command? = none
  | flush _ => Effect.OfTelling fun m => m.command? = none
  | registerChild .. | unregisterChild _ => Effect.OfTelling fun _ => False
  | invoke .. => Effect.OfTelling fun m => m.command? = none
  | dispatchEvent e => Effect.OfTelling fun m => m = .event e
  | dispatchCommand c => Effect.OfTelling fun m => m = .command c.id
  | expire name _ => Effect.OfExpiry name
  | installCalls | updateSession _ | isOpen _ | metrics => fun _ => False

namespace Scene

variable {σ : Type} [Desktop σ] {P : Effect → Prop}

/-- From one scene to another only effects of some kind were written down, and the desktop was only
asked things. -/
structure Writes (P : Effect → Prop) (s t : Scene σ) : Prop where
  /-- What was written down. -/
  journal : ∃ news : Journal, t.journal = s.journal ++ news ∧ ∀ e ∈ news, P e
  /-- The desktop was asked things. -/
  world : Desktop.Reaches s.world t.world

namespace Writes

variable {s t u : Scene σ}

/-- What is altered in the fleet is not written down. -/
theorem of_silent (journal : t.journal = s.journal) (world : Desktop.Reaches s.world t.world) :
    Writes P s t :=
  ⟨⟨[], journal.trans (List.append_nil _).symm, nofun⟩, world⟩

/-- To do nothing is to write nothing. -/
theorem refl (s : Scene σ) : Writes P s s := .of_silent rfl .refl

/-- What is written in two stretches is written in both together. -/
theorem trans (hst : Writes P s t) (htu : Writes P t u) : Writes P s u := by
  obtain ⟨first, hfirst, hkind⟩ := hst.journal
  obtain ⟨more, hmore, hkind'⟩ := htu.journal
  refine ⟨⟨first ++ more, by rw [hmore, hfirst, List.append_assoc], fun e he => ?_⟩,
    hst.world.trans htu.world⟩
  exact (List.mem_append.mp he).elim (hkind e) (hkind' e)

/-- Effects of a narrower kind are of a wider kind. -/
theorem mono {Q : Effect → Prop} (h : Writes P s t) (hPQ : ∀ e, P e → Q e) : Writes Q s t := by
  obtain ⟨news, hnews, hkind⟩ := h.journal
  exact ⟨⟨news, hnews, fun e he => hPQ e (hkind e he)⟩, h.world⟩

/-- What picks out of journals something that no effect of this kind has is left as it is. -/
theorem filterMap_eq {α : Type} {pick : Effect → Option α} (h : Writes P s t)
    (hnone : ∀ e, P e → pick e = none) :
    t.journal.filterMap pick = s.journal.filterMap pick := by
  obtain ⟨news, hnews, hkind⟩ := h.journal
  rw [hnews, List.filterMap_append,
    List.filterMap_eq_nil_iff.mpr fun e he => hnone e (hkind e he), List.append_nil]

/-- No messages of a kind are handed to windows that no effect of this kind hands over. -/
theorem filter_attempts_eq {p : Attempt → Bool} (h : Writes P s t)
    (hnone : ∀ e, P e → ∀ a, e.attempt? = some a → p a = false) :
    t.journal.attempts.filter p = s.journal.attempts.filter p := by
  obtain ⟨news, hnews, hkind⟩ := h.journal
  have hnews' : (Journal.attempts news).filter p = [] := by
    refine List.filter_eq_nil_iff.mpr fun a ha => ?_
    obtain ⟨e, he, hattempt⟩ := List.mem_filterMap.mp ha
    simp [hnone e (hkind e he) a hattempt]
  unfold Journal.attempts at hnews' ⊢
  rw [hnews, List.filterMap_append, List.filter_append, hnews', List.append_nil]

end Writes

/-- A step repeated over a list writes what it writes each time. -/
theorem writes_foldl {α : Type} {step : Scene σ → α → Scene σ}
    (hstep : ∀ s a, Writes P s (step s a)) (l : List α) (s : Scene σ) :
    Writes P s (l.foldl step s) := by
  induction l generalizing s with
  | nil => exact .refl s
  | cons a rest ih => exact (hstep s a).trans (ih (step s a))

/-! ## Elementary steps -/

/-- What a fleet remembers is not written down. -/
theorem writes_alter (f : Fleet → Fleet) (s : Scene σ) : Writes P s (s.alter f) :=
  .of_silent rfl .refl

/-- A step of the desktop that is written down adds one effect. -/
theorem writes_record {e : Effect} (he : P e) (s : Scene σ) {world : σ}
    (hworld : Desktop.Reaches s.world world) : Writes P s ({ s with world := world }.record e) :=
  ⟨⟨[e], rfl, fun _ hx => List.mem_singleton.mp hx ▸ he⟩, hworld⟩

/-- A report is written down as such. -/
theorem writes_report {a : Activity} (ha : P (.report a)) (s : Scene σ) : Writes P s (s.report a) :=
  writes_record ha s .refl

/-- That time passes is not written down. -/
theorem writes_elapse (s : Scene σ) : Writes P s s.elapse := .of_silent rfl (.elapse .refl)

/-- It is written down that a window was to come to the front. -/
theorem writes_focus (w : WindowId) (hP : ∀ fault, P (.focus w fault)) (s : Scene σ) :
    Writes P s (s.focus w) :=
  writes_record (hP _) s (.focus w .refl)

/-- It is written down that a window was to be closed. -/
theorem writes_closeWindow (w : WindowId) (hP : ∀ fault, P (.close w fault)) (s : Scene σ) :
    Writes P s (s.closeWindow w).2 :=
  writes_record (hP _) s (.close w .refl)

/-- It is written down that the shell was to bring a window to the front. -/
theorem writes_raise (windowName : String) (hP : ∀ fault, P (.raise windowName fault))
    (s : Scene σ) : Writes P s (s.raise windowName) :=
  writes_record (hP _) s (.raise windowName .refl)

/-- It is written down that a window was asked for. -/
theorem writes_requestWindow (r : OpenRequest) (hP : ∀ fault, P (.openRequest r fault))
    (s : Scene σ) : Writes P s (s.requestWindow r) :=
  writes_record (hP _) s (.openWindow r .refl)

/-- A delivery is written down, and reported if it failed. -/
theorem writes_deliver (name : String) (w : WindowId) (m : Message)
    (hP : ∀ fault, P (.delivery name w m fault))
    (hfailed : ∀ error, P (.report (.deliveryFailed name m.operation error))) (s : Scene σ) :
    Writes P s (s.deliver name w m) := by
  have hhanded := writes_record (hP (Desktop.deliver w m s.world).1) s (.deliver w m .refl)
  unfold deliver
  generalize Desktop.deliver w m s.world = result at hhanded ⊢
  obtain ⟨fault, world⟩ := result
  cases fault with
  | none => exact hhanded
  | some f => exact hhanded.trans ((writes_alter _ _).trans (writes_report (hfailed _) _))

/-- What is altered or reported afterwards is of the same kind. -/
theorem Writes.alter {s t : Scene σ} (h : Writes P s t) (f : Fleet → Fleet) :
    Writes P s (t.alter f) :=
  h.trans (writes_alter f t)

/-- A report can be added. -/
theorem Writes.report {s t : Scene σ} (h : Writes P s t) {a : Activity} (ha : P (.report a)) :
    Writes P s (t.report a) :=
  h.trans (writes_report ha t)

/-! ## Operations -/

/-- An opening writes down what openings may, wherever the window is to be. -/
theorem writes_openAnew (name : String) (params : Option Payload) (placement : Placement)
    (s : Scene σ) : Writes (Effect.OfOpening name) s (s.openAnew name params placement).2 := by
  have hexpected : Writes (Effect.OfOpening name) s (s.alter (Fleet.expect name params)) :=
    writes_alter _ s
  exact (hexpected.trans (writes_requestWindow (s.requestFor name placement)
    (fun _ => ⟨rfl, rfl⟩) _)).report rfl

/-- To bring a satellite to the front is written down as an opening is. -/
theorem writes_reactivate (name : String) (w : WindowId) (params : Option Payload) (s : Scene σ) :
    Writes (Effect.OfOpening name) s (s.reactivate name w params) := by
  have hcounted : Writes (Effect.OfOpening name) s
      (s.count fun t => { t with reactivations := t.reactivations + 1 }) :=
    writes_alter _ s
  exact (hcounted.trans (writes_deliver name w (.reactivated params)
    (fun _ => ⟨rfl, .inr ⟨params, rfl⟩⟩) (fun _ => rfl) _)).report rfl

/-- So is the notice that it gets before. -/
theorem writes_pendingReactivate (name : String) (w : WindowId) (s : Scene σ) :
    Writes (Effect.OfOpening name) s (s.deliver name w .pendingReactivate) :=
  writes_deliver name w _ (fun _ => ⟨rfl, .inl rfl⟩) (fun _ => rfl) s

/-- A satellite that is opened writes down its opening only. -/
theorem writes_openPlaced (name : String) (params : Option Payload) (placement : Placement)
    (s : Scene σ) : Writes (Effect.OfOpening name) s (s.openPlaced name params placement).2 := by
  unfold openPlaced
  cases s.fleet.role with
  | satellite => exact .refl s
  | main =>
    dsimp only
    cases s.find? name with
    | none => exact writes_openAnew name params placement s
    | some w =>
      dsimp only
      cases s.fleet.platform.reactivation with
      | hostActivate =>
        exact (writes_raise _ (fun _ => rfl) s).trans (writes_reactivate name w params _)
      | refocus =>
        exact (writes_focus w (fun _ => trivial) s).trans (writes_reactivate name w params _)
      | reopen =>
        exact (writes_pendingReactivate name w s).trans (writes_openAnew name params placement _)

/-- So does one that is forced open again. -/
theorem writes_forceReopen (name : String) (params : Option Payload) (s : Scene σ) :
    Writes (Effect.OfOpening name) s (s.forceReopen name params).2 := by
  unfold forceReopen
  cases s.find? name with
  | none => exact .refl s
  | some w =>
    dsimp only
    cases Desktop.geometry s.world w with
    | error f => exact .refl s
    | ok g =>
      exact (writes_pendingReactivate name w s).trans
        ((writes_closeWindow w (fun _ => trivial) _).trans
          (writes_openPlaced name params (.restore g) _))

/-- So does one that is activated. -/
theorem writes_activate (name : String) (s : Scene σ) :
    Writes (Effect.OfOpening name) s (s.activate name) := by
  unfold activate
  split
  · exact writes_raise _ (fun _ => rfl) s
  · split
    · exact writes_focus _ (fun _ => trivial) s
    · exact .refl s

/-- To close a satellite writes down no more than that. -/
theorem writes_closeSatellite (name : String) (s : Scene σ) :
    Writes Effect.OfClosing s (s.closeSatellite name) := by
  have hforgotten : Writes Effect.OfClosing s (s.alter fun f =>
      { f with awaited := f.awaited.erase name, backlog := f.backlog.release name }) :=
    writes_alter _ s
  unfold closeSatellite
  dsimp only
  generalize s.alter _ = t at hforgotten ⊢
  refine hforgotten.trans ?_
  cases t.find? name with
  | none => exact .refl t
  | some w =>
    have hclosed : Writes Effect.OfClosing t (t.closeWindow w).2 :=
      writes_closeWindow w (fun _ => trivial) t
    dsimp only
    generalize t.closeWindow w = result at hclosed ⊢
    obtain ⟨fault, u⟩ := result
    cases fault with
    | none => exact hclosed.report rfl
    | some f => exact hclosed

/-- Nor does it to close all. -/
theorem writes_closeAll (s : Scene σ) : Writes Effect.OfClosing s s.closeAll := by
  have hclosed : ∀ (ws : List WindowId) (t : Scene σ),
      Writes Effect.OfClosing t (t.closeWindows ws) :=
    writes_foldl fun t w => writes_closeWindow w (fun _ => trivial) t
  have hgone : Writes Effect.OfClosing s (s.alter fun f => { f with roster := Roster.empty }) :=
    writes_alter _ s
  exact ((hgone.trans (hclosed _ _)).alter _).report rfl

/-- That an opening expires is all that is written down of it. -/
theorem writes_expire (name : String) (generation : Nat) (s : Scene σ) :
    Writes (Effect.OfExpiry name) s (s.expire name generation).2 := by
  have hforgotten : Writes (Effect.OfExpiry name) s
      (s.alter fun f => { f with awaited := f.awaited.erase name }) :=
    writes_alter _ s
  unfold expire
  split
  · dsimp only
    split
    · exact ((hforgotten.alter _).alter _).report ⟨_, rfl⟩
    · exact hforgotten
  · exact .refl s

/-- A satellite that registers is told neither events nor commands. -/
theorem writes_register (name : String) (w : WindowId) (s : Scene σ) :
    Writes (Effect.OfTelling fun m => m.event? = none ∧ m.command? = none) s
      (s.register name w) := by
  have hentered : Writes (Effect.OfTelling fun m => m.event? = none ∧ m.command? = none) s
      (s.alter fun f =>
        { f with roster := f.roster.upsert ⟨name, w⟩, awaited := f.awaited.erase name }) :=
    writes_alter _ s
  unfold register
  dsimp only
  generalize s.alter _ = t at hentered ⊢
  have htold := hentered.trans (writes_deliver name w (.setSession t.fleet.session)
    (fun _ => ⟨rfl, rfl⟩) (fun _ => rfl) t)
  generalize t.deliver name w (.setSession t.fleet.session) = u at htold ⊢
  cases u.fleet.startup.get? name with
  | none => exact htold.report rfl
  | some params =>
    exact (htold.trans (writes_deliver name w _ (fun _ => ⟨rfl, rfl⟩) (fun _ => rfl) u)).report rfl

/-- It is told no commands when its queue is passed on. -/
theorem writes_flush (name : String) (s : Scene σ) :
    Writes (Effect.OfTelling fun m => m.command? = none) s (s.flush name) := by
  have hevents : ∀ (w : WindowId) (es : List Event) (t : Scene σ),
      Writes (Effect.OfTelling fun m => m.command? = none) t
        (t.deliverAll name w (es.map .event)) := by
    intro w es
    induction es with
    | nil => exact .refl
    | cons e rest ih =>
      exact fun t => (writes_deliver name w (.event e) (fun _ => rfl) (fun _ => rfl) t).trans (ih _)
  have hlet : Writes (Effect.OfTelling fun m => m.command? = none) s
      (s.alter fun f => { f with backlog := f.backlog.release name }) :=
    writes_alter _ s
  unfold flush
  dsimp only
  split
  · exact hlet
  · exact (hlet.trans (writes_foldl (fun t w => hevents w _ t) _ _)).report rfl

/-- A call hands no command to a window. -/
theorem writes_serveCall (c : Call) (caller : Caller) (s : Scene σ) :
    Writes (Effect.OfTelling fun m => m.command? = none) s (s.serveCall c caller).2 := by
  cases c with
  | register =>
    dsimp only [serveCall]
    cases caller.requireWindow .register with
    | ok w =>
      refine (writes_register caller.name w s).mono fun e he => ?_
      cases e with
      | delivery => exact he.2
      | _ => exact he
    | error f => exact .refl s
  | flush => exact writes_flush caller.name s
  | registerChild =>
    dsimp only [serveCall]
    cases caller.requireWindow .registerChild with
    | ok w => exact (Writes.refl s).report rfl
    | error f => exact .refl s
  | unregisterChild => exact (Writes.refl s).report rfl

/-! ### Broadcasts -/

/-- Reports on entries are all that is written down of them. -/
theorem writes_reportEvicted (kind : Message → Prop) (dead : List Entry) (s : Scene σ) :
    Writes (Effect.OfTelling kind) s (s.reportEvicted dead) := by
  refine writes_foldl (fun t e => ?_) dead s
  have hcounted : Writes (Effect.OfTelling kind) t
      (t.count fun c => { c with deadEvicted := c.deadEvicted + 1 }) :=
    writes_alter _ t
  exact hcounted.report rfl

/-- A message that is offered in turn is the only one that is told. -/
theorem writes_offer (m : Message) (entries : List Entry) (s : Scene σ) :
    Writes (Effect.OfTelling fun n => n = m) s (s.offer m entries).2 := by
  induction entries generalizing s with
  | nil => exact .refl s
  | cons e rest ih =>
    unfold offer
    dsimp only
    refine (writes_elapse s).trans ?_
    split
    · exact ih s.elapse
    · split
      · exact (writes_deliver _ _ m (fun _ => rfl) (fun _ => rfl) s.elapse).trans (ih _)
      · exact ih s.elapse

/-- Sweeping tells nobody anything. -/
theorem writes_sweep (kind : Message → Prop) (s : Scene σ) :
    Writes (Effect.OfTelling kind) s s.sweep :=
  (writes_alter _ s).trans (writes_reportEvicted kind _ _)

/-- Nor does dropping entries. -/
theorem writes_evict (kind : Message → Prop) (dead : List Entry) (s : Scene σ) :
    Writes (Effect.OfTelling kind) s (s.evict dead) :=
  (writes_alter _ s).trans (writes_reportEvicted kind dead _)

/-- A broadcast tells nothing but its message. -/
theorem writes_broadcast (m : Message) (s : Scene σ) :
    Writes (Effect.OfTelling fun n => n = m) s (s.broadcast m) :=
  (writes_sweep _ s).trans ((writes_offer m _ s.sweep).trans (writes_evict _ _ _))

/-- The dispatch of an event tells nothing but the event. -/
theorem writes_dispatchEvent (e : Event) (s : Scene σ) :
    Writes (Effect.OfTelling fun m => m = .event e) s (s.dispatchEvent e) := by
  have hpassed := writes_broadcast (.event e) s
  unfold dispatchEvent
  generalize s.broadcast (.event e) = t at hpassed ⊢
  exact (hpassed.alter _).alter _

/-- The dispatch of a command tells nothing but the command. -/
theorem writes_dispatchCommand (c : Command) (s : Scene σ) :
    Writes (Effect.OfTelling fun m => m = .command c.id) s (s.dispatchCommand c) := by
  have hpassed := writes_broadcast (.command c.id) s
  unfold dispatchCommand
  generalize s.broadcast (.command c.id) = t at hpassed ⊢
  exact hpassed.alter _

/-! ## Requests -/

/-- A request writes down what it may, and asks the desktop things. -/
theorem writes_perform (r : Request) (s : Scene σ) : Writes r.MayWrite s (s.perform r).2 := by
  cases r with
  | openSatellite name params preferred => exact writes_openPlaced name params (.fit preferred) s
  | forceReopen name params => exact writes_forceReopen name params s
  | activate name => exact writes_activate name s
  | close name => exact writes_closeSatellite name s
  | closeAll | mainWindowClosed => exact writes_closeAll s
  | register name w => exact writes_register name w s
  | flush name => exact writes_flush name s
  | registerChild | unregisterChild => exact (Writes.refl s).report rfl
  | invoke operation caller =>
    show Writes _ s (s.invoke operation caller).2
    unfold invoke
    split
    · exact writes_serveCall _ caller s
    · exact .refl s
  | dispatchEvent e => exact writes_dispatchEvent e s
  | dispatchCommand c => exact writes_dispatchCommand c s
  | expire name generation => exact writes_expire name generation s
  | installCalls | updateSession => exact .of_silent rfl .refl
  | isOpen | metrics => exact .refl s

end Scene

end SatelliteWindows
