import SatelliteWindows.Proofs.Roster
import SatelliteWindows.Proofs.Traffic

/-!
# The state of the handshake

What a satellite gets depends on four things that are remembered: which window is registered for
it, what is held back for it, whether its last opening was answered, and how many openings there
were. This module says what each operation does to the four of them. The operations of this module
are calm or discreet unless they are openings, flushes or dispatches of an event.
-/

namespace SatelliteWindows

/-- What the handshake between the main window and its satellites depends on. -/
structure Handshake where
  /-- The registered satellites. -/
  roster : Roster
  /-- What is held back. -/
  backlog : Backlog
  /-- The openings that were not answered yet. -/
  awaited : NameMap Nat
  /-- The number of the last opening. -/
  generation : Nat

/-- The part of a fleet that the handshake depends on. -/
def Fleet.handshake (f : Fleet) : Handshake := ⟨f.roster, f.backlog, f.awaited, f.generation⟩

namespace Handshake

/-- A satellite is opened anew. -/
def expect (name : String) (h : Handshake) : Handshake :=
  { h with
    backlog := h.backlog.hold name
    awaited := h.awaited.put name (h.generation + 1)
    generation := h.generation + 1 }

/-- A window registers for a satellite. -/
def register (name : String) (w : WindowId) (h : Handshake) : Handshake :=
  { h with roster := h.roster.upsert ⟨name, w⟩, awaited := h.awaited.erase name }

/-- What is held back for a satellite is passed on. -/
def flush (name : String) (h : Handshake) : Handshake :=
  { h with backlog := h.backlog.release name }

/-- An event is held back. -/
def holdBack (e : Event) (h : Handshake) : Handshake :=
  { h with backlog := h.backlog.enqueueAll e }

/-- A satellite is closed or given up. -/
def giveUp (name : String) (h : Handshake) : Handshake :=
  { h with backlog := h.backlog.release name, awaited := h.awaited.erase name }

/-- Everything is closed. -/
def clear (h : Handshake) : Handshake :=
  { h with roster := Roster.empty, backlog := Backlog.empty, awaited := NameMap.empty }

end Handshake

namespace Scene

variable {σ : Type}

/-- The state of the handshake in a scene. -/
def handshake (s : Scene σ) : Handshake := s.fleet.handshake

/-- A report is none of the handshake's business. -/
@[simp] theorem handshake_report (a : Activity) (s : Scene σ) :
    (s.report a).handshake = s.handshake := rfl

variable [Desktop σ]

/-- Whether a window closes is none of its business. -/
@[simp] theorem handshake_closeWindow (w : WindowId) (s : Scene σ) :
    (s.closeWindow w).2.handshake = s.handshake := rfl

/-- Nor is the passing of time. -/
@[simp] theorem handshake_elapse (s : Scene σ) : s.elapse.handshake = s.handshake := rfl

/-- Nor is a message that is handed to a window. -/
@[simp] theorem handshake_deliver (name : String) (w : WindowId) (m : Message) (s : Scene σ) :
    (s.deliver name w m).handshake = s.handshake := by
  unfold deliver
  cases Desktop.deliver w m s.world with
  | mk fault world => cases fault <;> rfl

omit [Desktop σ] in
/-- A step repeated over a list keeps the handshake if it does so each time. -/
theorem handshake_foldl {α : Type} (step : Scene σ → α → Scene σ)
    (hstep : ∀ s a, (step s a).handshake = s.handshake) (l : List α) (s : Scene σ) :
    (l.foldl step s).handshake = s.handshake := by
  induction l generalizing s with
  | nil => rfl
  | cons a rest ih => exact (ih (step s a)).trans (hstep s a)

/-- Nor are several. -/
@[simp] theorem handshake_deliverAll (name : String) (w : WindowId) (ms : List Message)
    (s : Scene σ) : (s.deliverAll name w ms).handshake = s.handshake :=
  handshake_foldl _ (fun s m => handshake_deliver name w m s) ms s

/-- Nor are windows that are closed. -/
@[simp] theorem handshake_closeWindows (ws : List WindowId) (s : Scene σ) :
    (s.closeWindows ws).handshake = s.handshake :=
  handshake_foldl _ (fun s w => handshake_closeWindow w s) ws s

omit [Desktop σ] in
/-- Nor are reports on entries. -/
@[simp] theorem handshake_reportEvicted (dead : List Entry) (s : Scene σ) :
    (s.reportEvicted dead).handshake = s.handshake := by
  induction dead generalizing s with
  | nil => rfl
  | cons e rest ih => exact ih _

/-- A discreet course of things that leaves the handshake where it is. -/
structure Calm (s t : Scene σ) : Prop extends Discreet s t where
  /-- The state of the handshake is the same. -/
  handshake : t.handshake = s.handshake

/-- To do nothing is calm. -/
theorem Calm.refl (s : Scene σ) : Calm s s := ⟨.refl s, rfl⟩

/-- A calm course after a calm course is calm. -/
theorem Calm.trans {s t u : Scene σ} (hst : Calm s t) (htu : Calm t u) : Calm s u :=
  ⟨hst.toDiscreet.trans htu.toDiscreet, htu.handshake.trans hst.handshake⟩

/-- To bring a window to the front is calm. -/
theorem calm_focus (w : WindowId) (s : Scene σ) : Calm s (s.focus w) :=
  ⟨(writes_focus w (fun _ => ⟨rfl, rfl, rfl⟩) s).discreet fun _ => id, rfl⟩

/-- To close a window is calm. -/
theorem calm_closeWindow (w : WindowId) (s : Scene σ) : Calm s (s.closeWindow w).2 :=
  ⟨(writes_closeWindow w (fun _ => ⟨rfl, rfl, rfl⟩) s).discreet fun _ => id, rfl⟩

/-- To have the shell bring a window to the front is calm. -/
theorem calm_raise (windowName : String) (s : Scene σ) : Calm s (s.raise windowName) :=
  ⟨(writes_raise windowName (fun _ => ⟨rfl, rfl, rfl⟩) s).discreet fun _ => id, rfl⟩

/-- To hand over a message that is no event is calm. -/
theorem calm_deliver {m : Message} (hm : m.event? = none) (name : String) (w : WindowId)
    (s : Scene σ) : Calm s (s.deliver name w m) :=
  ⟨discreet_deliver hm name w s, handshake_deliver name w m s⟩

/-! ## Openings -/

/-- A window is asked for by exactly one request, which carries the satellite's name. -/
theorem openRequests_openAnew (name : String) (params : Option Payload) (placement : Placement)
    (s : Scene σ) : (s.openAnew name params placement).2.journal.openRequests =
      s.journal.openRequests ++ [s.requestFor name placement] := by
  simp [openAnew, requestWindow, report, record, alter, Journal.openRequests,
    Effect.openRequest?]

/-- A satellite that is opened anew is awaited. -/
@[simp] theorem handshake_openAnew (name : String) (params : Option Payload)
    (placement : Placement) (s : Scene σ) :
    (s.openAnew name params placement).2.handshake = s.handshake.expect name := rfl

/-- A window that is brought to the front is counted, told and reported. -/
theorem calm_reactivate (name : String) (w : WindowId) (params : Option Payload) (s : Scene σ) :
    Calm s (s.reactivate name w params) := by
  have hcounted : Calm s (s.count fun t => { t with reactivations := t.reactivations + 1 }) :=
    ⟨discreet_alter _ s, rfl⟩
  have htold := hcounted.trans (calm_deliver (m := .reactivated params) rfl name w _)
  exact htold.trans ⟨discreet_report (.reactivated name) _ rfl, rfl⟩

/-- Either an opening changes nothing of the handshake and does not say that a window was asked
for, or it comes down to asking for a window once everything calm has been done. -/
theorem openPlaced_cases (name : String) (params : Option Payload) (placement : Placement)
    (s : Scene σ) :
    (Calm s (s.openPlaced name params placement).2 ∧
      ∀ g, (s.openPlaced name params placement).1 ≠ .ok (.opened g)) ∨
    ∃ t, Calm s t ∧
      s.openPlaced name params placement = (t.openAnew name params placement).map .ok id := by
  unfold openPlaced
  cases s.fleet.role with
  | satellite => exact .inl ⟨.refl s, fun g hg => by cases hg⟩
  | main =>
    dsimp only
    cases s.find? name with
    | none => exact .inr ⟨s, .refl s, rfl⟩
    | some w =>
      dsimp only
      cases s.fleet.platform.reactivation with
      | hostActivate =>
        refine .inl ⟨(calm_raise _ s).trans (calm_reactivate name w params _), fun g hg => ?_⟩
        cases hg
      | refocus =>
        refine .inl ⟨(calm_focus w s).trans (calm_reactivate name w params _), fun g hg => ?_⟩
        cases hg
      | reopen => exact .inr ⟨_, calm_deliver rfl name w s, rfl⟩

/-- A forced reopening is calm, or it comes down to asking for a window. -/
theorem forceReopen_cases (name : String) (params : Option Payload) (s : Scene σ) :
    Calm s (s.forceReopen name params).2 ∨
    ∃ t placement, Calm s t ∧
      (s.forceReopen name params).2 = (t.openAnew name params placement).2 := by
  unfold forceReopen
  cases s.find? name with
  | none => exact .inl (.refl s)
  | some w =>
    dsimp only
    cases Desktop.geometry s.world w with
    | error f => exact .inl (.refl s)
    | ok g =>
      dsimp only
      have hcalm : Calm s ((s.deliver name w .pendingReactivate).closeWindow w).2 :=
        (calm_deliver rfl name w s).trans (calm_closeWindow w _)
      rcases openPlaced_cases name params (.restore g)
        ((s.deliver name w .pendingReactivate).closeWindow w).2 with ⟨hopen, -⟩ | ⟨t, ht, heq⟩
      · exact .inl (hcalm.trans hopen)
      · exact .inr ⟨t, _, hcalm.trans ht, congrArg Prod.snd heq⟩

/-- To activate a satellite is calm. -/
theorem calm_activate (name : String) (s : Scene σ) : Calm s (s.activate name) := by
  unfold activate
  split
  · exact calm_raise _ s
  · split
    · exact calm_focus _ s
    · exact .refl s

/-! ## Closing and giving up -/

/-- A satellite that is closed is given up, whether its window could be closed or not. -/
theorem handshake_closeSatellite (name : String) (s : Scene σ) :
    (s.closeSatellite name).handshake = s.handshake.giveUp name := by
  have hforgotten : (s.alter fun f =>
      { f with awaited := f.awaited.erase name, backlog := f.backlog.release name }).handshake =
        s.handshake.giveUp name := rfl
  unfold closeSatellite
  dsimp only
  generalize s.alter _ = t at hforgotten ⊢
  cases t.find? name with
  | none => exact hforgotten
  | some w =>
    have hclosed : (t.closeWindow w).2.handshake = t.handshake := handshake_closeWindow w t
    dsimp only
    generalize t.closeWindow w = result at hclosed ⊢
    obtain ⟨fault, u⟩ := result
    cases fault <;> exact hclosed.trans hforgotten

/-- Closing all satellites hands nothing on. -/
theorem discreet_closeAll (s : Scene σ) : Discreet s s.closeAll :=
  (writes_closeAll s).discreet fun _ he => he.isDiscreet

/-- It clears roster, queues and numbers. -/
theorem handshake_closeAll (s : Scene σ) : s.closeAll.handshake = s.handshake.clear := by
  have hclose := handshake_closeWindows (s.fleet.roster.removeAll.1.map Entry.window)
    (s.alter fun f => { f with roster := s.fleet.roster.removeAll.2 })
  have hroster := congrArg Handshake.roster hclose
  have hgeneration := congrArg Handshake.generation hclose
  show Handshake.mk _ Backlog.empty NameMap.empty _ = s.handshake.clear
  exact congr (congrArg (Handshake.mk · Backlog.empty NameMap.empty) hroster) hgeneration

omit [Desktop σ] in
/-- An opening can be given up exactly if it is the one that is awaited and events are held back. -/
theorem expire_fst (name : String) (generation : Nat) (s : Scene σ) :
    (s.expire name generation).1 = true ↔
      s.fleet.awaited.get? name = some generation ∧ s.fleet.isHolding name = true := by
  unfold expire
  split
  · next h =>
    dsimp only
    split
    · next hh => simp [h, hh]
    · next hh => simp [hh]
  · next h => simp [h]

/-- An opening that is not given up leaves no trace outside. -/
theorem discreet_expire {name : String} {generation : Nat} {s : Scene σ}
    (h : (s.expire name generation).1 = false) : Discreet s (s.expire name generation).2 := by
  unfold expire at h ⊢
  split
  · next hawaited =>
    rw [if_pos hawaited] at h
    dsimp only at h ⊢
    split
    · next hholding =>
      rw [if_pos hholding] at h
      cases h
    · exact discreet_alter (fun f => { f with awaited := f.awaited.erase name }) s
  · exact .refl s

omit [Desktop σ] in
/-- An opening that is given up is reported with the number of events held back until then. -/
theorem expire_of_awaited {name : String} {generation : Nat} {s : Scene σ}
    (h : (s.expire name generation).1 = true) :
    (s.expire name generation).2.handshake = s.handshake.giveUp name ∧
      (s.expire name generation).2.journal =
        s.journal ++ [.report (.openTimedOut name (s.fleet.backlog.count name))] ∧
      (s.expire name generation).2.fleet.tally =
        { s.fleet.tally with openTimeouts := s.fleet.tally.openTimeouts + 1 } := by
  obtain ⟨hawaited, hholding⟩ := (expire_fst name generation s).mp h
  unfold expire
  rw [if_pos hawaited]
  dsimp only
  rw [if_pos hholding]
  exact ⟨rfl, rfl, rfl⟩

omit [Desktop σ] in
/-- An opening that is not given up leaves roster, backlog and numbering as they are; at most its
own number is forgotten, and only if nothing is held back for the satellite any more. -/
theorem expire_of_not_awaited {name : String} {generation : Nat} {s : Scene σ}
    (h : (s.expire name generation).1 = false) :
    (s.expire name generation).2.handshake = s.handshake ∨
      s.fleet.isHolding name = false ∧ (s.expire name generation).2.handshake =
        { s.handshake with awaited := s.handshake.awaited.erase name } := by
  unfold expire at h ⊢
  split at h
  · next hawaited =>
    rw [if_pos hawaited]
    dsimp only at h ⊢
    split at h
    · cases h
    · next hh =>
      rw [if_neg hh]
      exact .inr ⟨by simpa using hh, rfl⟩
  · next hawaited =>
    rw [if_neg hawaited]
    exact .inl rfl

/-! ## Registering and flushing -/

/-- A window that registers is entered, and telling it things changes nothing of that. -/
theorem handshake_register (name : String) (w : WindowId) (s : Scene σ) :
    (s.register name w).handshake = s.handshake.register name w := by
  have hentered : (s.alter fun f =>
      { f with roster := f.roster.upsert ⟨name, w⟩, awaited := f.awaited.erase name }).handshake =
        s.handshake.register name w := rfl
  unfold register
  dsimp only
  generalize s.alter _ = t at hentered ⊢
  rw [handshake_report]
  split <;> simp only [handshake_deliver, hentered]

/-- Hold back no more events for a satellite. -/
def letGo (name : String) (s : Scene σ) : Scene σ :=
  s.alter fun f => { f with backlog := f.backlog.release name }

/-- A flush lets go of what is held back first, and then hands it to the live windows. -/
theorem flush_eq (name : String) (s : Scene σ) : s.flush name =
    if (s.fleet.backlog.held name).isEmpty then s.letGo name
    else (((s.fleet.roster.live s.isAlive name).map Entry.window).foldl
      (fun t w => t.deliverAll name w ((s.fleet.backlog.held name).map .event))
      (s.letGo name)).report (.flushed name (s.fleet.backlog.held name).length) := rfl

/-- A flush lets go of the queue of its satellite. -/
theorem handshake_flush (name : String) (s : Scene σ) :
    (s.flush name).handshake = s.handshake.flush name := by
  rw [flush_eq]
  split
  · rfl
  · rw [handshake_report, handshake_foldl _ (fun t w => handshake_deliverAll name w _ t)]
    rfl

/-! ## Broadcasts -/

/-- Offering a message in turn leaves the handshake as it was. -/
@[simp] theorem handshake_offer (m : Message) (l : List Entry) (s : Scene σ) :
    (offer m l s).2.handshake = s.handshake := by
  induction l generalizing s with
  | nil => rfl
  | cons e rest ih =>
    unfold offer
    dsimp only
    split
    · exact ih s.elapse
    · split
      · rw [ih, handshake_deliver, handshake_elapse]
      · exact ih s.elapse

/-- Sweeping hands nothing on. -/
theorem discreet_sweep (s : Scene σ) : Discreet s s.sweep :=
  (writes_sweep (fun _ => False) s).discreet fun _ he => he.isDiscreet fun _ => False.elim

/-- It takes those off the roster whose windows are dead. -/
theorem handshake_sweep (s : Scene σ) : s.sweep.handshake =
    { s.handshake with roster := (s.fleet.roster.removeDead s.isAlive).2 } :=
  handshake_reportEvicted _ _

/-- Dropping entries hands nothing on. -/
theorem discreet_evict (dead : List Entry) (s : Scene σ) : Discreet s (s.evict dead) :=
  (writes_evict (fun _ => False) dead s).discreet fun _ he => he.isDiscreet fun _ => False.elim

omit [Desktop σ] in
/-- It takes them off the roster. -/
theorem handshake_evict (dead : List Entry) (s : Scene σ) : (s.evict dead).handshake =
    { s.handshake with roster := s.handshake.roster.removeEntries dead } :=
  handshake_reportEvicted _ _

/-- The broadcast of a message that is no event is discreet. -/
theorem discreet_broadcast {m : Message} (hm : m.event? = none) (s : Scene σ) :
    Discreet s (s.broadcast m) :=
  (writes_broadcast m s).discreet fun _ => Effect.OfTelling.isDiscreet fun n hn => by rw [hn, hm]

/-- A broadcast takes entries off the roster and changes nothing else of the handshake. -/
theorem handshake_broadcast (m : Message) (s : Scene σ) :
    (s.broadcast m).handshake =
      { s.handshake with
        roster := (s.fleet.roster.removeDead s.isAlive).2.removeEntries
          (offer m s.sweep.fleet.roster.entries s.sweep).1 } := by
  show (evict (offer m s.sweep.fleet.roster.entries s.sweep).1
    (offer m s.sweep.fleet.roster.entries s.sweep).2).handshake = _
  rw [handshake_evict, handshake_offer, handshake_sweep]

/-- After the broadcast of an event nothing leaves for the outside any more. -/
theorem discreet_broadcast_dispatchEvent (e : Event) (s : Scene σ) :
    Discreet (s.broadcast (.event e)) (s.dispatchEvent e) := by
  unfold dispatchEvent
  generalize s.broadcast (.event e) = t
  exact (discreet_alter _ t).trans (discreet_alter _ _)

/-- After its broadcast an event is held back wherever events are held back. -/
theorem handshake_dispatchEvent (e : Event) (s : Scene σ) :
    (s.dispatchEvent e).handshake = (s.broadcast (.event e)).handshake.holdBack e := rfl

/-- A command hands no event on. -/
theorem discreet_dispatchCommand (c : Command) (s : Scene σ) :
    Discreet s (s.dispatchCommand c) :=
  (writes_dispatchCommand c s).discreet fun _ => Effect.OfTelling.isDiscreet fun m hm => by
    rw [hm]
    rfl

/-- Beyond its broadcast it leaves the handshake as it was. -/
theorem handshake_dispatchCommand (c : Command) (s : Scene σ) :
    (s.dispatchCommand c).handshake = (s.broadcast (.command c.id)).handshake := rfl

end Scene

end SatelliteWindows
