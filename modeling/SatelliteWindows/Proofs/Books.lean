import SatelliteWindows.Proofs.Broadcast

/-!
# The books

What is counted is written nowhere else: counts are raised by hand, beside what is done to windows
and beside what is reported. This module keeps the books of every operation. `Entered` says that
the counts were raised by exactly what was written down on the way, and that whatever is done to the
outside and has to be reported was reported. Operations that neither pass on what was held back nor
drop entries are routine, and they leave alone what a fleet works with.
-/

namespace SatelliteWindows

namespace Tally

instance : Add Tally where
  add a b := {
    opensRequested := a.opensRequested + b.opensRequested
    reactivations := a.reactivations + b.reactivations
    eventsDispatched := a.eventsDispatched + b.eventsDispatched
    eventsBuffered := a.eventsBuffered + b.eventsBuffered
    commandsDispatched := a.commandsDispatched + b.commandsDispatched
    commandsDropped := a.commandsDropped + b.commandsDropped
    deliveriesFailed := a.deliveriesFailed + b.deliveriesFailed
    deadEvicted := a.deadEvicted + b.deadEvicted
    openTimeouts := a.openTimeouts + b.openTimeouts }

/-- Counts are added one by one. -/
theorem add_eq (a b : Tally) : a + b = {
    opensRequested := a.opensRequested + b.opensRequested
    reactivations := a.reactivations + b.reactivations
    eventsDispatched := a.eventsDispatched + b.eventsDispatched
    eventsBuffered := a.eventsBuffered + b.eventsBuffered
    commandsDispatched := a.commandsDispatched + b.commandsDispatched
    commandsDropped := a.commandsDropped + b.commandsDropped
    deliveriesFailed := a.deliveriesFailed + b.deliveriesFailed
    deadEvicted := a.deadEvicted + b.deadEvicted
    openTimeouts := a.openTimeouts + b.openTimeouts } := rfl

/-- Counts add up to the same, however they are grouped. -/
protected theorem add_assoc (a b c : Tally) : a + b + c = a + (b + c) := by
  simp only [add_eq, Nat.add_assoc]

/-- Nothing is added by counts of nothing. -/
protected theorem add_zero (a : Tally) : a + {} = a := rfl

/-- Where nothing was counted before, only what is added counts. -/
protected theorem zero_add (a : Tally) : {} + a = a := by
  simp only [add_eq, Nat.zero_add]

end Tally

namespace Activity

/-- The satellite whose window is reported as asked for, with the size of the window. -/
def opening? : Activity → Option (String × UInt32 × UInt32)
  | opening name width height => some (name, width, height)
  | _ => none

/-- The satellite that is reported as brought to the front. -/
def reactivated? : Activity → Option String
  | reactivated name => some name
  | _ => none

/-- The satellite for which events are reported as passed on, with their number. -/
def flushed? : Activity → Option (String × Nat)
  | flushed name count => some (name, count)
  | _ => none

/-- The satellite whose entry is reported as dropped. -/
def evicted? : Activity → Option String
  | evicted name => some name
  | _ => none

/-- The satellite for which a message is reported as not taken, with the operation that the message
asked for and the reason. -/
def deliveryFailed? : Activity → Option (String × String × String)
  | deliveryFailed name operation error => some (name, operation, error)
  | _ => none

/-- Whether an activity is neither counted nor tells of a window that was asked for or of events
that were passed on. -/
def isPlain : Activity → Bool
  | registered .. | closed .. | allClosed .. | childOpened .. | childClosed .. => true
  | _ => false

end Activity

/-- Whether an effect is neither counted nor has to be reported. -/
def Effect.isPlain : Effect → Bool
  | raise .. | focus .. | close .. => true
  | report activity => activity.isPlain
  | delivery .. | openRequest .. => false

namespace Journal

/-- What a journal reports of one kind. -/
def reported {α : Type} (kind : Activity → Option α) (j : Journal) : List α :=
  j.activities.filterMap kind

/-- What two journals report is reported in the one, and then in the other. -/
@[simp] theorem reported_append {α : Type} (kind : Activity → Option α) (j k : Journal) :
    reported kind (j ++ k) = reported kind j ++ reported kind k := by
  rw [reported, activities_append, List.filterMap_append]
  rfl

/-- The messages that windows did not take, each with the satellite it was for, the operation it
asked for and the reason. -/
def refusals (j : Journal) : List (String × String × String) :=
  j.attempts.filterMap fun a => a.fault.map fun f => (a.name, a.message.operation, f.message)

/-- So it is with the messages that were not taken. -/
@[simp] theorem refusals_append (j k : Journal) :
    refusals (j ++ k) = refusals j ++ refusals k := by
  simp [refusals, attempts]

/-- What there is to count in a journal. -/
def tally (j : Journal) : Tally where
  opensRequested := j.openRequests.length
  reactivations := (j.reported Activity.reactivated?).length
  deliveriesFailed := j.refusals.length
  deadEvicted := (j.reported Activity.evicted?).length
  openTimeouts := j.timeouts.length

/-- What was done in two stretches counts as much as both together. -/
theorem tally_append (j k : Journal) : tally (j ++ k) = tally j + tally k := by
  simp [tally, Tally.add_eq]

/-- A journal tells all: every window that was asked for is reported, with its satellite and its
size, and so is every message that was not taken, with its operation and the reason. -/
structure TellsAll (j : Journal) : Prop where
  /-- Windows that were asked for. -/
  openings : j.reported Activity.opening? =
    j.openRequests.map fun q => (q.name, q.size.width, q.size.height)
  /-- Messages that were not taken. -/
  refusals : j.reported Activity.deliveryFailed? = j.refusals

/-- If two stretches were reported in full, both together are. -/
theorem TellsAll.append {j k : Journal} (hj : j.TellsAll) (hk : k.TellsAll) :
    (j ++ k).TellsAll where
  openings := by
    rw [reported_append, openRequests_append, List.map_append, hj.openings, hk.openings]
  refusals := by rw [reported_append, refusals_append, hj.refusals, hk.refusals]

/-- A journal reports nothing of events that were passed on and of entries that were dropped. -/
structure Plain (j : Journal) : Prop where
  /-- No events were passed on. -/
  flushed : j.reported Activity.flushed? = []
  /-- No entries were dropped. -/
  evicted : j.reported Activity.evicted? = []

/-- If neither stretch has to do with a backlog or a dead entry, both together have not. -/
theorem Plain.append {j k : Journal} (hj : j.Plain) (hk : k.Plain) : (j ++ k).Plain where
  flushed := by rw [reported_append, hj.flushed, hk.flushed, List.append_nil]
  evicted := by rw [reported_append, hj.evicted, hk.evicted, List.append_nil]

end Journal

/-! ## What is written down of broadcasts -/

namespace Lot

open Journal

/-- A turn in which a message was not taken is counted and reported as that, and as nothing else. -/
theorem tally_effects (m : Message) (e : Entry) (lot : Lot) :
    Journal.tally (lot.effects m e) = { deliveriesFailed := lot.failures } := by
  cases lot with
  | passedOver | dead => rfl
  | handed fault => cases fault <;> rfl

/-- A message that was not taken in a turn was reported. -/
theorem tellsAll_effects (m : Message) (e : Entry) (lot : Lot) :
    TellsAll (lot.effects m e) := by
  cases lot with
  | passedOver | dead => exact ⟨rfl, rfl⟩
  | handed fault => cases fault <;> exact ⟨rfl, rfl⟩

/-- In a turn nothing is reported of the backlog or of entries. -/
theorem plain_effects (m : Message) (e : Entry) (lot : Lot) : Plain (lot.effects m e) := by
  cases lot with
  | passedOver | dead => exact ⟨rfl, rfl⟩
  | handed fault => cases fault <;> exact ⟨rfl, rfl⟩

/-- In a turn no window is asked for. -/
theorem openRequests_effects (m : Message) (e : Entry) (lot : Lot) :
    openRequests (lot.effects m e) = [] := by
  cases lot with
  | passedOver | dead => rfl
  | handed fault => cases fault <;> rfl

end Lot

namespace Round

open Journal

/-- What is written down of a round is written down turn by turn. -/
theorem effects_cons (m : Message) (x : Entry × Lot) (lots : List (Entry × Lot)) :
    effects m (x :: lots) = x.2.effects m x.1 ++ effects m lots := List.flatMap_cons

/-- The messages that were not taken in a round are counted. -/
theorem tally_effects (m : Message) (lots : List (Entry × Lot)) :
    Journal.tally (effects m lots) = { deliveriesFailed := failures lots } := by
  induction lots with
  | nil => rfl
  | cons x rest ih =>
    rw [effects_cons, tally_append, Lot.tally_effects, ih]
    simp [failures, Tally.add_eq]

/-- Every message that was not taken in a round was reported. -/
theorem tellsAll_effects (m : Message) (lots : List (Entry × Lot)) :
    TellsAll (effects m lots) := by
  induction lots with
  | nil => exact ⟨rfl, rfl⟩
  | cons x rest ih =>
    rw [effects_cons]
    exact (x.2.tellsAll_effects m x.1).append ih

/-- In a round nothing is reported of the backlog or of entries. -/
theorem plain_effects (m : Message) (lots : List (Entry × Lot)) : Plain (effects m lots) := by
  induction lots with
  | nil => exact ⟨rfl, rfl⟩
  | cons x rest ih =>
    rw [effects_cons]
    exact (x.2.plain_effects m x.1).append ih

/-- In a round no window is asked for. -/
theorem openRequests_effects (m : Message) (lots : List (Entry × Lot)) :
    openRequests (effects m lots) = [] := by
  induction lots with
  | nil => rfl
  | cons x rest ih => rw [effects_cons, openRequests_append, Lot.openRequests_effects, ih]; rfl

end Round

/-- What a dispatch is counted for, besides what is written down of it. -/
def Happening.charge (h : Handshake) : Happening → Tally
  | dispatched _ => { eventsDispatched := 1, eventsBuffered := h.backlog.size }
  | commanded _ => { commandsDispatched := 1, commandsDropped := h.backlog.size }
  | _ => {}

/-- What a fleet works with besides what the handshake depends on and what is counted. -/
structure Provisions where
  /-- The kind of window that looks after the fleet. -/
  role : Role
  /-- Where that window runs. -/
  platform : Platform
  /-- The session. -/
  session : Payload
  /-- The parameters last supplied for each satellite. -/
  startup : NameMap Payload
  /-- What can be called. -/
  calls : CallTable Call

/-- What a fleet works with. -/
def Fleet.provisions (f : Fleet) : Provisions :=
  ⟨f.role, f.platform, f.session, f.startup, f.calls⟩

namespace Scene

open Journal

variable {σ : Type}

/-- The news are all that was written down from one scene to another. They tell all, and exactly
what they say was counted. -/
structure Entered (news : Journal) (s t : Scene σ) : Prop where
  /-- What was written down. -/
  journal : t.journal = s.journal ++ news
  /-- What was counted. -/
  tally : t.fleet.tally = s.fleet.tally + Journal.tally news
  /-- Every window that was asked for took a number. -/
  generation : t.fleet.generation = s.fleet.generation + news.openRequests.length
  /-- What had to be reported was reported. -/
  tellsAll : news.TellsAll

/-- What is entered in two stretches is entered in both together. -/
theorem Entered.trans {a b : Journal} {s t u : Scene σ} (hst : Entered a s t)
    (htu : Entered b t u) : Entered (a ++ b) s u where
  journal := by rw [htu.journal, hst.journal, List.append_assoc]
  tally := by rw [htu.tally, hst.tally, tally_append, Tally.add_assoc]
  generation := by
    have hfirst := hst.generation
    have hsecond := htu.generation
    rw [openRequests_append, List.length_append]
    omega
  tellsAll := hst.tellsAll.append htu.tellsAll

/-- The books were kept, events that were held back were not passed on, no entries were dropped, and
the fleet works with the same. -/
structure Routine (s t : Scene σ) : Prop where
  /-- What was written down and counted. -/
  entered : ∃ news : Journal, Entered news s t ∧ news.Plain
  /-- What the fleet works with. -/
  provisions : t.fleet.provisions = s.fleet.provisions

/-- Nothing was written down and nothing was counted. -/
theorem entered_nil {s t : Scene σ} (journal : t.journal = s.journal)
    (tally : t.fleet.tally = s.fleet.tally)
    (generation : t.fleet.generation = s.fleet.generation) : Entered [] s t :=
  ⟨journal.trans (List.append_nil _).symm, tally, generation, ⟨rfl, rfl⟩⟩

/-- To do nothing that is written down or counted is routine. -/
theorem Routine.of_silent {s t : Scene σ} (journal : t.journal = s.journal)
    (tally : t.fleet.tally = s.fleet.tally) (generation : t.fleet.generation = s.fleet.generation)
    (provisions : t.fleet.provisions = s.fleet.provisions) : Routine s t :=
  ⟨⟨[], entered_nil journal tally generation, ⟨rfl, rfl⟩⟩, provisions⟩

/-- To do nothing at all is routine. -/
theorem Routine.refl (s : Scene σ) : Routine s s := .of_silent rfl rfl rfl rfl

/-- Routine work after routine work is routine. -/
theorem Routine.trans {s t u : Scene σ} (hst : Routine s t) (htu : Routine t u) : Routine s u := by
  obtain ⟨⟨a, ha, hplain⟩, hsame⟩ := hst
  obtain ⟨⟨b, hb, hplain'⟩, hsame'⟩ := htu
  exact ⟨⟨a ++ b, ha.trans hb, hplain.append hplain'⟩, hsame'.trans hsame⟩

/-- A step repeated over a list is routine if it is so each time. -/
theorem routine_foldl {α : Type} {step : Scene σ → α → Scene σ}
    (hstep : ∀ s a, Routine s (step s a)) (l : List α) (s : Scene σ) :
    Routine s (l.foldl step s) := by
  induction l generalizing s with
  | nil => exact .refl s
  | cons a rest ih => exact (hstep s a).trans (ih (step s a))

/-- An effect that need not be counted is written down, whatever becomes of the desktop. -/
theorem routine_record {e : Effect} (he : e.isPlain = true) (s : Scene σ) (world : σ) :
    Routine s ({ s with world := world }.record e) := by
  have hnews : Journal.tally [e] = {} ∧ TellsAll [e] ∧ Plain [e] ∧ openRequests [e] = [] := by
    cases e with
    | delivery | openRequest => cases he
    | raise | focus | close => exact ⟨rfl, ⟨rfl, rfl⟩, ⟨rfl, rfl⟩, rfl⟩
    | report a =>
      cases a with
      | registered | closed | allClosed | childOpened | childClosed =>
        exact ⟨rfl, ⟨rfl, rfl⟩, ⟨rfl, rfl⟩, rfl⟩
      | opening | reactivated | flushed | evicted | deliveryFailed | openTimedOut => cases he
  obtain ⟨htally, htells, hplain, hrequests⟩ := hnews
  refine ⟨⟨[e], ⟨rfl, ?_, ?_, htells⟩, hplain⟩, rfl⟩
  · rw [htally, Tally.add_zero]
    rfl
  · rw [hrequests]
    rfl

/-- A report that need not be counted is routine. -/
theorem routine_report {a : Activity} (ha : a.isPlain = true) (s : Scene σ) :
    Routine s (s.report a) := by
  have hplain : (Effect.report a).isPlain = true := ha
  exact routine_record hplain s s.world

variable [Desktop σ]

/-- To bring a window to the front is routine. -/
theorem routine_focus (w : WindowId) (s : Scene σ) : Routine s (s.focus w) :=
  routine_record rfl s _

/-- To close a window is routine, whether it closes or not. -/
theorem routine_closeWindow (w : WindowId) (s : Scene σ) : Routine s (s.closeWindow w).2 :=
  routine_record rfl s _

/-- To have the shell bring a window to the front is routine. -/
theorem routine_raise (windowName : String) (s : Scene σ) : Routine s (s.raise windowName) :=
  routine_record rfl s _

/-- A message that is not taken is counted and reported. -/
theorem routine_deliver (name : String) (w : WindowId) (m : Message) (s : Scene σ) :
    Routine s (s.deliver name w m) := by
  rw [deliver_eq]
  dsimp only
  generalize Lot.handed (Desktop.deliver w m s.world).1 = lot
  refine ⟨⟨lot.effects m ⟨name, w⟩, ⟨rfl, ?_, ?_, lot.tellsAll_effects m _⟩,
    lot.plain_effects m _⟩, rfl⟩
  · rw [Lot.tally_effects]
    rfl
  · rw [Lot.openRequests_effects]
    rfl

/-- To hand messages to a window is routine: those that it does not take are counted as they are
reported. -/
theorem routine_deliverAll (name : String) (w : WindowId) (ms : List Message) (s : Scene σ) :
    Routine s (s.deliverAll name w ms) :=
  routine_foldl (fun s m => routine_deliver name w m s) ms s

/-- To close windows is routine. -/
theorem routine_closeWindows (ws : List WindowId) (s : Scene σ) :
    Routine s (s.closeWindows ws) :=
  routine_foldl (fun s w => routine_closeWindow w s) ws s

/-! ## Openings -/

/-- A window that is brought to the front is counted, told and reported. -/
theorem routine_reactivate (name : String) (w : WindowId) (params : Option Payload)
    (s : Scene σ) : Routine s (s.reactivate name w params) := by
  have hafter : s.reactivate name w params =
      ((s.count fun t => { t with reactivations := t.reactivations + 1 }).deliver name w
        (.reactivated params)).record (.report (.reactivated name)) := rfl
  rw [hafter, deliver_eq]
  dsimp only [count, alter]
  generalize Lot.handed (Desktop.deliver w (.reactivated params) s.world).1 = lot
  refine ⟨⟨lot.effects (.reactivated params) ⟨name, w⟩ ++ [.report (.reactivated name)],
    ⟨?_, ?_, ?_, (lot.tellsAll_effects _ _).append ⟨rfl, rfl⟩⟩,
    (lot.plain_effects _ _).append ⟨rfl, rfl⟩⟩, rfl⟩
  · exact List.append_assoc _ _ _
  · have hreport : Journal.tally [.report (.reactivated name)] = { reactivations := 1 } := rfl
    rw [tally_append, Lot.tally_effects, hreport]
    simp [record, Tally.add_eq]
  · rw [openRequests_append, Lot.openRequests_effects]
    rfl

/-- A window that is asked for takes a number, is counted and reported. -/
theorem entered_openAnew (name : String) (params : Option Payload) (placement : Placement)
    (s : Scene σ) :
    ∃ news : Journal, Entered news s (s.openAnew name params placement).2 ∧ news.Plain := by
  refine ⟨[.openRequest (s.requestFor name placement)
      (Desktop.openWindow (s.requestFor name placement) s.world).1,
    .report (.opening name (s.requestFor name placement).size.width
      (s.requestFor name placement).size.height)], ⟨?_, rfl, rfl, ⟨rfl, rfl⟩⟩, ⟨rfl, rfl⟩⟩
  simp [openAnew, requestWindow, report, record, alter]

/-- Either an opening is routine and changes nothing of the handshake, or it comes down to asking
for a window, once everything that is routine has been done. -/
theorem openPlaced_routine (name : String) (params : Option Payload) (placement : Placement)
    (s : Scene σ) :
    (Calm s (s.openPlaced name params placement).2 ∧
      Routine s (s.openPlaced name params placement).2) ∨
    ∃ t, Calm s t ∧ Routine s t ∧
      (s.openPlaced name params placement).2 = (t.openAnew name params placement).2 := by
  unfold openPlaced
  cases s.fleet.role with
  | satellite => exact .inl ⟨.refl s, .refl s⟩
  | main =>
    dsimp only
    cases s.find? name with
    | none => exact .inr ⟨s, .refl s, .refl s, rfl⟩
    | some w =>
      dsimp only
      cases s.fleet.platform.reactivation with
      | hostActivate =>
        exact .inl ⟨(calm_raise _ s).trans (calm_reactivate name w params _),
          (routine_raise _ s).trans (routine_reactivate name w params _)⟩
      | refocus =>
        exact .inl ⟨(calm_focus w s).trans (calm_reactivate name w params _),
          (routine_focus w s).trans (routine_reactivate name w params _)⟩
      | reopen =>
        exact .inr ⟨_, calm_deliver rfl name w s, routine_deliver name w _ s, rfl⟩

/-- The same holds of a forced reopening. -/
theorem forceReopen_routine (name : String) (params : Option Payload) (s : Scene σ) :
    (Calm s (s.forceReopen name params).2 ∧ Routine s (s.forceReopen name params).2) ∨
    ∃ t placement, Calm s t ∧ Routine s t ∧
      (s.forceReopen name params).2 = (t.openAnew name params placement).2 := by
  unfold forceReopen
  cases s.find? name with
  | none => exact .inl ⟨.refl s, .refl s⟩
  | some w =>
    dsimp only
    cases Desktop.geometry s.world w with
    | error f => exact .inl ⟨.refl s, .refl s⟩
    | ok g =>
      dsimp only
      have hcalm : Calm s ((s.deliver name w .pendingReactivate).closeWindow w).2 :=
        (calm_deliver rfl name w s).trans (calm_closeWindow w _)
      have hroutine : Routine s ((s.deliver name w .pendingReactivate).closeWindow w).2 :=
        (routine_deliver name w _ s).trans (routine_closeWindow w _)
      rcases openPlaced_routine name params (.restore g)
        ((s.deliver name w .pendingReactivate).closeWindow w).2 with ⟨hc, hr⟩ | ⟨t, hc, hr, heq⟩
      · exact .inl ⟨hcalm.trans hc, hroutine.trans hr⟩
      · exact .inr ⟨t, _, hcalm.trans hc, hroutine.trans hr, heq⟩

/-- To activate a satellite is routine. -/
theorem routine_activate (name : String) (s : Scene σ) : Routine s (s.activate name) := by
  unfold activate
  split
  · exact routine_raise _ s
  · split
    · exact routine_focus _ s
    · exact .refl s

/-! ## Closing and giving up -/

/-- To close a satellite is routine. -/
theorem routine_closeSatellite (name : String) (s : Scene σ) :
    Routine s (s.closeSatellite name) := by
  have hforget : Routine s (s.alter fun f =>
      { f with awaited := f.awaited.erase name, backlog := f.backlog.release name }) :=
    .of_silent rfl rfl rfl rfl
  unfold closeSatellite
  dsimp only
  generalize s.alter _ = t at hforget ⊢
  refine hforget.trans ?_
  cases t.find? name with
  | none => exact .refl t
  | some w =>
    dsimp only
    have hclose := routine_closeWindow w t
    cases hc : t.closeWindow w with
    | mk fault u =>
      rw [hc] at hclose
      cases fault with
      | none => exact hclose.trans (routine_report rfl u)
      | some f => exact hclose

/-- To close all satellites is routine. -/
theorem routine_closeAll (s : Scene σ) : Routine s s.closeAll := by
  unfold closeAll
  dsimp only [Roster.removeAll]
  generalize s.fleet.roster.entries = gone
  -- the scenes on the way are kept abstract: how windows are closed one by one is said elsewhere
  have hgone : Routine s (s.alter fun f => { f with roster := Roster.empty }) :=
    .of_silent rfl rfl rfl rfl
  generalize s.alter _ = t at hgone ⊢
  have hclosed := routine_closeWindows (gone.map Entry.window) t
  generalize t.closeWindows _ = u at hclosed ⊢
  have hcleared : Routine u (u.alter fun f =>
      { f with backlog := Backlog.empty, awaited := NameMap.empty }) :=
    .of_silent rfl rfl rfl rfl
  generalize u.alter _ = v at hcleared ⊢
  exact hgone.trans (hclosed.trans (hcleared.trans (routine_report rfl v)))

omit [Desktop σ] in
/-- An opening that is given up is counted and reported. -/
theorem routine_expire (name : String) (generation : Nat) (s : Scene σ) :
    Routine s (s.expire name generation).2 := by
  unfold expire
  split
  · dsimp only
    split
    · exact ⟨⟨[.report (.openTimedOut name (s.fleet.backlog.count name))],
        ⟨rfl, rfl, rfl, ⟨rfl, rfl⟩⟩, ⟨rfl, rfl⟩⟩, rfl⟩
    · exact .of_silent rfl rfl rfl rfl
  · exact .refl s

/-! ## Registering and passing on -/

/-- To register a satellite is routine. -/
theorem routine_register (name : String) (w : WindowId) (s : Scene σ) :
    Routine s (s.register name w) := by
  have hroster : Routine s (s.alter fun f =>
      { f with roster := f.roster.upsert ⟨name, w⟩, awaited := f.awaited.erase name }) :=
    .of_silent rfl rfl rfl rfl
  unfold register
  dsimp only
  generalize s.alter _ = t at hroster ⊢
  refine hroster.trans ((routine_deliver name w (.setSession t.fleet.session) t).trans ?_)
  split
  · exact (routine_deliver name w _ _).trans (routine_report rfl _)
  · exact routine_report rfl _

/-- What a flush reports: how many events were held back, if there were any. -/
def flushReport (name : String) (s : Scene σ) : List (String × Nat) :=
  if (s.fleet.backlog.held name).isEmpty then [] else [(name, s.fleet.backlog.count name)]

omit [Desktop σ] in
/-- An empty queue is not reported, which takes nothing from the number of events. -/
theorem sum_flushReport (name : String) (s : Scene σ) :
    ((s.flushReport name).map Prod.snd).sum = s.fleet.backlog.count name := by
  unfold flushReport
  split
  · next hempty =>
    rw [Backlog.count, List.isEmpty_iff.mp hempty]
    rfl
  · rfl

/-- What was held back is reported with its number, if there was anything; nothing of that is
counted. -/
theorem entered_flush (name : String) (s : Scene σ) :
    (∃ news : Journal, Entered news s (s.flush name) ∧
      news.reported Activity.flushed? = s.flushReport name ∧
      news.reported Activity.evicted? = []) ∧
    (s.flush name).fleet.provisions = s.fleet.provisions := by
  have hlet : Routine s (s.letGo name) := .of_silent rfl rfl rfl rfl
  rw [flush_eq, flushReport]
  split
  · obtain ⟨⟨news, hentered, hplain⟩, hsame⟩ := hlet
    exact ⟨⟨news, hentered, hplain.flushed, hplain.evicted⟩, hsame⟩
  · have hpassed := hlet.trans (routine_foldl (fun t w => routine_deliverAll name w
      ((s.fleet.backlog.held name).map .event) t)
      ((s.fleet.roster.live s.isAlive name).map Entry.window) (s.letGo name))
    obtain ⟨⟨news, hentered, hplain⟩, hsame⟩ := hpassed
    generalize List.foldl _ _ _ = t at hentered hsame ⊢
    have hreport : Entered [.report (.flushed name (s.fleet.backlog.held name).length)] t
        (t.report (.flushed name (s.fleet.backlog.held name).length)) :=
      ⟨rfl, rfl, rfl, ⟨rfl, rfl⟩⟩
    refine ⟨⟨_, hentered.trans hreport, ?_, ?_⟩, hsame⟩
    · rw [reported_append, hplain.flushed]
      rfl
    · rw [reported_append, hplain.evicted]
      rfl

/-! ## Broadcasts -/

/-- What is written down of dropped entries is counted and need not be reported twice. -/
theorem tally_evictions (dead : List Entry) :
    Journal.tally (evictions dead) = { deadEvicted := dead.length } ∧
      TellsAll (evictions dead) ∧ reported Activity.flushed? (evictions dead) = [] ∧
      reported Activity.evicted? (evictions dead) = dead.map Entry.name ∧
      openRequests (evictions dead) = [] := by
  induction dead with
  | nil => exact ⟨rfl, ⟨rfl, rfl⟩, rfl, rfl, rfl⟩
  | cons e rest ih =>
    obtain ⟨htally, htells, hflushed, hevicted, hrequests⟩ := ih
    have hcons : evictions (e :: rest) = [.report (.evicted e.name)] ++ evictions rest := rfl
    have hfirst : Journal.tally [.report (.evicted e.name)] = { deadEvicted := 1 } := rfl
    rw [hcons]
    refine ⟨?_, TellsAll.append ⟨rfl, rfl⟩ htells, ?_, ?_, ?_⟩
    · rw [tally_append, htally, hfirst]
      simp [Tally.add_eq, Nat.add_comm]
    · rw [reported_append, hflushed]
      rfl
    · rw [reported_append, hevicted]
      rfl
    · rw [openRequests_append, hrequests]
      rfl

/-- A broadcast counts and reports every entry that it drops and every message that is not taken. -/
theorem Announced.entered {m : Message} {s t : Scene σ} {lots : List (Entry × Lot)}
    (h : Announced m s t lots) :
    ∃ news : Journal, Entered news s t ∧ news.reported Activity.flushed? = [] ∧
      news.reported Activity.evicted? =
        (s.deadEntries ++ Round.found lots).map Entry.name := by
  obtain ⟨htally, htells, hflushed, hevicted, hrequests⟩ := tally_evictions s.deadEntries
  obtain ⟨htally', htells', hflushed', hevicted', hrequests'⟩ :=
    tally_evictions (Round.found lots)
  have hround := Round.plain_effects m lots
  refine ⟨evictions s.deadEntries ++ Round.effects m lots ++ evictions (Round.found lots),
    ⟨?_, ?_, ?_, ?_⟩, ?_, ?_⟩
  · rw [h.journal]
    simp
  · rw [h.fleet, tally_append, tally_append, htally, htally', Round.tally_effects]
    simp [Tally.add_eq, Nat.add_assoc]
  · rw [h.fleet, openRequests_append, openRequests_append, hrequests, hrequests',
      Round.openRequests_effects]
    rfl
  · exact (htells.append (Round.tellsAll_effects m lots)).append htells'
  · rw [reported_append, reported_append, hflushed, hflushed', hround.flushed]
    rfl
  · rw [reported_append, reported_append, hevicted, hevicted', hround.evicted, List.append_nil,
      List.map_append]

/-- What a dispatch does once its message has been broadcast: it is charged for, and nothing is
written down any more. -/
structure Charged (x : Happening) (s t : Scene σ) : Prop where
  /-- Nothing is written down. -/
  journal : t.journal = s.journal
  /-- The dispatch is counted, with what is held back or lost. -/
  tally : t.fleet.tally = s.fleet.tally + x.charge s.handshake
  /-- No window is asked for. -/
  generation : t.fleet.generation = s.fleet.generation
  /-- The same windows are registered. -/
  roster : t.fleet.roster = s.fleet.roster
  /-- The fleet works with the same. -/
  provisions : t.fleet.provisions = s.fleet.provisions

/-- Dispatching an event costs what is held back, besides the round it makes. -/
theorem charged_dispatchEvent (e : Event) (s : Scene σ) :
    Charged (.dispatched e) (s.broadcast (.event e)) (s.dispatchEvent e) := by
  unfold dispatchEvent
  -- what the broadcast has done does not matter here
  generalize s.broadcast (.event e) = t
  exact ⟨rfl, rfl, rfl, rfl, rfl⟩

/-- Dispatching a command costs what is dropped, besides the round it makes. -/
theorem charged_dispatchCommand (c : Command) (s : Scene σ) :
    Charged (.commanded c) (s.broadcast (.command c.id)) (s.dispatchCommand c) := by
  unfold dispatchCommand
  generalize s.broadcast (.command c.id) = t
  exact ⟨rfl, rfl, rfl, rfl, rfl⟩

end Scene

end SatelliteWindows
