import SatelliteWindows.Proofs.Writing

/-!
# Discreet operations

Most operations are discreet: they give up no opening, ask for no window and pass no event on. What
was written down on the way from one scene to another places it in the narrowest of the classes of
this module that it belongs to. What a delivery passes on is described exactly.
-/

namespace SatelliteWindows

namespace Journal

/-- The openings that a journal reports as given up. -/
def timeouts (j : Journal) : List (String × Nat) := j.activities.filterMap Activity.timedOut?

/-- The events handed to windows, each with the satellite and the window it was for. -/
def passed (j : Journal) : List Attempt := j.attempts.filter fun a => a.message.event?.isSome

/-- The events handed to windows on behalf of one satellite. -/
def passedFor (name : String) (j : Journal) : List Attempt :=
  j.passed.filter fun a => a.name == name

/-- The events that it was tried to hand to a window on behalf of a satellite. -/
def tried (name : String) (j : Journal) : List Event :=
  (j.passedFor name).filterMap fun a => a.message.event?

/-- The events that a window took on behalf of a satellite. -/
def received (name : String) (w : WindowId) (j : Journal) : List Event :=
  ((j.passedFor name).filter fun a => a.window == w && a.fault.isNone).filterMap fun a =>
    a.message.event?

/-- The requests for windows of two stretches are those of the one and of the other. -/
@[simp] theorem openRequests_append (j k : Journal) :
    openRequests (j ++ k) = openRequests j ++ openRequests k := List.filterMap_append

/-- So is the activity. -/
@[simp] theorem activities_append (j k : Journal) :
    activities (j ++ k) = activities j ++ activities k := List.filterMap_append

/-- So are the openings that were given up. -/
@[simp] theorem timeouts_append (j k : Journal) :
    timeouts (j ++ k) = timeouts j ++ timeouts k := by
  simp [timeouts]

/-- So are the events that were passed on. -/
@[simp] theorem passed_append (j k : Journal) : passed (j ++ k) = passed j ++ passed k := by
  simp [passed, attempts]

/-- So are those passed on to a satellite. -/
@[simp] theorem passedFor_append (name : String) (j k : Journal) :
    passedFor name (j ++ k) = passedFor name j ++ passedFor name k := by
  simp [passedFor]

/-- So are the attempts made for a satellite. -/
@[simp] theorem tried_append (name : String) (j k : Journal) :
    tried name (j ++ k) = tried name j ++ tried name k := by
  simp [tried]

/-- So is what a window has received. -/
@[simp] theorem received_append (name : String) (w : WindowId) (j k : Journal) :
    received name w (j ++ k) = received name w j ++ received name w k := by
  simp [received]

end Journal

namespace Scene

variable {σ : Type} [Desktop σ]

/-- What was written down stays, and the desktop was only asked things. -/
structure Leads (s t : Scene σ) : Prop where
  /-- The journal was added to. -/
  journal : s.journal <+: t.journal
  /-- The desktop was asked things. -/
  world : Desktop.Reaches s.world t.world

/-- No opening was given up on the way. -/
structure Patient (s t : Scene σ) : Prop extends Leads s t where
  /-- The openings given up are the same. -/
  timeouts : t.journal.timeouts = s.journal.timeouts

/-- Nor was a window asked for. -/
structure Frugal (s t : Scene σ) : Prop extends Patient s t where
  /-- The requests for windows are the same. -/
  openRequests : t.journal.openRequests = s.journal.openRequests

/-- Nor was an event handed to a window. -/
structure Discreet (s t : Scene σ) : Prop extends Frugal s t where
  /-- The events handed to windows are the same. -/
  passed : t.journal.passed = s.journal.passed

/-- To do nothing leads nowhere else. -/
theorem Leads.refl (s : Scene σ) : Leads s s := ⟨List.prefix_rfl, .refl⟩

/-- What is led to by two stretches is led to by both together. -/
theorem Leads.trans {s t u : Scene σ} (hst : Leads s t) (htu : Leads t u) : Leads s u :=
  ⟨hst.journal.trans htu.journal, hst.world.trans htu.world⟩

/-- To do nothing is patient. -/
theorem Patient.refl (s : Scene σ) : Patient s s := ⟨.refl s, rfl⟩

/-- A patient course after a patient course is patient. -/
theorem Patient.trans {s t u : Scene σ} (hst : Patient s t) (htu : Patient t u) : Patient s u :=
  ⟨hst.toLeads.trans htu.toLeads, htu.timeouts.trans hst.timeouts⟩

/-- To do nothing is frugal. -/
theorem Frugal.refl (s : Scene σ) : Frugal s s := ⟨.refl s, rfl⟩

/-- A frugal course after a frugal course is frugal. -/
theorem Frugal.trans {s t u : Scene σ} (hst : Frugal s t) (htu : Frugal t u) : Frugal s u :=
  ⟨hst.toPatient.trans htu.toPatient, htu.openRequests.trans hst.openRequests⟩

/-- A discreet course hands no event to a satellite. -/
theorem Discreet.passedFor {s t : Scene σ} (h : Discreet s t) (name : String) :
    t.journal.passedFor name = s.journal.passedFor name := by
  unfold Journal.passedFor
  rw [h.passed]

/-- To do nothing is discreet. -/
theorem Discreet.refl (s : Scene σ) : Discreet s s := ⟨.refl s, rfl⟩

/-- A discreet course after a discreet course is discreet. -/
theorem Discreet.trans {s t u : Scene σ} (hst : Discreet s t) (htu : Discreet t u) :
    Discreet s u :=
  ⟨hst.toFrugal.trans htu.toFrugal, htu.passed.trans hst.passed⟩

/-! ## By what is written down -/

section Writes

variable {P : Effect → Prop} {s t : Scene σ}

/-- Whatever is written down is added. -/
theorem Writes.leads (h : Writes P s t) : Leads s t := by
  obtain ⟨news, hnews, -⟩ := h.journal
  exact ⟨hnews ▸ List.prefix_append _ _, h.world⟩

/-- No opening is given up unless it is reported. -/
theorem Writes.patient (h : Writes P s t)
    (hP : ∀ e, P e → e.activity?.bind Activity.timedOut? = none) : Patient s t := by
  refine ⟨h.leads, ?_⟩
  unfold Journal.timeouts Journal.activities
  rw [List.filterMap_filterMap, List.filterMap_filterMap]
  exact h.filterMap_eq hP

/-- No event is passed on unless it is handed to a window. -/
theorem Writes.passed (h : Writes P s t)
    (hP : ∀ e, P e → e.attempt?.bind (fun a => a.message.event?) = none) :
    t.journal.passed = s.journal.passed :=
  h.filter_attempts_eq fun e he a ha => by
    have hnone := hP e he
    rw [ha] at hnone
    have hmessage : a.message.event? = none := hnone
    rw [hmessage]
    rfl

/-- Neither is given up nor asked for what is not written down. -/
theorem Writes.frugal (h : Writes P s t)
    (hP : ∀ e, P e → e.activity?.bind Activity.timedOut? = none)
    (hrequest : ∀ e, P e → e.openRequest? = none) : Frugal s t :=
  ⟨h.patient hP, h.filterMap_eq hrequest⟩

end Writes

end Scene

/-- An effect that gives no opening up, asks for no window and hands no event to one. -/
structure Effect.IsDiscreet (e : Effect) : Prop where
  /-- No opening is given up. -/
  timedOut : e.activity?.bind Activity.timedOut? = none
  /-- No window is asked for. -/
  openRequest : e.openRequest? = none
  /-- No event is handed to a window. -/
  event : e.attempt?.bind (fun a => a.message.event?) = none

namespace Effect

variable {e : Effect}

/-- Openings give no opening up and hand no event to a window. -/
theorem OfOpening.quiet {name : String} (h : e.OfOpening name) :
    e.activity?.bind Activity.timedOut? = none ∧
      e.attempt?.bind (fun a => a.message.event?) = none := by
  cases e with
  | delivery other w m fault => rcases h.2 with rfl | ⟨params, rfl⟩ <;> exact ⟨rfl, rfl⟩
  | report a => exact ⟨h, rfl⟩
  | _ => exact ⟨rfl, rfl⟩

/-- Closing is discreet. -/
theorem OfClosing.isDiscreet (h : e.OfClosing) : e.IsDiscreet := by
  cases e with
  | close => exact ⟨rfl, rfl, rfl⟩
  | report a => exact ⟨h, rfl, rfl⟩
  | _ => cases h

/-- Telling gives no opening up and asks for no window. -/
theorem OfTelling.quiet {kind : Message → Prop} (h : e.OfTelling kind) :
    e.activity?.bind Activity.timedOut? = none ∧ e.openRequest? = none := by
  cases e with
  | delivery => exact ⟨rfl, rfl⟩
  | report a => exact ⟨h, rfl⟩
  | _ => cases h

/-- It is discreet if no events are told. -/
theorem OfTelling.isDiscreet {kind : Message → Prop} (hkind : ∀ m, kind m → m.event? = none)
    (h : e.OfTelling kind) : e.IsDiscreet := by
  refine ⟨h.quiet.1, h.quiet.2, ?_⟩
  cases e with
  | delivery other w m fault => exact hkind m h
  | report a => rfl
  | _ => cases h

end Effect

namespace Scene

variable {σ : Type} [Desktop σ]

/-- To write down nothing but what is discreet is discreet. -/
theorem Writes.discreet {P : Effect → Prop} {s t : Scene σ} (h : Writes P s t)
    (hP : ∀ e, P e → e.IsDiscreet) : Discreet s t :=
  ⟨h.frugal (fun e he => (hP e he).timedOut) fun e he => (hP e he).openRequest,
    h.passed fun e he => (hP e he).event⟩

/-- What a fleet remembers is discreet. -/
theorem discreet_alter (f : Fleet → Fleet) (s : Scene σ) : Discreet s (s.alter f) :=
  (writes_alter f s).discreet fun _ => id

/-- A report is discreet, unless an opening is given up. -/
theorem discreet_report (a : Activity) (s : Scene σ) (ha : a.timedOut? = none) :
    Discreet s (s.report a) :=
  (writes_report ⟨ha, rfl, rfl⟩ s).discreet fun _ => id

/-! ## Deliveries -/

/-- A message that is handed over is no request for a window. -/
theorem frugal_deliver (name : String) (w : WindowId) (m : Message) (s : Scene σ) :
    Frugal s (s.deliver name w m) :=
  (writes_deliver (P := Effect.OfTelling fun _ => True) name w m (fun _ => trivial) (fun _ => rfl)
    s).frugal (fun _ he => he.quiet.1) fun _ he => he.quiet.2

/-- A delivery is the attempt it is, if the message is an event. -/
theorem passed_deliver (name : String) (w : WindowId) (m : Message) (s : Scene σ) :
    (s.deliver name w m).journal.passed = s.journal.passed ++
      if m.event?.isSome then [⟨name, w, m, (Desktop.deliver w m s.world).1⟩] else [] := by
  have hhanded : ∀ fault : Option Fault, Journal.passed [.delivery name w m fault] =
      if m.event?.isSome then [⟨name, w, m, fault⟩] else [] := by
    intro fault
    by_cases h : m.event?.isSome <;> simp [Journal.passed, Journal.attempts, Effect.attempt?, h]
  unfold deliver
  cases Desktop.deliver w m s.world with
  | mk fault world =>
    cases fault with
    | none =>
      show Journal.passed (s.journal ++ [.delivery name w m none]) = _
      rw [Journal.passed_append, hhanded]
    | some f =>
      -- the report of the failure stands behind the delivery
      have hreported := (discreet_report (.deliveryFailed name m.operation f.message)
        (({ s with world := world }.record (.delivery name w m (some f))).count
          fun t => { t with deliveriesFailed := t.deliveriesFailed + 1 }) rfl).passed
      refine hreported.trans ?_
      show Journal.passed (s.journal ++ [.delivery name w m (some f)]) = _
      rw [Journal.passed_append, hhanded]

/-- A message that is no event is handed to a window discreetly. -/
theorem discreet_deliver {m : Message} (hm : m.event? = none) (name : String) (w : WindowId)
    (s : Scene σ) : Discreet s (s.deliver name w m) :=
  (writes_deliver (P := Effect.IsDiscreet) name w m (fun _ => ⟨rfl, rfl, hm⟩)
    (fun _ => ⟨rfl, rfl, rfl⟩) s).discreet fun _ => id

/-- Nor are several. -/
theorem frugal_deliverAll (name : String) (w : WindowId) (ms : List Message) (s : Scene σ) :
    Frugal s (s.deliverAll name w ms) := by
  induction ms generalizing s with
  | nil => exact .refl s
  | cons m rest ih => exact (frugal_deliver name w m s).trans (ih (s.deliver name w m))

end Scene

end SatelliteWindows
