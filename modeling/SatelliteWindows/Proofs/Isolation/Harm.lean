import SatelliteWindows.Proofs.Broadcast
import SatelliteWindows.Proofs.Isolation.Health

/-!
# Messages that harm other windows

A window that is handed an event may take windows of other satellites with it. Whether any did so
while a request was served can be read off the journal: what is written down tells step by step what
became of the desktop. Windows are spared if no message that was handed to another window changed
the health of one of them. Only events can do that, so all requests that hand out no event spare all
windows.
-/

namespace SatelliteWindows

/-- What is done to the desktop when an effect is written down. -/
def Effect.redo : Effect → Simulation → Simulation
  | delivery _ w m _, d => (d.deliver w m).2
  | openRequest r _, d => (d.openWindow r).2
  | raise windowName _, d => (d.raise windowName).2
  | focus w _, d => (d.focus w).2
  | close w _, d => (d.close w).2
  | report _, d => d

/-- An effect is no message to another window that changes the health of certain windows. -/
def Effect.Spares (own : List WindowId) (e : Effect) (d : Simulation) : Prop :=
  ∀ a ∈ e.attempt?, a.window ∉ own → ∀ v ∈ own, (e.redo d).health? v = d.health? v

namespace Journal

/-- What becomes of a desktop when everything that is written down is done to it. -/
def redo (j : Journal) (d : Simulation) : Simulation := j.foldl (fun d e => e.redo d) d

/-- No message to another window changed the health of certain windows when it was handed over. -/
def Spares (own : List WindowId) : Journal → Simulation → Prop
  | [], _ => True
  | e :: rest, d => e.Spares own d ∧ Spares own rest (e.redo d)

variable {own : List WindowId} {j k : Journal} {d : Simulation}

/-- What was written down in two stretches can be done again in two. -/
theorem redo_append (j k : Journal) (d : Simulation) : (j ++ k).redo d = k.redo (j.redo d) :=
  List.foldl_append

/-- Windows are spared in two stretches if they are spared in the one and in the other. -/
theorem spares_append : Spares own (j ++ k) d ↔ j.Spares own d ∧ k.Spares own (j.redo d) := by
  induction j generalizing d with
  | nil => exact iff_of_eq (true_and _).symm
  | cons e rest ih => exact (and_congr_right fun _ => ih).trans and_assoc.symm

instance decidableSpares (own : List WindowId) :
    (j : Journal) → (d : Simulation) → Decidable (j.Spares own d)
  | [], _ => inferInstanceAs (Decidable True)
  | e :: rest, d =>
    have := decidableSpares own rest (e.redo d)
    inferInstanceAs (Decidable ((∀ a ∈ e.attempt?, a.window ∉ own → ∀ v ∈ own,
      (e.redo d).health? v = d.health? v) ∧ Spares own rest (e.redo d)))

end Journal

/-- A message that is no event harms nobody. -/
theorem Simulation.health?_deliver_of_not_event {m : Message} (hm : m.event? = none) (w : WindowId)
    (d : Simulation) (v : WindowId) : (d.deliver w m).2.health? v = d.health? v := by
  rw [(of_nature? (nature?_deliver w m d v)).1, hm]
  simp

/-- Where no event was handed over, all windows were spared. -/
theorem Journal.spares_of_passed {j : Journal} (h : j.passed = []) (own : List WindowId)
    (d : Simulation) : j.Spares own d := by
  induction j generalizing d with
  | nil => trivial
  | cons e rest ih =>
    obtain ⟨hfirst, hrest⟩ : passed [e] = [] ∧ passed rest = [] := by
      rw [← List.append_eq_nil_iff, ← passed_append]
      exact h
    refine ⟨fun a ha _ v _ => ?_, ih hrest _⟩
    cases e with
    | delivery name w m fault =>
      have hm : m.event? = none := by simpa [passed, attempts, Effect.attempt?] using hfirst
      exact Simulation.health?_deliver_of_not_event hm w d v
    | openRequest | raise | focus | close | report => cases ha

namespace Scene

variable {own : List WindowId} {s t u : Scene Simulation}

/-- What was written down between two scenes tells what became of the desktop. -/
def Traced (s t : Scene Simulation) : Prop :=
  ∃ j : Journal, t.journal = s.journal ++ j ∧ t.world = j.redo s.world

/-- No message that was handed to another window between two scenes changed the health of certain
windows. -/
def Spares (own : List WindowId) (s t : Scene Simulation) : Prop :=
  Journal.Spares own (t.journal.drop s.journal.length) s.world

instance (own : List WindowId) (s t : Scene Simulation) : Decidable (Spares own s t) :=
  inferInstanceAs (Decidable (Journal.Spares own _ _))

/-- What was done without handing out events spared all windows. -/
theorem Discreet.spares (h : Discreet s t) (own : List WindowId) : Spares own s t := by
  obtain ⟨j, hj⟩ := h.journal
  have hpassed : Journal.passed j = [] := by simpa [← hj] using h.passed
  unfold Scene.Spares
  rw [← hj, List.drop_left]
  exact Journal.spares_of_passed hpassed own s.world

/-- Windows that were spared on the whole way were so on both parts of it. -/
theorem Spares.split (h : Spares own s u) (hst : Traced s t) (htu : Traced t u) :
    Spares own s t ∧ Spares own t u := by
  obtain ⟨j, hj, hworld⟩ := hst
  obtain ⟨k, hk, -⟩ := htu
  unfold Scene.Spares at h ⊢
  rw [hk, hj, List.append_assoc, List.drop_left, Journal.spares_append] at h
  rw [hk, hj, List.drop_left, ← hj, List.drop_left, hworld]
  exact h

/-- A message that is handed to another window, and spares certain windows, leaves their health
alone. -/
theorem Spares.health?_deliver {name : String} {w : WindowId} {m : Message}
    (h : Spares own s (s.deliver name w m)) (hw : w ∉ own) {v : WindowId} (hv : v ∈ own) :
    (s.world.deliver w m).2.health? v = s.world.health? v := by
  unfold Scene.Spares at h
  rw [deliver_eq] at h
  dsimp only at h
  rw [List.drop_left] at h
  exact h.1 _ rfl hw v hv

/-! ## Steps that are written down -/

/-- Where nothing was done nothing is to be told. -/
theorem Traced.refl (s : Scene Simulation) : Traced s s := ⟨[], (List.append_nil _).symm, rfl⟩

/-- What is told of two stretches is told of both together. -/
theorem Traced.trans (hst : Traced s t) (htu : Traced t u) : Traced s u := by
  obtain ⟨j, hj, hworld⟩ := hst
  obtain ⟨k, hk, hworld'⟩ := htu
  refine ⟨j ++ k, by rw [hk, hj, List.append_assoc], ?_⟩
  rw [hworld', hworld, Journal.redo_append]

/-- What a fleet remembers is nothing to the desktop. -/
theorem traced_alter (f : Fleet → Fleet) (s : Scene Simulation) : Traced s (s.alter f) :=
  .refl s

/-- Nor is a report. -/
theorem traced_report (a : Activity) (s : Scene Simulation) : Traced s (s.report a) :=
  ⟨[.report a], rfl, rfl⟩

/-- A message that is handed over is written down. -/
theorem traced_deliver (name : String) (w : WindowId) (m : Message) (s : Scene Simulation) :
    Traced s (s.deliver name w m) := by
  rw [deliver_eq]
  refine ⟨_, rfl, ?_⟩
  cases (Desktop.deliver w m s.world).1 <;> rfl

/-- Steps that are all written down may be repeated. -/
theorem traced_foldl {α : Type} {step : Scene Simulation → α → Scene Simulation}
    (hstep : ∀ t a, Traced t (step t a)) (l : List α) (s : Scene Simulation) :
    Traced s (l.foldl step s) := by
  induction l generalizing s with
  | nil => exact .refl s
  | cons a rest ih => exact (hstep s a).trans (ih (step s a))

/-- Messages that are handed over are written down. -/
theorem traced_deliverAll (name : String) (w : WindowId) (ms : List Message)
    (s : Scene Simulation) : Traced s (s.deliverAll name w ms) :=
  traced_foldl (fun t m => traced_deliver name w m t) ms s

/-- Reports on entries do nothing to the desktop. -/
theorem traced_reportEvicted (dead : List Entry) (s : Scene Simulation) :
    Traced s (s.reportEvicted dead) :=
  traced_foldl (fun t _ => (traced_alter _ t).trans (traced_report _ _)) dead s

/-- Nor does sweeping. -/
theorem traced_sweep (s : Scene Simulation) : Traced s s.sweep :=
  (traced_alter _ s).trans (traced_reportEvicted _ _)

/-- Nor does dropping entries. -/
theorem traced_evict (dead : List Entry) (s : Scene Simulation) : Traced s (s.evict dead) :=
  (traced_alter _ s).trans (traced_reportEvicted _ _)

/-- Whatever a message does to the desktop when it is offered in turn is written down. -/
theorem traced_offer (m : Message) (l : List Entry) (s : Scene Simulation) :
    Traced s (offer m l s).2 := by
  induction l generalizing s with
  | nil => exact .refl s
  | cons e rest ih =>
    unfold offer
    dsimp only
    split
    · exact ih s.elapse
    · split
      · exact (traced_deliver e.name e.window m s).trans (ih _)
      · exact ih s.elapse

/-- Windows that a broadcast spares are spared while the message goes round. -/
theorem Spares.round {m : Message} (h : Spares own s (s.broadcast m)) :
    Spares own s.sweep (offer m s.sweep.fleet.roster.entries s.sweep).2 := by
  have hevict := traced_evict (offer m s.sweep.fleet.roster.entries s.sweep).1
    (offer m s.sweep.fleet.roster.entries s.sweep).2
  have hround := (h.split (traced_sweep s) ((traced_offer m _ _).trans hevict)).2
  exact (hround.split (traced_offer m _ _) hevict).1

end Scene

end SatelliteWindows
