import SatelliteWindows.Proofs.Roster

/-!
# The seat of a satellite

The seat of a satellite is the window that is registered for it, whether or not it is alive. Where
no satellite is registered twice, whatever is looked up on a roster for a satellite is decided by
its seat, and what happens to other entries leaves the seat alone.
-/

namespace SatelliteWindows.Roster

/-- The window that is registered for a satellite, dead or alive. -/
def seat? (name : String) (r : Roster) : Option WindowId := r.find? (fun _ => true) name

/-- Entries come from registering or were there before. -/
theorem mem_putEntry {new e : Entry} {l : List Entry} (h : e ∈ putEntry new l) :
    e = new ∨ e ∈ l := by
  induction l with
  | nil => exact .inl (List.mem_singleton.mp h)
  | cons d rest ih =>
    unfold putEntry at h
    split at h
    · exact (List.mem_cons.mp h).imp_right (List.mem_cons_of_mem d)
    · rcases List.mem_cons.mp h with rfl | hrest
      · exact .inr List.mem_cons_self
      · exact (ih hrest).imp_right (List.mem_cons_of_mem d)

/-- An entry of a roster that was put in again is that one or was there before. -/
theorem mem_upsert {new e : Entry} {r : Roster} (h : e ∈ (r.upsert new).entries) :
    e = new ∨ e ∈ r.entries := by
  unfold upsert at h
  split at h
  · exact .inr h
  · exact mem_putEntry h

/-- Part of a roster has no satellite twice either. -/
theorem unique_filter {r : Roster} (hu : r.Unique) (p : Entry → Bool) :
    Unique ⟨r.entries.filter p⟩ := hu.of_sublist List.filter_sublist

/-- The live window of a satellite is the one whose entry is on the roster. -/
theorem find?_eq_some {r : Roster} (hu : r.Unique) {alive : WindowId → Bool} {name : String}
    {w : WindowId} :
    r.find? alive name = some w ↔ ⟨name, w⟩ ∈ r.entries ∧ alive w = true := by
  have hfound : ∀ v, r.find? alive name = some v → ⟨name, v⟩ ∈ r.entries ∧ alive v = true := by
    intro v hv
    obtain ⟨e, he, rfl⟩ := Option.map_eq_some_iff.mp hv
    have hp := List.find?_some he
    simp only [Bool.and_eq_true, beq_iff_eq] at hp
    obtain ⟨rfl, halive⟩ := hp
    exact ⟨List.mem_of_find?_eq_some he, halive⟩
  refine ⟨hfound w, fun ⟨hmem, halive⟩ => ?_⟩
  cases hfind : r.find? alive name with
  | none =>
    have hnone := List.find?_eq_none.mp (Option.map_eq_none_iff.mp hfind) _ hmem
    simp [halive] at hnone
  | some v =>
    have hsame := hu.eq_of_name_eq (hfound v hfind).1 hmem rfl
    rw [Entry.mk.inj hsame |>.2]

/-- A window is registered for a satellite if the roster says so. -/
theorem seat?_eq_some {r : Roster} (hu : r.Unique) {name : String} {w : WindowId} :
    r.seat? name = some w ↔ ⟨name, w⟩ ∈ r.entries := by
  unfold seat?
  rw [find?_eq_some hu]
  exact and_iff_left rfl

/-- A satellite without a seat has no entry. -/
theorem name_ne_of_seat?_eq_none {r : Roster} {name : String} (h : r.seat? name = none) :
    ∀ e ∈ r.entries, e.name ≠ name := by
  intro e he
  have hnone := List.find?_eq_none.mp (Option.map_eq_none_iff.mp h) e he
  simpa using hnone

/-- The window that is found for a satellite is the registered one, if it is alive. -/
theorem find?_eq_filter {r : Roster} (hu : r.Unique) (alive : WindowId → Bool) (name : String) :
    r.find? alive name = (r.seat? name).filter alive := by
  ext w
  rw [find?_eq_some hu, Option.filter_eq_some_iff, seat?_eq_some hu]

/-- A satellite has one live entry at most, for the window that is found. -/
theorem live_eq {r : Roster} (hu : r.Unique) (alive : WindowId → Bool) (name : String) :
    r.live alive name = (r.find? alive name).toList.map (Entry.mk name) := by
  rcases hu.live_cases alive name with hnone | ⟨w, hw⟩
  · have hfind : r.find? alive name = none := by
      refine Option.eq_none_iff_forall_ne_some.mpr fun w hw => ?_
      obtain ⟨hmem, halive⟩ := (find?_eq_some hu).mp hw
      have hlive : ⟨name, w⟩ ∈ r.live alive name :=
        List.mem_filter.mpr ⟨hmem, by simp [halive]⟩
      rw [hnone] at hlive
      cases hlive
    rw [hnone, hfind]
    rfl
  · have hlive : ⟨name, w⟩ ∈ r.live alive name := by rw [hw]; exact List.mem_singleton_self _
    obtain ⟨hmem, halive⟩ := List.mem_filter.mp hlive
    have hfind := (find?_eq_some hu).mpr ⟨hmem, by simpa using halive⟩
    rw [hw, hfind]
    rfl

/-- Taking entries off empties a seat if its entry is among them. -/
theorem seat?_filter {r : Roster} (hu : r.Unique) (p : Entry → Bool) (name : String) :
    seat? name ⟨r.entries.filter p⟩ = (r.seat? name).filter fun w => p ⟨name, w⟩ := by
  ext w
  rw [seat?_eq_some (unique_filter hu p), Option.filter_eq_some_iff, seat?_eq_some hu,
    List.mem_filter]

/-- Registering fills the seat of the satellite that registers and leaves the others alone. -/
theorem seat?_upsert {r : Roster} (hu : r.Unique) (new : Entry) (name : String) :
    (r.upsert new).seat? name = if name = new.name then some new.window else r.seat? name := by
  split
  · next h =>
    subst h
    exact (seat?_eq_some (hu.upsert new)).mpr (mem_upsert_self new r)
  · next h =>
    ext w
    rw [seat?_eq_some (hu.upsert new), seat?_eq_some hu]
    constructor
    · intro hmem
      rcases mem_upsert hmem with heq | hmem
      · exact absurd (congrArg Entry.name heq) h
      · exact hmem
    · exact fun hmem => mem_upsert_of_name_ne hmem h

/-- An entry stands between the entries of other satellites. -/
theorem entries_of_seat? {r : Roster} (hu : r.Unique) {name : String} {w : WindowId}
    (h : r.seat? name = some w) :
    ∃ before after, r.entries = before ++ ⟨name, w⟩ :: after ∧
      (∀ e ∈ before, e.name ≠ name) ∧ ∀ e ∈ after, e.name ≠ name := by
  obtain ⟨before, after, hsplit⟩ := List.append_of_mem ((seat?_eq_some hu).mp h)
  have hnames : (before.map Entry.name ++ name :: after.map Entry.name).Nodup := by
    have hu := hu
    unfold Unique names at hu
    rw [hsplit, List.map_append] at hu
    exact hu
  obtain ⟨-, hafter, hapart⟩ := List.nodup_append.mp hnames
  refine ⟨before, after, hsplit, fun e he heq => ?_, fun e he heq => ?_⟩
  · exact hapart e.name (List.mem_map_of_mem he) name List.mem_cons_self heq
  · exact (List.nodup_cons.mp hafter).1 (heq ▸ List.mem_map_of_mem he)

end SatelliteWindows.Roster
