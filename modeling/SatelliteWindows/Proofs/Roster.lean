import Mathlib.Data.List.Nodup
import SatelliteWindows.Roster

/-!
# One window for each satellite

Registering replaces the entry of a name that is there already, and everything else only takes
entries away. So no name is registered twice, and the window found under a name is the only one.
-/

namespace SatelliteWindows.Roster

/-- No satellite is registered twice. -/
def Unique (r : Roster) : Prop := r.names.Nodup

/-- No satellite is twice on an empty roster. -/
theorem unique_empty : Roster.empty.Unique := List.nodup_nil

/-- Putting an entry in adds its name only where the name is not there yet. -/
theorem map_name_putEntry (new : Entry) (l : List Entry) :
    (putEntry new l).map Entry.name =
      if new.name ∈ l.map Entry.name then l.map Entry.name else l.map Entry.name ++ [new.name] := by
  induction l with
  | nil => simp [putEntry]
  | cons e rest ih =>
    by_cases he : e.name = new.name
    · simp [putEntry, he]
    · have hne : ¬ new.name = e.name := fun h => he h.symm
      simp only [putEntry, if_neg he, List.map_cons, ih, List.mem_cons, hne, false_or]
      split <;> simp

/-- An entry that was put in is there. -/
theorem mem_putEntry_self (new : Entry) (l : List Entry) : new ∈ putEntry new l := by
  induction l with
  | nil => simp [putEntry]
  | cons e rest ih =>
    unfold putEntry
    split
    · simp
    · exact List.mem_cons_of_mem e ih

/-- Putting an entry in leaves the entries of other names where they are. -/
theorem mem_putEntry_of_name_ne {new e : Entry} {l : List Entry} (he : e ∈ l)
    (hne : e.name ≠ new.name) : e ∈ putEntry new l := by
  induction l with
  | nil => cases he
  | cons d rest ih =>
    unfold putEntry
    split
    · next hd =>
      rcases List.mem_cons.mp he with heq | hrest
      · exact absurd (heq ▸ hd) hne
      · exact List.mem_cons_of_mem new hrest
    · rcases List.mem_cons.mp he with heq | hrest
      · exact heq ▸ List.mem_cons_self
      · exact List.mem_cons_of_mem d (ih hrest)

/-- An entry that is put in is there. -/
theorem mem_upsert_self (new : Entry) (r : Roster) : new ∈ (r.upsert new).entries := by
  unfold upsert
  split
  · assumption
  · exact mem_putEntry_self new r.entries

/-- The entries of other satellites are still there. -/
theorem mem_upsert_of_name_ne {new e : Entry} {r : Roster} (he : e ∈ r.entries)
    (hne : e.name ≠ new.name) : e ∈ (r.upsert new).entries := by
  unfold upsert
  split
  · exact he
  · exact mem_putEntry_of_name_ne he hne

namespace Unique

variable {r : Roster}

/-- Registering keeps every name unique. -/
theorem upsert (h : r.Unique) (new : Entry) : (r.upsert new).Unique := by
  unfold Roster.upsert
  split
  · exact h
  · unfold Unique names
    rw [map_name_putEntry]
    split
    · exact h
    · next hnew =>
      refine List.nodup_append.mpr ⟨h, by simp, ?_⟩
      intro a ha b hb
      rw [List.mem_singleton.mp hb]
      exact fun heq => hnew (heq ▸ ha)

/-- Taking entries away keeps every name unique. -/
theorem of_sublist (h : r.Unique) {t : Roster} (hs : t.entries.Sublist r.entries) : t.Unique :=
  h.sublist (hs.map Entry.name)

/-- Two entries of one name are the same entry. -/
theorem eq_of_name_eq (h : r.Unique) {e d : Entry} (he : e ∈ r.entries) (hd : d ∈ r.entries)
    (hname : e.name = d.name) : e = d :=
  List.inj_on_of_nodup_map h he hd hname

end Unique

/-- Among entries of different names there is one of a given name at most. -/
theorem filter_name_length_le (l : List Entry) (h : (l.map Entry.name).Nodup) (name : String)
    (p : Entry → Bool) : (l.filter fun e => e.name == name && p e).length ≤ 1 := by
  induction l with
  | nil => simp
  | cons e rest ih =>
    obtain ⟨hfresh, hrest⟩ := List.nodup_cons.mp h
    rw [List.filter_cons]
    split
    · next he =>
      have hename : e.name = name := by simpa using (Bool.and_eq_true_iff.mp he).1
      have hnone : rest.filter (fun d => d.name == name && p d) = [] := by
        refine List.filter_eq_nil_iff.mpr fun d hd hp => hfresh ?_
        have hdname : d.name = name := by simpa using (Bool.and_eq_true_iff.mp hp).1
        exact List.mem_map.mpr ⟨d, hd, hdname.trans hename.symm⟩
      simp [hnone]
    · exact ih hrest

/-- A satellite has one live entry at most. -/
theorem Unique.live_length_le {r : Roster} (h : r.Unique) (alive : WindowId → Bool)
    (name : String) : (r.live alive name).length ≤ 1 :=
  filter_name_length_le r.entries h name fun e => alive e.window

/-- A satellite has no live entry, or exactly one. -/
theorem Unique.live_cases {r : Roster} (h : r.Unique) (alive : WindowId → Bool) (name : String) :
    r.live alive name = [] ∨ ∃ w, r.live alive name = [⟨name, w⟩] := by
  have hname : ∀ e ∈ r.live alive name, e.name = name := fun e he => by
    simpa using (Bool.and_eq_true_iff.mp (List.mem_filter.mp he).2).1
  have hlength := h.live_length_le alive name
  cases hl : r.live alive name with
  | nil => exact .inl rfl
  | cons e rest =>
    rw [hl] at hlength hname
    have hrest : rest = [] := List.length_eq_zero_iff.mp (by simpa using hlength)
    refine .inr ⟨e.window, ?_⟩
    rw [hrest, ← hname e List.mem_cons_self]

/-- A live entry is the only live one of its name. -/
theorem Unique.live_eq_singleton {r : Roster} (h : r.Unique) {alive : WindowId → Bool}
    {e : Entry} (he : e ∈ r.entries) (ha : alive e.window = true) : r.live alive e.name = [e] := by
  have hmem : e ∈ r.live alive e.name := List.mem_filter.mpr ⟨he, by simp [ha]⟩
  obtain ⟨d, hd⟩ := List.length_eq_one_iff.mp
    (Nat.le_antisymm (h.live_length_le alive e.name) (List.length_pos_of_mem hmem))
  rw [hd] at hmem ⊢
  rw [List.mem_singleton.mp hmem]

end SatelliteWindows.Roster
