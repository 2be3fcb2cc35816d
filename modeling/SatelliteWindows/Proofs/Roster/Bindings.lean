import Mathlib.Data.List.Perm.Basic
import SatelliteWindows.Proofs.History
import SatelliteWindows.Proofs.Isolation.Seat

/-!
# The roster as an ordered map

A roster binds each satellite to one window at most and keeps the bindings in the order in which
satellites first registered. Entries of dead windows stay until somebody looks, and what is found
dead is taken off later, when the satellite may be bound to another window already. This module says
what each change makes of the bindings, whatever changes were made before and whichever windows have
died meanwhile, and that a fleet changes its roster in no other way.
-/

namespace SatelliteWindows

namespace Roster

/-- A change of a roster. Which windows are alive is asked at the moment of the change. -/
inductive Edit where
  /-- A window registers. -/
  | upsert (new : Entry)
  /-- The entries of dead windows are taken off. -/
  | removeDead (alive : WindowId → Bool)
  /-- Given entries are taken off. -/
  | removeEntries (gone : List Entry)
  /-- The entries of a satellite are taken off. -/
  | remove (name : String)
  /-- All entries are taken off. -/
  | removeAll

/-- The roster after a change. -/
def edit (r : Roster) : Edit → Roster
  | .upsert new => r.upsert new
  | .removeDead alive => (r.removeDead alive).2
  | .removeEntries gone => r.removeEntries gone
  | .remove name => (r.remove name).2
  | .removeAll => r.removeAll.2

/-- The roster after a list of changes. -/
def edits (r : Roster) (changes : List Edit) : Roster := changes.foldl edit r

/-- Changes are made one after the other. -/
theorem edits_append (r : Roster) (changes more : List Edit) :
    r.edits (changes ++ more) = (r.edits changes).edits more := List.foldl_append

/-! ## What is taken off and what is kept -/

/-- Entries are divided into those that are taken off and those that are kept. -/
structure Divides (old taken kept : List Entry) (goes : Entry → Prop) : Prop where
  /-- What is taken off keeps its order. -/
  taken_order : taken.Sublist old
  /-- What is kept keeps its order. -/
  kept_order : kept.Sublist old
  /-- Nothing is lost and nothing is there twice. -/
  whole : (taken ++ kept).Perm old
  /-- Exactly the entries that are to go are taken off. -/
  mem_taken : ∀ e, e ∈ taken ↔ e ∈ old ∧ goes e
  /-- Exactly the others are kept. -/
  mem_kept : ∀ e, e ∈ kept ↔ e ∈ old ∧ ¬ goes e

/-- A test divides entries into those that pass it and those that do not. -/
theorem divides_filter (p : Entry → Bool) (old : List Entry) :
    Divides old (old.filter p) (old.filter fun e => !p e) fun e => p e = true where
  taken_order := List.filter_sublist
  kept_order := List.filter_sublist
  whole := List.filter_append_perm p old
  mem_taken e := List.mem_filter
  mem_kept e := by
    rw [List.mem_filter]
    simp

/-- Dropping dead entries takes those whose windows are dead and keeps the others. -/
theorem divides_removeDead (alive : WindowId → Bool) (r : Roster) :
    Divides r.entries (r.removeDead alive).1 (r.removeDead alive).2.entries
      fun e => alive e.window = false := by
  have hdivides := divides_filter (fun e => !alive e.window) r.entries
  simp only [Bool.not_not, Bool.not_eq_true'] at hdivides
  exact hdivides

/-- Dropping certain entries takes those that are there and keeps the others. -/
theorem divides_removeEntries (gone : List Entry) (r : Roster) :
    ∃ taken, Divides r.entries taken (r.removeEntries gone).entries fun e => e ∈ gone := by
  have hdivides := divides_filter (fun e => decide (e ∈ gone)) r.entries
  simp only [decide_eq_true_eq, ← decide_not] at hdivides
  exact ⟨_, hdivides⟩

/-- Removing a satellite takes its entry and keeps the others. -/
theorem divides_remove (name : String) (r : Roster) :
    Divides r.entries (r.remove name).1 (r.remove name).2.entries fun e => e.name = name := by
  have hdivides := divides_filter (fun e => e.name == name) r.entries
  simp only [beq_iff_eq] at hdivides
  exact hdivides

/-- Removing all takes all. -/
theorem divides_removeAll (r : Roster) :
    Divides r.entries r.removeAll.1 r.removeAll.2.entries fun _ => True where
  taken_order := List.Sublist.refl _
  kept_order := List.nil_sublist _
  whole := by
    rw [removeAll, empty, List.append_nil]
  mem_taken e := (and_iff_left trivial).symm
  mem_kept e := by simp [removeAll, empty]

/-- Entries that are not there need not be taken off. -/
theorem removeEntries_cons_of_not_mem {e : Entry} {r : Roster} (he : e ∉ r.entries)
    (gone : List Entry) : r.removeEntries (e :: gone) = r.removeEntries gone := by
  unfold removeEntries
  refine congrArg Roster.mk (List.filter_congr fun d hd => ?_)
  have hne : d ≠ e := fun heq => he (heq ▸ hd)
  simp [hne]

/-! ## What registering does -/

/-- Behind entries of other names, the entry of a name is replaced where it is. -/
theorem putEntry_append {new old : Entry} {before : List Entry} (after : List Entry)
    (hbefore : ∀ e ∈ before, e.name ≠ new.name) (hold : old.name = new.name) :
    putEntry new (before ++ old :: after) = before ++ new :: after := by
  induction before with
  | nil => simp [putEntry, hold]
  | cons e rest ih =>
    have hne : e.name ≠ new.name := hbefore e List.mem_cons_self
    have hrest := ih fun d hd => hbefore d (List.mem_cons_of_mem e hd)
    rw [List.cons_append, putEntry, if_neg hne, hrest, List.cons_append]

/-- The entry of a name that is not there yet is put at the end. -/
theorem putEntry_of_fresh {new : Entry} {l : List Entry} (h : ∀ e ∈ l, e.name ≠ new.name) :
    putEntry new l = l ++ [new] := by
  induction l with
  | nil => rfl
  | cons e rest ih =>
    have hne : e.name ≠ new.name := h e List.mem_cons_self
    have hrest := ih fun d hd => h d (List.mem_cons_of_mem e hd)
    rw [putEntry, if_neg hne, hrest, List.cons_append]

/-- A window that registers takes the place of the one that was registered before. -/
theorem entries_upsert_of_split {r : Roster} (hu : r.Unique) {before after : List Entry}
    {old : Entry} (hsplit : r.entries = before ++ old :: after) (w : WindowId) :
    (r.upsert ⟨old.name, w⟩).entries = before ++ ⟨old.name, w⟩ :: after := by
  have hold : old ∈ r.entries := by
    rw [hsplit]
    exact List.mem_append_right before List.mem_cons_self
  unfold upsert
  split
  · next hmem =>
    -- The same window registers again, and it is the one that is there.
    have hsame : ⟨old.name, w⟩ = old := hu.eq_of_name_eq hmem hold rfl
    rw [hsame]
    exact hsplit
  · have hnodup : (r.entries.map Entry.name).Nodup := hu
    rw [hsplit, List.map_append] at hnodup
    obtain ⟨-, -, hapart⟩ := List.nodup_append.mp hnodup
    have hbefore : ∀ e ∈ before, e.name ≠ old.name := fun e he =>
      hapart e.name (List.mem_map_of_mem he) old.name List.mem_cons_self
    dsimp only
    rw [hsplit]
    exact putEntry_append after hbefore rfl

/-- A satellite that registers for the first time comes last. -/
theorem entries_upsert_of_fresh {r : Roster} {name : String} (h : name ∉ r.names)
    (w : WindowId) : (r.upsert ⟨name, w⟩).entries = r.entries ++ [⟨name, w⟩] := by
  have hfresh : ∀ e ∈ r.entries, e.name ≠ name := fun e he heq =>
    h (heq ▸ List.mem_map_of_mem he)
  have hnew : (⟨name, w⟩ : Entry) ∉ r.entries := fun hmem => hfresh _ hmem rfl
  rw [upsert, if_neg hnew]
  exact putEntry_of_fresh hfresh

/-! ## Ordered maps -/

/-- A roster is an ordered map from satellites to windows, and remains one under every change: the
seat of a satellite is the window that it is bound to. -/
structure OrderedMap (r : Roster) : Prop where
  /-- No satellite is bound twice. -/
  names : r.names.Nodup
  /-- The bindings are what is on the roster. -/
  seat : ∀ name w, r.seat? name = some w ↔ ⟨name, w⟩ ∈ r.entries
  /-- A satellite that is bound already is bound to the new window in its old place, and all other
  bindings stay where they are. -/
  upsert_old : ∀ before old after w, r.entries = before ++ old :: after →
    (r.upsert ⟨old.name, w⟩).entries = before ++ ⟨old.name, w⟩ :: after
  /-- A satellite that is not bound yet is bound behind all others. -/
  upsert_new : ∀ name w, name ∉ r.names →
    (r.upsert ⟨name, w⟩).entries = r.entries ++ [⟨name, w⟩]
  /-- Exactly the bindings to dead windows are taken off. -/
  removeDead : ∀ alive, Divides r.entries (r.removeDead alive).1 (r.removeDead alive).2.entries
    fun e => alive e.window = false
  /-- Exactly the given bindings are taken off. -/
  removeEntries : ∀ gone, ∃ taken, Divides r.entries taken (r.removeEntries gone).entries
    fun e => e ∈ gone
  /-- Where a satellite is bound to another window, or to none, nothing is taken off for it. -/
  rebound : ∀ name w gone, r.seat? name ≠ some w →
    r.removeEntries (⟨name, w⟩ :: gone) = r.removeEntries gone
  /-- Exactly the binding of a satellite is taken off. -/
  remove : ∀ name, Divides r.entries (r.remove name).1 (r.remove name).2.entries
    fun e => e.name = name
  /-- Everything is taken off. -/
  removeAll : Divides r.entries r.removeAll.1 r.removeAll.2.entries fun _ => True
  /-- The window that is found is the one that the satellite is bound to, if it is alive. -/
  find : ∀ alive name, r.find? alive name = (r.seat? name).filter alive
  /-- The live entries are the binding, if its window is alive. -/
  live : ∀ alive name, r.live alive name = (r.find? alive name).toList.map (Entry.mk name)

/-- A roster on which no name occurs twice is an ordered map. -/
theorem Unique.orderedMap {r : Roster} (hu : r.Unique) : r.OrderedMap where
  names := hu
  seat _ _ := seat?_eq_some hu
  upsert_old _ _ _ w hsplit := entries_upsert_of_split hu hsplit w
  upsert_new _ w hfresh := entries_upsert_of_fresh hfresh w
  removeDead alive := divides_removeDead alive r
  removeEntries gone := divides_removeEntries gone r
  rebound _ _ gone hseat :=
    removeEntries_cons_of_not_mem (fun hmem => hseat ((seat?_eq_some hu).mpr hmem)) gone
  remove name := divides_remove name r
  removeAll := divides_removeAll r
  find := find?_eq_filter hu
  live := live_eq hu

/-- No change binds a satellite twice. -/
theorem Unique.edit {r : Roster} (hu : r.Unique) (change : Edit) : (r.edit change).Unique := by
  cases change with
  | upsert new => exact hu.upsert new
  | removeDead alive => exact hu.of_sublist List.filter_sublist
  | removeEntries gone => exact hu.of_sublist List.filter_sublist
  | remove name => exact hu.of_sublist List.filter_sublist
  | removeAll => exact unique_empty

/-- No change puts a satellite on the roster twice. -/
theorem Unique.edits {r : Roster} (hu : r.Unique) (changes : List Edit) :
    (r.edits changes).Unique := by
  induction changes generalizing r with
  | nil => exact hu
  | cons change rest ih => exact ih (hu.edit change)

end Roster

/-- What happens to a fleet besides broadcasts changes the roster at most by a window that registers
or by taking everything off. -/
theorem Turn.roster_edits {x : Happening} {h k : Handshake} (turn : Turn x h k)
    (hx : x.broadcasts = false) : ∃ changes, k.roster = h.roster.edits changes := by
  cases turn with
  | registered name w => exact ⟨[.upsert ⟨name, w⟩], rfl⟩
  | allClosed => exact ⟨[.removeAll], rfl⟩
  | dispatched | commanded => cases hx
  | opened | flushed | closed | expired | idle | lapsed => exact ⟨[], rfl⟩

namespace Scene

variable {σ : Type} [Desktop σ]

/-- A broadcast takes entries off the roster twice: those of windows that are dead at first, and
those of windows that are found dead on the way. -/
theorem roster_edits_broadcast (m : Message) (s : Scene σ) :
    ∃ changes, (s.broadcast m).handshake.roster = s.fleet.roster.edits changes := by
  rw [handshake_broadcast]
  exact ⟨[.removeDead s.isAlive, .removeEntries _], rfl⟩

/-- Whatever happens to a fleet changes its roster step by step. -/
theorem roster_edits_move (m : Move σ) (s : Scene σ) :
    ∃ changes, (s.move m).fleet.roster = s.fleet.roster.edits changes := by
  cases hx : (s.happening m).broadcasts with
  | false => exact (s.turn_move m).roster_edits hx
  | true =>
    rcases move_of_broadcasts hx with ⟨e, rfl⟩ | ⟨c, rfl⟩
    · exact roster_edits_broadcast (.event e) s
    · exact roster_edits_broadcast (.command c.id) s

/-- Whatever is asked on a run, its roster comes about by such changes. -/
theorem roster_edits_run (moves : List (Move σ)) (s : Scene σ) :
    ∃ changes, (s.run moves).fleet.roster = s.fleet.roster.edits changes := by
  induction moves generalizing s with
  | nil => exact ⟨[], rfl⟩
  | cons m rest ih =>
    obtain ⟨first, hfirst⟩ := roster_edits_move m s
    obtain ⟨later, hlater⟩ := ih (s.move m)
    refine ⟨first ++ later, ?_⟩
    rw [Roster.edits_append, ← hfirst]
    exact hlater

/-- Whatever changes were made to a roster, it is an ordered map from satellites to windows. The
roster of a fleet comes about by such changes, whatever has happened to the fleet, so no satellite
is ever on it twice, be its window alive or dead. -/
theorem roster_ordered (changes : List Roster.Edit) (role : Role) (platform : Platform)
    (session : Payload) (world : σ) (moves : List (Move σ)) :
    let reached := ((start role platform session world).run moves).fleet.roster
    (Roster.empty.edits changes).OrderedMap ∧
      (∃ made, reached = Roster.empty.edits made) ∧ reached.names.Nodup := by
  intro reached
  obtain ⟨made, hmade⟩ := roster_edits_run moves (start role platform session world)
  have hreached : reached = Roster.empty.edits made := hmade
  refine ⟨(Roster.unique_empty.edits changes).orderedMap, ⟨made, hreached⟩, ?_⟩
  rw [hreached]
  exact Roster.unique_empty.edits made

end Scene

end SatelliteWindows
