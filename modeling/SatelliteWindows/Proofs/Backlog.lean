import Mathlib.Algebra.GroupWithZero.Nat
import SatelliteWindows.Backlog

/-!
# How much is held back

The number of events that are held back altogether changes with the queues: a queue that is let go
takes its length away, a queue that is begun adds nothing, and an event adds one for each queue.
-/

namespace SatelliteWindows

namespace Backlog

/-- The number of events held back is the sum of the lengths of the queues. -/
theorem total_eq_sum (b : Backlog) : b.total = (b.queues.entries.map fun e => e.2.length).sum := by
  have hfold : ∀ (l : List (String × List Event)) (n : Nat),
      l.foldl (fun n e => n + e.2.length) n = n + (l.map fun e => e.2.length).sum := by
    intro l
    induction l with
    | nil => exact fun n => rfl
    | cons e rest ih =>
      intro n
      rw [List.foldl_cons, ih, List.map_cons, List.sum_cons, Nat.add_assoc]
  rw [total, hfold, Nat.zero_add]

/-- The lengths of the queues of one name and of all other names are those of all. -/
theorem sum_filter_add_lookup (name : String) (l : List (String × List Event))
    (hl : (l.map Prod.fst).Nodup) :
    ((l.filter fun e => e.1 != name).map fun e => e.2.length).sum +
      ((l.lookup name).getD []).length = (l.map fun e => e.2.length).sum := by
  induction l with
  | nil => rfl
  | cons e rest ih =>
    obtain ⟨n, q⟩ := e
    obtain ⟨hfresh, hrest⟩ := List.nodup_cons.mp hl
    by_cases hn : n = name
    · subst hn
      have hall : rest.filter (fun e => e.1 != n) = rest := by
        refine List.filter_eq_self.mpr fun e he => ?_
        have hne : e.1 ≠ n := fun heq => hfresh (List.mem_map.mpr ⟨e, he, heq⟩)
        simpa using hne
      simp [hall, Nat.add_comm]
    · have hlookup : (name == n) = false := by simpa using fun h => hn h.symm
      rw [List.filter_cons_of_pos (by simpa using hn), List.lookup_cons, hlookup, List.map_cons,
        List.map_cons, List.sum_cons, List.sum_cons, ← ih hrest, Nat.add_assoc]

/-- What is held back for a satellite is what is taken away when it is released. -/
theorem total_release (b : Backlog) (name : String) :
    (b.release name).total + b.count name = b.total := by
  rw [total_eq_sum, total_eq_sum]
  exact sum_filter_add_lookup name b.queues.entries b.queues.nodup

/-- A queue that is put in takes the place of the queue of its name. -/
theorem sum_putEntry (name : String) (queue : List Event) (l : List (String × List Event)) :
    ((NameMap.putEntry name queue l).map fun e => e.2.length).sum +
      ((l.lookup name).getD []).length = (l.map fun e => e.2.length).sum + queue.length := by
  induction l with
  | nil => simp [NameMap.putEntry]
  | cons e rest ih =>
    obtain ⟨n, q⟩ := e
    -- the queue of the name is replaced where it stands, and all others stay
    by_cases hn : n = name
    · subst hn
      simp only [NameMap.putEntry, if_true, List.lookup_cons_self, Option.getD_some, List.map_cons,
        List.sum_cons]
      omega
    · have hlookup : (name == n) = false := by simpa using fun h => hn h.symm
      simp only [NameMap.putEntry, if_neg hn, List.lookup_cons, hlookup, List.map_cons,
        List.sum_cons]
      omega

/-- Holding back for a satellite from now on holds nothing back yet. -/
theorem total_hold (b : Backlog) (name : String) : (b.hold name).total = b.total := by
  unfold hold
  split
  · rfl
  · next hnot =>
    have hnone : b.queues.entries.lookup name = none := queue?_eq_none (by simpa using hnot)
    have hput := sum_putEntry name [] b.queues.entries
    rw [hnone] at hput
    rw [total_eq_sum, total_eq_sum]
    exact hput

/-- An event that is held back is held back once for every satellite that is starting up. -/
theorem total_enqueueAll (b : Backlog) (event : Event) :
    (b.enqueueAll event).total = b.total + b.size := by
  rw [total_eq_sum, total_eq_sum]
  unfold enqueueAll NameMap.mapValues size NameMap.size
  dsimp only
  induction b.queues.entries with
  | nil => rfl
  | cons e rest ih =>
    simp only [List.map_cons, List.sum_cons, List.length_append, List.length_cons,
      List.length_nil] at ih ⊢
    omega

end Backlog

end SatelliteWindows
