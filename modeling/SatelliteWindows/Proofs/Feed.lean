import Mathlib.Tactic.Common
import SatelliteWindows.Feed

/-!
# What a subscriber has to read

A feed keeps no more items than it has slots. So a subscriber finds one receipt more than that at
most, and what it reads it does not find again.
-/

namespace SatelliteWindows.Feed

variable {α : Type}

/-- How many receipts a subscriber finds when it reads all there is. -/
def unread (i : Nat) (f : Feed α) : Nat :=
  match f.cursors[i]? with
  | some (some next) => (f.available next).length
  | _ => 0

/-- A feed keeps no more than it has slots for. -/
def Bounded (f : Feed α) : Prop := f.kept.length ≤ f.slots

/-- Sending does not change how many items are kept. -/
theorem slots_send (a : α) (f : Feed α) : (f.send a).slots = f.slots := by
  unfold send
  split <;> rfl

/-- Nor does sending many. -/
theorem slots_sendAll (items : List α) (f : Feed α) : (f.sendAll items).slots = f.slots := by
  unfold sendAll
  induction items generalizing f with
  | nil => rfl
  | cons a rest ih => exact (ih (f.send a)).trans (slots_send a f)

/-- A feed that has sent an item keeps no more than it has slots for. -/
theorem Bounded.send {f : Feed α} (h : f.Bounded) (a : α) : (f.send a).Bounded := by
  unfold Feed.send
  split
  · exact h
  · show ((f.kept ++ [a]).drop ((f.kept ++ [a]).length - f.slots)).length ≤ f.slots
    rw [List.length_drop]
    omega

/-- Nor does one that has sent many. -/
theorem Bounded.sendAll {f : Feed α} (h : f.Bounded) (items : List α) :
    (f.sendAll items).Bounded := by
  unfold Feed.sendAll
  induction items generalizing f with
  | nil => exact h
  | cons a rest ih => exact ih (h.send a)

/-- A subscriber finds what is kept, and perhaps a word about what is lost. -/
theorem length_available (f : Feed α) (next : Nat) :
    (f.available next).length ≤ f.kept.length + 1 := by
  unfold available
  dsimp only
  split
  · exact Nat.le_of_eq (by rw [List.length_cons, List.length_map])
  · rw [List.length_map, List.length_drop]
    omega

/-- No subscriber has more to read than that. -/
theorem Bounded.unread_le {f : Feed α} (h : f.Bounded) (i : Nat) : f.unread i ≤ f.slots + 1 := by
  unfold unread
  split
  · exact Nat.le_trans (length_available f _) (Nat.succ_le_succ h)
  · exact Nat.zero_le _

/-! ## Reading some of it -/

/-- A subscriber that has read some items goes on behind them. -/
theorem foldl_span_items (items : List α) (next : Nat) :
    (items.map Receipt.item).foldl (fun n r => n + r.span) next = next + items.length := by
  induction items generalizing next with
  | nil => rfl
  | cons a rest ih =>
    show (rest.map Receipt.item).foldl (fun n r => n + r.span) (next + 1) = _
    rw [ih, List.length_cons]
    omega

/-- A subscriber finds the items from its next one on if all of them are kept. -/
theorem available_of_kept {f : Feed α} {next : Nat} (h : f.sent - f.kept.length ≤ next) :
    f.available next = (f.kept.drop (next - (f.sent - f.kept.length))).map .item := by
  unfold available
  exact if_neg (Nat.not_lt.mpr h)

/-- What was read is not found again. -/
theorem length_available_take (f : Feed α) (next limit : Nat) :
    ((f.available next).take limit).length + (f.available
      (((f.available next).take limit).foldl (fun n r => n + r.span) next)).length =
        (f.available next).length := by
  by_cases hlost : next < f.sent - f.kept.length
  · have havailable : f.available next =
        .lagged (f.sent - f.kept.length - next) :: f.kept.map .item := by
      unfold available
      exact if_pos hlost
    rw [havailable]
    cases limit with
    | zero =>
      rw [List.take_zero, List.foldl_nil, havailable, List.length_nil, Nat.zero_add]
    | succ n =>
      have hbehind : next + (f.sent - f.kept.length - next) = f.sent - f.kept.length := by omega
      rw [List.take_succ_cons, List.foldl_cons, ← List.map_take, foldl_span_items]
      dsimp only [Receipt.span]
      rw [hbehind, available_of_kept (Nat.le_add_right _ _)]
      simp only [List.length_cons, List.length_map, List.length_drop, List.length_take]
      omega
  · have hkept := Nat.not_lt.mp hlost
    rw [available_of_kept hkept, ← List.map_take, foldl_span_items,
      available_of_kept (Nat.le_trans hkept (Nat.le_add_right _ _))]
    simp only [List.length_map, List.length_drop, List.length_take]
    omega

/-- What a subscriber reads and what it has still to read is what it had to. -/
theorem unread_receiveSome (limit i : Nat) (f : Feed α) :
    ((f.receiveSome limit i).1.getD []).length + (f.receiveSome limit i).2.unread i =
      f.unread i := by
  unfold receiveSome
  split
  · next next hcursor =>
    have hlt : i < f.cursors.length := (List.getElem?_eq_some_iff.mp hcursor).1
    unfold unread
    dsimp only [Option.getD_some]
    rw [List.getElem?_set_self hlt, hcursor]
    exact length_available_take f next limit
  · next hnone =>
    unfold unread
    dsimp only [Option.getD_none]
    rw [List.length_nil, Nat.zero_add]

/-- Reading leaves the items as they are. -/
theorem receiveSome_eq (limit i : Nat) (f : Feed α) :
    (f.receiveSome limit i).2 = { f with cursors := (f.receiveSome limit i).2.cursors } := by
  unfold receiveSome
  split <;> rfl

end SatelliteWindows.Feed
