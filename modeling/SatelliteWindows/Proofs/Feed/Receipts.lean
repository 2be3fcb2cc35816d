import Mathlib.Algebra.GroupWithZero.Nat
import SatelliteWindows.Proofs.Feed

/-!
# What a subscriber is owed

A feed is used by many subscribers that come, read and go as they please. What one of them is owed
follows from the items that were sent since it subscribed, from how many of them it has behind it,
read or reported as lost, and from the number of items that are kept.
-/

namespace SatelliteWindows

namespace Receipt

variable {α : Type}

/-- How many items a receipt reports as lost. -/
def lost : Receipt α → Nat
  | item _ => 0
  | lagged n => n

end Receipt

namespace Feed

variable {α : Type}

/-- Something that is done with a feed. -/
inductive Usage (α : Type) where
  /-- An item is sent. -/
  | send (item : α)
  /-- Somebody subscribes. -/
  | subscribe
  /-- A subscription is given up. -/
  | unsubscribe (i : Nat)
  /-- A subscriber reads all there is. -/
  | receive (i : Nat)
  /-- A subscriber reads what there is, but no more than some number of receipts. -/
  | receiveSome (limit i : Nat)

namespace Usage

/-- The item that is sent. -/
def item? : Usage α → Option α
  | send a => some a
  | _ => none

/-- What is done if there is no other subscriber. -/
def alone? (i : Nat) : Usage α → Option (Usage α)
  | send a => some (send a)
  | receive j => if j = i then some (receive 0) else none
  | receiveSome limit j => if j = i then some (receiveSome limit 0) else none
  | subscribe | unsubscribe _ => none

/-- Whether a subscriber reads something, if there is something to read. -/
inductive Reads (i : Nat) : Usage α → Prop where
  /-- It reads all there is. -/
  | all : Reads i (receive i)
  /-- It reads some of it. -/
  | some (n : Nat) : Reads i (receiveSome (n + 1) i)

/-- What a subscriber takes of what it is owed. -/
def share (i : Nat) (u : Usage α) (owed : List (Receipt α)) : List (Receipt α) :=
  match u with
  | receive j => if j = i then owed else []
  | receiveSome limit j => if j = i then owed.take limit else []
  | _ => []

/-- A subscriber takes the first receipts that it is owed, however many. -/
theorem share_eq_take (i : Nat) (u : Usage α) (owed : List (Receipt α)) :
    ∃ n, u.share i owed = owed.take n := by
  cases u with
  | receive j =>
    by_cases hj : j = i
    · exact ⟨owed.length, by simp [share, hj]⟩
    · exact ⟨0, by simp [share, hj]⟩
  | receiveSome limit j =>
    by_cases hj : j = i
    · exact ⟨limit, by simp [share, hj]⟩
    · exact ⟨0, by simp [share, hj]⟩
  | send | subscribe | unsubscribe => exact ⟨0, rfl⟩

end Usage

/-- Use a feed. -/
def use (u : Usage α) (f : Feed α) : Feed α :=
  match u with
  | .send a => f.send a
  | .subscribe => f.subscribe.2
  | .unsubscribe i => f.unsubscribe i
  | .receive i => (f.receive i).2
  | .receiveSome limit i => (f.receiveSome limit i).2

/-- Use a feed again and again. -/
def useAll (us : List (Usage α)) (f : Feed α) : Feed α := us.foldl (fun f u => f.use u) f

/-- What a subscriber reads when a feed is used. -/
def reading (i : Nat) (u : Usage α) (f : Feed α) : List (Receipt α) :=
  match u with
  | .receive j => if j = i then (f.receive j).1.getD [] else []
  | .receiveSome limit j => if j = i then (f.receiveSome limit j).1.getD [] else []
  | _ => []

/-- What a subscriber reads while a feed is used again and again. -/
def readings (i : Nat) : List (Usage α) → Feed α → List (Receipt α)
  | [], _ => []
  | u :: rest, f => f.reading i u ++ readings i rest (f.use u)

/-- The items that are sent. -/
def sentIn (us : List (Usage α)) : List α := us.filterMap Usage.item?

/-- The items that are sent are those of the first usage and of the others. -/
theorem sentIn_cons (u : Usage α) (us : List (Usage α)) :
    sentIn (u :: us) = u.item?.toList ++ sentIn us := by
  unfold sentIn
  rw [List.filterMap_cons]
  cases u.item? <;> rfl

/-! ## Counting -/

/-- Receipts that are read in two goes hold the items of the one and of the other. -/
theorem itemsOf_append (a b : List (Receipt α)) : itemsOf (a ++ b) = itemsOf a ++ itemsOf b := by
  induction a with
  | nil => rfl
  | cons r rest ih => cases r <;> simp [itemsOf, ih]

/-- Receipts of items hold these items. -/
theorem itemsOf_items (items : List α) : itemsOf (items.map Receipt.item) = items := by
  induction items with
  | nil => rfl
  | cons a rest ih => rw [List.map_cons, itemsOf, ih]

/-- They report nothing as lost. -/
theorem lost_items (items : List α) : ((items.map Receipt.item).map Receipt.lost).sum = 0 := by
  induction items with
  | nil => rfl
  | cons a rest ih => simpa [Receipt.lost] using ih

/-- How many items a subscriber has behind it after some receipts. -/
def span (read : List (Receipt α)) : Nat := (read.map Receipt.span).sum

/-- Receipts that are read in two goes stand for as many items as both together. -/
theorem span_append (a b : List (Receipt α)) : span (a ++ b) = span a + span b := by
  simp [span]

/-- Items that a subscriber has behind it were read or lost. -/
theorem span_eq (read : List (Receipt α)) :
    span read = (itemsOf read).length + (read.map Receipt.lost).sum := by
  induction read with
  | nil => rfl
  | cons r rest ih =>
    simp only [span] at ih ⊢
    cases r <;> simp only [List.map_cons, List.sum_cons, itemsOf, Receipt.span, Receipt.lost,
      List.length_cons] <;> omega

/-- Receipts of items stand for as many items as there are. -/
theorem span_items (items : List α) : span (items.map Receipt.item) = items.length := by
  rw [span_eq, itemsOf_items, lost_items, Nat.add_zero]

/-- So do the first of them. -/
theorem span_take_items (items : List α) (n : Nat) :
    span ((items.map Receipt.item).take n) = min n items.length := by
  rw [← List.map_take, span_items, List.length_take]

/-- A cursor moves on by what the receipts stand for. -/
theorem foldl_span (read : List (Receipt α)) (next : Nat) :
    read.foldl (fun n r => n + r.span) next = next + span read := by
  induction read generalizing next with
  | nil => rfl
  | cons r rest ih =>
    have hcons : span (r :: rest) = r.span + span rest := rfl
    rw [List.foldl_cons, ih, hcons, Nat.add_assoc]

/-! ## What a subscriber is owed -/

/-- What a subscriber is owed when items were sent and it has some of them behind it: those that are
left, or, if not all of them are kept, the number of those that are lost and the ones that
are kept. -/
def owed (slots : Nat) (items : List α) (past : Nat) : List (Receipt α) :=
  if slots < items.length - past then
    .lagged (items.length - past - slots) :: (items.drop (items.length - slots)).map .item
  else (items.drop past).map .item

variable {slots past : Nat} {items : List α}

/-- If something was lost, that is reported, and then come the items that are kept. -/
theorem owed_of_lost (h : slots < items.length - past) :
    owed slots items past =
      .lagged (items.length - past - slots) :: (items.drop (items.length - slots)).map .item :=
  if_pos h

/-- If nothing was lost, all items come that were not read. -/
theorem owed_of_kept (h : items.length - past ≤ slots) :
    owed slots items past = (items.drop past).map .item :=
  if_neg (Nat.not_lt.mpr h)

/-- Items can be cut wherever one likes, also behind the last one. -/
theorem take_append_drop_min (items : List α) (n : Nat) :
    items.take n ++ items.drop (min n items.length) = items := by
  rcases Nat.le_total n items.length with hn | hn
  · rw [Nat.min_eq_left hn, List.take_append_drop]
  · rw [Nat.min_eq_right hn, List.take_of_length_le hn, List.drop_length, List.append_nil]

/-- When a subscriber takes something of what it is owed, it is owed the rest. -/
theorem owed_take (slots : Nat) (items : List α) (past n : Nat) :
    (owed slots items past).take n ++
      owed slots items (past + span ((owed slots items past).take n)) =
        owed slots items past := by
  rcases Nat.lt_or_ge slots (items.length - past) with hlost | hkept
  · rw [owed_of_lost hlost]
    cases n with
    | zero => exact owed_of_lost hlost
    | succ n =>
      have hlength : (items.drop (items.length - slots)).length = slots := by
        rw [List.length_drop]
        omega
      have hspan : span (((Receipt.lagged (items.length - past - slots)) ::
          (items.drop (items.length - slots)).map .item).take (n + 1)) =
            items.length - past - slots + min n slots := by
        rw [← hlength, ← span_take_items, hlength]
        rfl
      have hpast : past + (items.length - past - slots + min n slots) =
          items.length - slots + min n slots := by omega
      have hrest := take_append_drop_min ((items.drop (items.length - slots)).map Receipt.item) n
      rw [List.length_map, hlength, ← List.map_drop, List.drop_drop] at hrest
      rw [hspan, hpast, owed_of_kept (by omega), List.take_succ_cons, List.cons_append, hrest]
  · have hlength : (items.drop past).length = items.length - past := List.length_drop
    have hrest := take_append_drop_min ((items.drop past).map Receipt.item) n
    rw [List.length_map, ← List.map_drop, List.drop_drop] at hrest
    rw [owed_of_kept hkept, span_take_items, owed_of_kept (by omega), hrest]

/-- What a subscriber takes are items that it has not had, in order, behind those that are lost. -/
theorem drop_eq_gone_append (slots : Nat) (items : List α) (past n : Nat) :
    ∃ gone, items.drop past = gone ++ (itemsOf ((owed slots items past).take n) ++
      items.drop (past + span ((owed slots items past).take n))) := by
  rcases Nat.lt_or_ge slots (items.length - past) with hlost | hkept
  · rw [owed_of_lost hlost]
    cases n with
    | zero => exact ⟨[], rfl⟩
    | succ n =>
      have hfirst : past + (items.length - past - slots) = items.length - slots := by omega
      have hrest := take_append_drop_min (items.drop (items.length - slots)) n
      rw [List.drop_drop] at hrest
      have hspan : past + span ((Receipt.lagged (items.length - past - slots)) ::
          ((items.drop (items.length - slots)).map Receipt.item).take n) =
            items.length - slots + min n (items.drop (items.length - slots)).length := by
        rw [← span_take_items, ← hfirst, Nat.add_assoc, hfirst]
        rfl
      refine ⟨(items.drop past).take (items.length - past - slots), ?_⟩
      rw [List.take_succ_cons, hspan, itemsOf, ← List.map_take, itemsOf_items, hrest, ← hfirst,
        ← List.drop_drop, List.take_append_drop]
  · have hrest := take_append_drop_min (items.drop past) n
    rw [List.drop_drop] at hrest
    refine ⟨[], ?_⟩
    rw [owed_of_kept hkept, span_take_items, ← List.map_take, itemsOf_items, hrest,
      List.nil_append]

/-- A subscriber that is owed something reads that it has lost items exactly if not all that it has
not had are kept. -/
theorem lagged_mem_owed_take (slots : Nat) (items : List α) (past n : Nat) :
    (∃ k, .lagged k ∈ (owed slots items past).take (n + 1)) ↔ slots < items.length - past := by
  rcases Nat.lt_or_ge slots (items.length - past) with hlost | hkept
  · rw [owed_of_lost hlost, List.take_succ_cons]
    exact ⟨fun _ => hlost, fun _ => ⟨_, List.mem_cons_self⟩⟩
  · rw [owed_of_kept hkept, ← List.map_take]
    constructor
    · rintro ⟨k, hk⟩
      obtain ⟨a, -, ha⟩ := List.mem_map.mp hk
      cases ha
    · exact fun hlost => absurd hlost (Nat.not_lt.mpr hkept)

/-- What is owed stands for all items that a subscriber does not have behind it. -/
theorem span_owed (slots : Nat) (items : List α) (past : Nat) :
    span (owed slots items past) = items.length - past := by
  rcases Nat.lt_or_ge slots (items.length - past) with hlost | hkept
  · have hspan : span (owed slots items past) = items.length - past - slots +
        span ((items.drop (items.length - slots)).map Receipt.item) := by
      rw [owed_of_lost hlost]
      rfl
    rw [hspan, span_items, List.length_drop]
    omega
  · rw [owed_of_kept hkept, span_items, List.length_drop]

/-- However much a subscriber takes, it has no more behind it than were sent. -/
theorem span_owed_take_le (slots : Nat) {items : List α} {past : Nat} (h : past ≤ items.length)
    (n : Nat) : past + span ((owed slots items past).take n) ≤ items.length := by
  have hall := congrArg span (owed_take slots items past n)
  rw [span_append, span_owed, span_owed] at hall
  omega

end Feed

end SatelliteWindows
