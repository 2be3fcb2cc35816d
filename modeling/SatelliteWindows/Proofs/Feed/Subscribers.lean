import Mathlib.Algebra.GroupWithZero.Nat
import Mathlib.Order.Bounds.Defs
import SatelliteWindows.Proofs.Feed.Standing

/-!
# What each subscriber sees

A subscriber reads what it is owed, and that depends on what was sent and on its own doings. So it
sees what it would see if it were the only one, and what it reads accounts for all that was sent.
-/

namespace SatelliteWindows.Feed

variable {α : Type} {slots past : Nat} {items : List α} {f : Feed α} {all : List α} {i : Nat}

/-- What a subscriber reads are items that it has not had, in order. -/
theorem Stands.itemsOf_readings_sublist (h : Stands i items past f) {us : List (Usage α)}
    (hstays : .unsubscribe i ∉ us) :
    (itemsOf (f.readings i us)).Sublist ((items ++ sentIn us).drop past) := by
  induction us generalizing items past f with
  | nil => exact List.nil_sublist _
  | cons u rest ih =>
    have hu : u ≠ .unsubscribe i := fun hu => hstays (hu ▸ List.mem_cons_self)
    have hrest := ih (h.use hu) fun hmem => hstays (List.mem_cons_of_mem u hmem)
    obtain ⟨n, hn⟩ := u.share_eq_take i (owed f.slots items past)
    obtain ⟨gone, hgone⟩ := drop_eq_gone_append f.slots items past n
    have hbehind := span_owed_take_le f.slots h.past_le n
    rw [← hn, ← h.reading_eq] at hgone hbehind
    have hsplit : (items ++ sentIn (u :: rest)).drop past =
        gone ++ (itemsOf (f.reading i u) ++
          (items ++ sentIn (u :: rest)).drop (past + span (f.reading i u))) := by
      rw [List.drop_append_of_le_length h.past_le, List.drop_append_of_le_length hbehind, hgone]
      simp only [List.append_assoc]
    rw [List.append_assoc, ← sentIn_cons] at hrest
    rw [hsplit, readings, itemsOf_append]
    exact (hrest.append_left _).trans (List.sublist_append_right gone _)

/-- As long as nothing is sent, a subscriber reads what it is owed and nothing else. -/
theorem Stands.readings_append_owed (h : Stands i items past f) {us : List (Usage α)}
    (hstays : .unsubscribe i ∉ us) (hsilent : sentIn us = []) :
    f.readings i us ++ owed f.slots items (past + span (f.readings i us)) =
      owed f.slots items past := by
  induction us generalizing items past f with
  | nil => rfl
  | cons u rest ih =>
    have hu : u ≠ .unsubscribe i := fun hu => hstays (hu ▸ List.mem_cons_self)
    rw [sentIn_cons, List.append_eq_nil_iff] at hsilent
    have hstands := h.use hu
    rw [hsilent.1, List.append_nil] at hstands
    have hrest := ih hstands (fun hmem => hstays (List.mem_cons_of_mem u hmem)) hsilent.2
    obtain ⟨n, hn⟩ := u.share_eq_take i (owed f.slots items past)
    rw [slots_use] at hrest
    rw [readings, span_append, ← Nat.add_assoc, List.append_assoc, hrest, h.reading_eq, hn]
    exact owed_take f.slots items past n

/-- What a subscriber reads that has some items behind it, as far as its own doings tell. -/
def seen (slots i : Nat) : List α → Nat → List (Usage α) → List (Receipt α)
  | _, _, [] => []
  | items, past, u :: rest =>
    let read := u.share i (owed slots items past)
    read ++ seen slots i (items ++ u.item?.toList) (past + span read) rest

/-- What a subscriber that stays reads is what it is owed each time. -/
theorem Stands.readings_eq_seen (h : Stands i items past f) {us : List (Usage α)}
    (hstays : .unsubscribe i ∉ us) : f.readings i us = seen f.slots i items past us := by
  induction us generalizing items past f with
  | nil => rfl
  | cons u rest ih =>
    have hu : u ≠ .unsubscribe i := fun hu => hstays (hu ▸ List.mem_cons_self)
    have hrest := ih (h.use hu) fun hmem => hstays (List.mem_cons_of_mem u hmem)
    rw [readings, hrest, slots_use, h.reading_eq]
    rfl

/-- What others do is nothing that a subscriber sees. -/
theorem seen_alone (slots i : Nat) (items : List α) (past : Nat) (us : List (Usage α)) :
    seen slots 0 items past (us.filterMap (Usage.alone? i)) = seen slots i items past us := by
  induction us generalizing items past with
  | nil => rfl
  | cons u rest ih =>
    -- either the subscriber does the same when it is alone, or it has no share in what is done
    have hcases : (∃ v, u.alone? i = some v ∧ v.item? = u.item? ∧
        ∀ l : List (Receipt α), v.share 0 l = u.share i l) ∨
        (u.alone? i = none ∧ u.item? = none ∧ ∀ l : List (Receipt α), u.share i l = []) := by
      cases u with
      | send a => exact .inl ⟨.send a, rfl, rfl, fun l => rfl⟩
      | subscribe | unsubscribe => exact .inr ⟨rfl, rfl, fun l => rfl⟩
      | receive j =>
        by_cases hj : j = i
        · exact .inl ⟨.receive 0, if_pos hj, rfl, fun l => (if_pos hj).symm⟩
        · exact .inr ⟨if_neg hj, rfl, fun l => if_neg hj⟩
      | receiveSome limit j =>
        by_cases hj : j = i
        · exact .inl ⟨.receiveSome limit 0, if_pos hj, rfl, fun l => (if_pos hj).symm⟩
        · exact .inr ⟨if_neg hj, rfl, fun l => if_neg hj⟩
    rcases hcases with ⟨v, hv, hitem, hshare⟩ | ⟨hnone, hitem, hshare⟩
    · rw [List.filterMap_cons_some hv, seen, seen, hshare, hitem, ih]
    · rw [List.filterMap_cons_none hnone, ih]
      simp [seen, hshare, hitem, span]

/-! ## How many items are kept -/

/-- Rounding up gives a power of two that is not less. -/
theorem le_roundUp (n : Nat) : (roundUp n).isPowerOfTwo ∧ n ≤ roundUp n := by
  unfold roundUp
  split
  · next hn => exact ⟨⟨0, rfl⟩, hn⟩
  · have hless : n - 1 < 2 ^ ((n - 1).log2 + 1) := Nat.lt_log2_self
    rw [Nat.one_shiftLeft]
    exact ⟨⟨_, rfl⟩, by omega⟩

/-- No smaller power of two will do. -/
theorem roundUp_le {n k : Nat} (h : n ≤ 2 ^ k) : roundUp n ≤ 2 ^ k := by
  unfold roundUp
  split
  · exact Nat.one_le_two_pow
  · have hlog : (n - 1).log2 < k := (Nat.log2_lt (by omega)).mpr (by omega)
    rw [Nat.one_shiftLeft]
    exact Nat.pow_le_pow_right (by decide) hlog

/-- A feed keeps as many items as was asked for, and at least one, rounded up to a power of two. -/
theorem isLeast_slots (f : Feed α) :
    IsLeast {n | n.isPowerOfTwo ∧ max f.capacity 1 ≤ n} f.slots := by
  refine ⟨le_roundUp _, ?_⟩
  rintro n ⟨⟨k, rfl⟩, hn⟩
  exact roundUp_le hn

/-! ## The account of a subscriber -/

/-- How many items a subscriber has neither read nor been told that they are lost. -/
def missing (items : List α) (read : List (Receipt α)) : Nat :=
  items.length - ((itemsOf read).length + (read.map Receipt.lost).sum)

/-- What a subscriber has read accounts for the items that were sent. -/
structure Accounts (i : Nat) (items : List α) (read : List (Receipt α)) (f : Feed α) : Prop where
  /-- It has read some of them, in order. -/
  sublist : (itemsOf read).Sublist items
  /-- What it has read and what it was told to be lost are no more than were sent. -/
  total_le : (itemsOf read).length + (read.map Receipt.lost).sum ≤ items.length
  /-- When there is nothing left to read, they are all that were sent. -/
  total_eq : f.unread i = 0 →
    (itemsOf read).length + (read.map Receipt.lost).sum = items.length
  /-- There is nothing left to read when it has read all there is. -/
  exhausted : (f.receive i).2.unread i = 0
  /-- It reads that items are lost exactly if it misses more of them than are kept. -/
  lagged_iff : ∀ u : Usage α, u.Reads i →
    ((∃ k, .lagged k ∈ f.reading i u) ↔ f.slots < missing items read)
  /-- Then it reads how many are lost, and, if nothing is sent meanwhile, all that are kept. -/
  latest : f.slots < missing items read → ∀ more : List (Usage α), (∀ a, .send a ∉ more) →
    .unsubscribe i ∉ more → ∃ rest, f.readings i more ++ rest =
      .lagged (missing items read - f.slots) ::
        (items.drop (items.length - f.slots)).map Receipt.item ∧
      rest.length = (f.useAll more).unread i

/-- A subscriber that has read something stands behind what it has read. -/
theorem Stands.accounts {read : List (Receipt α)} (h : Stands i items (span read) f)
    (hsublist : (itemsOf read).Sublist items) : Accounts i items read f := by
  have hspan := span_eq read
  have hmissing : missing items read = items.length - span read := by
    rw [hspan]
    rfl
  refine ⟨hsublist, ?_, fun hunread => ?_, ?_, fun u hu => ?_, fun hlost more hsilent hstays => ?_⟩
  · rw [← hspan]
    exact h.past_le
  · rw [← hspan]
    exact h.past_eq hunread
  · have hall := h.use (u := .receive i) (by simp)
    have hreading : f.reading i (.receive i) = owed f.slots items (span read) := by
      rw [h.reading_eq]
      exact if_pos rfl
    have hbehind : span read + (items.length - span read) = items.length :=
      Nat.add_sub_cancel' h.past_le
    rw [hreading, span_owed, hbehind] at hall
    have hunread : (f.receive i).2.unread i = _ := hall.unread
    rw [hunread, owed_of_kept (by simp [Usage.item?])]
    simp [Usage.item?]
  · rw [h.reading_eq, hmissing]
    cases hu with
    | some n =>
      have hshare : (Usage.receiveSome (n + 1) i).share i (owed f.slots items (span read)) =
          (owed f.slots items (span read)).take (n + 1) := if_pos rfl
      rw [hshare]
      exact lagged_mem_owed_take f.slots items (span read) n
    | all =>
      have hshare : (Usage.receive i).share i (owed f.slots items (span read)) =
          (owed f.slots items (span read)).take
            ((owed f.slots items (span read)).length + 1) := by
        rw [List.take_of_length_le (Nat.le_succ _)]
        exact if_pos rfl
      rw [hshare]
      exact lagged_mem_owed_take f.slots items (span read) _
  · have hnothing : sentIn more = [] := List.filterMap_eq_nil_iff.mpr fun u hu => by
      cases u with
      | send a => exact absurd hu (hsilent a)
      | _ => rfl
    have hafter := h.useAll hstays
    rw [hnothing, List.append_nil] at hafter
    rw [hmissing] at hlost ⊢
    refine ⟨owed f.slots items (span read + span (f.readings i more)), ?_, ?_⟩
    · rw [h.readings_append_owed hstays hnothing, owed_of_lost hlost]
    · rw [hafter.unread, slots_useAll]

/-- Whatever was done with a feed before, and whatever others do with it, what a subscriber reads
accounts for the items that are sent while it stays subscribed, and it is what it would read if it
were the only subscriber there ever was. -/
theorem subscriber_unaffected (capacity : Nat) (before after : List (Usage α)) :
    let joining := ({ capacity := capacity } : Feed α).useAll before
    let i := joining.subscribe.1
    let joined := joining.subscribe.2
    .unsubscribe i ∉ after →
      IsLeast {n | n.isPowerOfTwo ∧ max capacity 1 ≤ n} (joined.useAll after).slots ∧
      Accounts i (sentIn after) (joined.readings i after) (joined.useAll after) ∧
      joined.readings i after = readings 0 (after.filterMap (Usage.alone? i))
        ({ capacity := capacity } : Feed α).subscribe.2 := by
  intro joining i joined hstays
  have hfresh : Keeps [] ({ capacity := capacity } : Feed α) := ⟨rfl, List.drop_nil.symm⟩
  obtain ⟨all, hall⟩ := exists_keeps_useAll hfresh before
  have hstands : Stands i [] 0 joined := hall.stands_subscribe
  have hlone : Stands 0 [] 0 ({ capacity := capacity } : Feed α).subscribe.2 :=
    hfresh.stands_subscribe
  have hslots : joined.slots = ({ capacity := capacity } : Feed α).subscribe.2.slots :=
    slots_useAll before
  have hafter := hstands.useAll hstays
  rw [List.nil_append, Nat.zero_add] at hafter
  refine ⟨?_, hafter.accounts (hstands.itemsOf_readings_sublist hstays), ?_⟩
  · rw [slots_useAll, hslots]
    exact isLeast_slots ({ capacity := capacity } : Feed α)
  · have hothers : .unsubscribe 0 ∉ after.filterMap (Usage.alone? i) := by
      intro hmem
      obtain ⟨u, -, hu⟩ := List.mem_filterMap.mp hmem
      cases u with
      | receive j | receiveSome limit j =>
        simp only [Usage.alone?] at hu
        split at hu <;> cases hu
      | _ => cases hu
    rw [hstands.readings_eq_seen hstays, hlone.readings_eq_seen hothers, hslots, seen_alone]

/-- Two subscribers were there before, and one of them goes. The third is slow: two items are lost
to it before it reads for the first time. -/
theorem slow_subscriber_unaffected :
    let before : List (Usage Nat) := [.subscribe, .send 0, .subscribe]
    let after : List (Usage Nat) := [.send 1, .send 2, .send 3, .unsubscribe 0, .send 4, .send 5,
      .send 6, .receiveSome 1 2, .receive 1, .receiveSome 2 2]
    let joining := ({ capacity := 3 } : Feed Nat).useAll before
    let i := joining.subscribe.1
    let joined := joining.subscribe.2
    .unsubscribe i ∉ after ∧
      IsLeast {n | n.isPowerOfTwo ∧ max 3 1 ≤ n} (joined.useAll after).slots ∧
      Accounts i (sentIn after) (joined.readings i after) (joined.useAll after) ∧
      joined.readings i after = readings 0 (after.filterMap (Usage.alone? i))
        ({ capacity := 3 } : Feed Nat).subscribe.2 := by
  intro before after joining i joined
  have hi : i = 2 := rfl
  have hstays : .unsubscribe i ∉ after := by simp [after, hi]
  exact ⟨hstays, subscriber_unaffected 3 before after hstays⟩

-- it reads that two items are lost, and then the first two of those that are kept
example : readings 0 [.send 1, .send 2, .send 3, .send 4, .send 5, .send 6, .receiveSome 1 0,
      .receiveSome 2 0] ({ capacity := 3 } : Feed Nat).subscribe.2 =
    [.lagged 2, .item 3, .item 4] := by
  decide +kernel

end SatelliteWindows.Feed
