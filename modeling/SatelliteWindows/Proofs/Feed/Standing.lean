import SatelliteWindows.Proofs.Feed.Receipts

/-!
# Where a subscriber stands

A feed keeps the last of the items that were sent. Where a subscriber stands among them is known
from two things: the items that were sent since it subscribed, and how many of them it has behind
it. Whatever is done with the feed, it moves on only by what it reads itself.
-/

namespace SatelliteWindows.Feed

variable {α : Type} {slots past : Nat} {items : List α}

/-! ## What is kept -/

/-- The items that a feed was sent, and those of them that it keeps. -/
structure Keeps (all : List α) (f : Feed α) : Prop where
  /-- They are counted. -/
  sent : f.sent = all.length
  /-- The last ones are kept. -/
  kept : f.kept = all.drop (all.length - f.slots)

variable {f : Feed α} {all : List α} {i : Nat}

/-- A feed that has a subscriber keeps what it is sent. -/
theorem Keeps.send (h : Keeps all f) (hsubscribers : f.subscribers ≠ 0) (a : α) :
    Keeps (all ++ [a]) (f.send a) := by
  have hsend : f.send a = { f with
      sent := f.sent + 1
      kept := (f.kept ++ [a]).drop ((f.kept ++ [a]).length - f.slots) } := if_neg hsubscribers
  rw [hsend]
  constructor
  · simp only [h.sent, List.length_append, List.length_singleton]
  · have hbefore : all.drop (all.length - f.slots) ++ [a] =
        (all ++ [a]).drop (all.length - f.slots) :=
      (List.drop_append_of_le_length (Nat.sub_le _ _)).symm
    have hcount : all.length - f.slots +
        ((all ++ [a]).length - (all.length - f.slots) - f.slots) =
          (all ++ [a]).length - f.slots := by
      rw [List.length_append, List.length_singleton]
      omega
    simp only [h.kept, hbefore, List.length_drop, List.drop_drop, hcount]
    rfl

/-- Only sending does something to the items. -/
theorem use_eq {u : Usage α} (h : u.item? = none) :
    f.use u = { f with cursors := (f.use u).cursors } := by
  cases u with
  | send a => cases h
  | subscribe | unsubscribe => rfl
  | receive j =>
    unfold use receive
    dsimp only
    split <;> rfl
  | receiveSome limit j => exact receiveSome_eq limit j f

/-- However a feed is used, it keeps as many items as before. -/
theorem slots_use (u : Usage α) : (f.use u).slots = f.slots := by
  cases hu : u.item? with
  | some a =>
    cases u with
    | send b => exact slots_send b f
    | _ => cases hu
  | none =>
    rw [use_eq hu]
    rfl

/-- That holds however often it is used. -/
theorem slots_useAll (us : List (Usage α)) : (f.useAll us).slots = f.slots := by
  induction us generalizing f with
  | nil => rfl
  | cons u rest ih => exact (ih (f := f.use u)).trans (slots_use u)

/-- A feed that is used without sending anything keeps the same items. -/
theorem Keeps.use_of_silent (h : Keeps all f) {u : Usage α} (hu : u.item? = none) :
    Keeps all (f.use u) := by
  rw [use_eq hu]
  exact ⟨h.sent, h.kept⟩

/-- However a feed is used, it keeps the last of some items. -/
theorem exists_keeps_useAll (h : Keeps all f) (us : List (Usage α)) :
    ∃ all, Keeps all (f.useAll us) := by
  induction us generalizing f all with
  | nil => exact ⟨all, h⟩
  | cons u rest ih =>
    cases hu : u.item? with
    | none => exact ih (h.use_of_silent hu)
    | some a =>
      cases u with
      | send b =>
        by_cases hsubscribers : f.subscribers = 0
        · have hsend : f.send b = f := if_pos hsubscribers
          have hsame : f.use (.send b) = f := hsend
          exact ih (hsame ▸ h)
        · exact ih (h.send hsubscribers b)
      | _ => cases hu

/-! ## Where a subscriber stands -/

/-- Items were sent since a subscriber subscribed, and it has some of them behind it. -/
structure Stands (i : Nat) (items : List α) (past : Nat) (f : Feed α) : Prop where
  /-- Before them others were sent, and the subscription counts them as well. -/
  since : ∃ earlier : List α, Keeps (earlier ++ items) f ∧
    f.cursors[i]? = some (some (earlier.length + past))
  /-- It has no more behind it than were sent. -/
  past_le : past ≤ items.length

/-- Whoever subscribes has nothing behind it. -/
theorem Keeps.stands_subscribe (h : Keeps all f) : Stands f.subscribe.1 [] 0 f.subscribe.2 := by
  refine ⟨⟨all, ?_, ?_⟩, Nat.le_refl 0⟩
  · rw [List.append_nil]
    exact h.use_of_silent (u := .subscribe) rfl
  · have hlast : (f.cursors ++ [some f.sent])[f.cursors.length]? = some (some f.sent) :=
      List.getElem?_concat_length
    rw [Nat.add_zero, ← h.sent]
    exact hlast

/-- What a subscriber finds is what it is owed. -/
theorem Stands.available (h : Stands i items past f) {next : Nat}
    (hnext : f.cursors[i]? = some (some next)) : f.available next = owed f.slots items past := by
  obtain ⟨⟨earlier, hkeeps, hcursor⟩, hpast⟩ := h
  rw [hnext] at hcursor
  cases hcursor
  have hlength : f.kept.length = earlier.length + items.length -
      (earlier.length + items.length - f.slots) := by
    rw [hkeeps.kept, List.length_drop, List.length_append]
  have holdest : f.sent - f.kept.length = earlier.length + items.length - f.slots := by
    rw [hkeeps.sent, hlength, List.length_append]
    omega
  rcases Nat.lt_or_ge f.slots (items.length - past) with hlost | hkept
  · have hcount : earlier.length + items.length - f.slots - (earlier.length + past) =
        items.length - past - f.slots := by omega
    have hfirst : earlier.length + items.length - f.slots =
        earlier.length + (items.length - f.slots) := by omega
    have hitems : f.kept = items.drop (items.length - f.slots) := by
      rw [hkeeps.kept, List.length_append, hfirst, List.drop_length_add_append]
    rw [owed_of_lost hlost, ← hcount, ← hitems, ← holdest]
    exact if_pos (by omega)
  · have hnext : earlier.length + items.length - f.slots +
        (earlier.length + past - (earlier.length + items.length - f.slots)) =
          earlier.length + past := by omega
    rw [available_of_kept (by omega), holdest, hkeeps.kept, List.length_append, List.drop_drop,
      hnext, List.drop_length_add_append, owed_of_kept hkept]

/-- How much a subscriber has to read is how much it is owed. -/
theorem Stands.unread (h : Stands i items past f) :
    f.unread i = (owed f.slots items past).length := by
  obtain ⟨⟨earlier, -, hcursor⟩, -⟩ := id h
  unfold Feed.unread
  rw [hcursor]
  dsimp only
  rw [h.available hcursor]

/-- A subscriber that has read everything has everything behind it. -/
theorem Stands.past_eq (h : Stands i items past f) (hunread : f.unread i = 0) :
    past = items.length := by
  have hnone : owed f.slots items past = [] := List.eq_nil_of_length_eq_zero (h.unread ▸ hunread)
  have hspan := span_owed f.slots items past
  rw [hnone] at hspan
  have hpast := h.past_le
  have hzero : items.length - past = 0 := hspan.symm
  omega

/-- A subscriber has subscribed, so that nothing that is sent is dropped. -/
theorem Stands.subscribers_ne_zero (h : Stands i items past f) : f.subscribers ≠ 0 := by
  obtain ⟨⟨earlier, -, hcursor⟩, -⟩ := h
  have hmem : some (earlier.length + past) ∈ f.cursors.filter Option.isSome :=
    List.mem_filter.mpr ⟨List.mem_of_getElem? hcursor, rfl⟩
  exact Nat.ne_of_gt (List.length_pos_of_mem hmem)

/-- What a subscriber reads is its share of what it is owed. -/
theorem Stands.reading_eq (h : Stands i items past f) (u : Usage α) :
    f.reading i u = u.share i (owed f.slots items past) := by
  obtain ⟨⟨earlier, -, hcursor⟩, -⟩ := id h
  have havailable := h.available hcursor
  cases u with
  | send | subscribe | unsubscribe => rfl
  | receive j =>
    by_cases hj : j = i
    · subst hj
      simp [reading, Usage.share, receive, hcursor, havailable]
    · simp [reading, Usage.share, hj]
  | receiveSome limit j =>
    by_cases hj : j = i
    · subst hj
      simp [reading, Usage.share, receiveSome, hcursor, havailable]
    · simp [reading, Usage.share, hj]

/-- What others read does nothing to a subscription. -/
theorem cursors_receive_of_ne {j : Nat} (hj : j ≠ i) (f : Feed α) :
    (f.receive j).2.cursors[i]? = f.cursors[i]? := by
  unfold receive
  split
  · exact List.getElem?_set_ne hj
  · rfl

/-- A subscriber that reads some of it moves no other on. -/
theorem cursors_receiveSome_of_ne {j : Nat} (hj : j ≠ i) (limit : Nat) (f : Feed α) :
    (f.receiveSome limit j).2.cursors[i]? = f.cursors[i]? := by
  unfold receiveSome
  split
  · exact List.getElem?_set_ne hj
  · rfl

/-- The subscription moves on by what is read, and by nothing else. -/
theorem Stands.cursor_use {earlier : List α} (h : Stands i items past f)
    (hkeeps : Keeps (earlier ++ items) f)
    (hcursor : f.cursors[i]? = some (some (earlier.length + past))) {u : Usage α}
    (hstays : u ≠ .unsubscribe i) :
    (f.use u).cursors[i]? = some (some (earlier.length + (past + span (f.reading i u)))) := by
  have hlt : i < f.cursors.length := (List.getElem?_eq_some_iff.mp hcursor).1
  have hpast := h.past_le
  cases u with
  | send a =>
    have hcursors : (f.send a).cursors = f.cursors := by
      unfold send
      split <;> rfl
    exact (congrArg (·[i]?) hcursors).trans hcursor
  | subscribe =>
    have hcursors : (f.cursors ++ [some f.sent])[i]? = f.cursors[i]? :=
      List.getElem?_append_left hlt
    exact hcursors.trans hcursor
  | unsubscribe j =>
    have hj : j ≠ i := fun hj => hstays (by rw [hj])
    exact (List.getElem?_set_ne hj).trans hcursor
  | receive j =>
    by_cases hj : j = i
    · subst hj
      have hspan : span (f.reading j (.receive j)) = items.length - past := by
        rw [h.reading_eq]
        simp only [Usage.share, if_true, span_owed]
      have hsent : earlier.length + (past + (items.length - past)) = f.sent := by
        rw [hkeeps.sent, List.length_append]
        omega
      rw [hspan, hsent]
      simp only [use, receive, hcursor, List.getElem?_set_self hlt]
    · have hnothing : f.reading i (.receive j) = [] := if_neg hj
      rw [hnothing]
      exact (cursors_receive_of_ne hj f).trans hcursor
  | receiveSome limit j =>
    by_cases hj : j = i
    · subst hj
      have hreading : f.reading j (.receiveSome limit j) =
          (f.available (earlier.length + past)).take limit := by
        rw [h.reading_eq, h.available hcursor]
        exact if_pos rfl
      rw [hreading, ← Nat.add_assoc, ← foldl_span]
      simp only [use, receiveSome, hcursor, List.getElem?_set_self hlt]
    · have hnothing : f.reading i (.receiveSome limit j) = [] := if_neg hj
      rw [hnothing]
      exact (cursors_receiveSome_of_ne hj limit f).trans hcursor

/-- However a feed is used, a subscriber stands behind what it has read. -/
theorem Stands.use (h : Stands i items past f) {u : Usage α} (hstays : u ≠ .unsubscribe i) :
    Stands i (items ++ u.item?.toList) (past + span (f.reading i u)) (f.use u) := by
  obtain ⟨⟨earlier, hkeeps, hcursor⟩, hpast⟩ := id h
  have hmoved := h.cursor_use hkeeps hcursor hstays
  have hbehind : past + span (f.reading i u) ≤ items.length := by
    obtain ⟨n, hn⟩ := u.share_eq_take i (owed f.slots items past)
    rw [h.reading_eq, hn]
    exact span_owed_take_le f.slots hpast n
  refine ⟨⟨earlier, ?_, hmoved⟩, ?_⟩
  · rw [← List.append_assoc]
    cases hu : u.item? with
    | none =>
      rw [Option.toList_none, List.append_nil]
      exact hkeeps.use_of_silent hu
    | some a =>
      cases u with
      | send b =>
        cases hu
        exact hkeeps.send h.subscribers_ne_zero a
      | _ => cases hu
  · rw [List.length_append]
    omega

/-- However a feed is used, a subscriber that stays has behind it what it has read. -/
theorem Stands.useAll (h : Stands i items past f) {us : List (Usage α)}
    (hstays : .unsubscribe i ∉ us) :
    Stands i (items ++ sentIn us) (past + span (f.readings i us)) (f.useAll us) := by
  induction us generalizing items past f with
  | nil =>
    rw [sentIn, List.filterMap_nil, List.append_nil]
    exact h
  | cons u rest ih =>
    have hu : u ≠ .unsubscribe i := fun hu => hstays (hu ▸ List.mem_cons_self)
    have hrest := ih (h.use hu) fun hmem => hstays (List.mem_cons_of_mem u hmem)
    rw [sentIn_cons, ← List.append_assoc, readings, span_append, ← Nat.add_assoc]
    exact hrest

end SatelliteWindows.Feed
