import SatelliteWindows.Proofs.Office.Letters

/-!
# Nobody waits forever

The places of a mailbox are all there: each is free, holds a letter, or is kept for somebody who has
waited for it. Whoever waits for a place, or was given one, still has something to write. So as long
as the mailbox is open and empty, whoever has something left to order can place it, or somebody else
can; and when nobody can do anything any more, there is nothing left to do.
-/

namespace SatelliteWindows

namespace Mailbox

variable {ρ α : Type} [DecidableEq ρ] {capacity : Nat} {m : Mailbox ρ α} {sender : ρ}

/-- All places of a mailbox are there, and nobody asks for two of them. -/
structure Sound (capacity : Nat) (m : Mailbox ρ α) : Prop where
  /-- Each place is free, holds a letter or is kept for somebody. -/
  places : m.free + m.letters.length + m.granted.length = capacity
  /-- Nobody waits twice, or waits though a place is kept for it. -/
  once : (m.waiting ++ m.granted).Nodup
  /-- Nobody waits while a place is free. -/
  busy : m.waiting ≠ [] → m.free = 0

/-- Who waits for a place, or has been given one. -/
def guests (m : Mailbox ρ α) : List ρ := m.waiting ++ m.granted

/-- A letter is put into the place that was taken for it. -/
theorem Sound.put (h : m.Sound capacity) (place : (m.reserve sender).1 = true) (letter : α) :
    ((m.reserve sender).2.put letter).Sound capacity ∧
      ∀ s ∈ (m.reserve sender).2.guests, s ∈ m.guests ∧ s ≠ sender := by
  have hplaces := h.places
  unfold reserve at place ⊢
  split
  · next hgranted =>
    have hlength := List.length_erase_of_mem hgranted
    have hpos : 0 < m.granted.length := List.length_pos_of_mem hgranted
    obtain ⟨hwaiting, honce, hapart⟩ := List.nodup_append.mp h.once
    refine ⟨⟨?_, ?_, h.busy⟩, fun s hs => ?_⟩
    · show m.free + (m.letters ++ [letter]).length + (m.granted.erase sender).length = capacity
      rw [hlength, List.length_append, List.length_singleton]
      omega
    · exact h.once.sublist ((List.Sublist.refl _).append List.erase_sublist)
    · rcases List.mem_append.mp hs with hwaits | hkept
      · exact ⟨List.mem_append_left _ hwaits, hapart s hwaits sender hgranted⟩
      · obtain ⟨hne, hmem⟩ := (honce.mem_erase_iff).mp hkept
        exact ⟨List.mem_append_right _ hmem, hne⟩
  · next hnot =>
    split
    · next hfree =>
      have hnobody : m.waiting = [] := by
        by_contra hwaiting
        exact absurd (h.busy hwaiting) (by omega)
      refine ⟨⟨?_, h.once, fun hwaiting => absurd hnobody hwaiting⟩, fun s hs => ⟨hs, ?_⟩⟩
      · show m.free - 1 + (m.letters ++ [letter]).length + m.granted.length = capacity
        rw [List.length_append, List.length_singleton]
        omega
      · rintro rfl
        rcases List.mem_append.mp hs with hwaits | hkept
        · exact absurd (hnobody ▸ hwaits) List.not_mem_nil
        · exact hnot hkept
    · next hfull =>
      rw [if_neg hnot, if_neg hfull] at place
      split at place <;> cases place

/-- Whoever finds no place waits. -/
theorem Sound.wait (h : m.Sound capacity) (full : (m.reserve sender).1 = false) :
    (m.reserve sender).2.Sound capacity ∧
      ∀ s ∈ (m.reserve sender).2.guests, s ∈ m.guests ∨ s = sender := by
  unfold reserve at full ⊢
  split
  · next hgranted =>
    rw [if_pos hgranted] at full
    cases full
  · next hnot =>
    rw [if_neg hnot] at full
    split
    · next hfree =>
      rw [if_pos hfree] at full
      cases full
    · next hfree =>
      split
      · exact ⟨h, fun s hs => .inl hs⟩
      · next hnew =>
        refine ⟨⟨h.places, ?_, fun _ => Nat.eq_zero_of_not_pos hfree⟩, fun s hs => ?_⟩
        · show (m.waiting ++ [sender] ++ m.granted).Nodup
          rw [List.append_assoc]
          refine (List.perm_middle.nodup_iff).mpr (List.nodup_cons.mpr ⟨?_, h.once⟩)
          exact fun hmem => (List.mem_append.mp hmem).elim hnew hnot
        · rcases List.mem_append.mp hs with hwaits | hkept
          · rcases List.mem_append.mp hwaits with hbefore | hsender
            · exact .inl (List.mem_append_left _ hbefore)
            · exact .inr (List.mem_singleton.mp hsender)
          · exact .inl (List.mem_append_right _ hkept)

omit [DecidableEq ρ] in
/-- A letter is taken out, and its place is given back. -/
theorem Sound.take (h : m.Sound capacity) {letter : α} {rest : List α}
    (letters : m.letters = letter :: rest) :
    ({ m with letters := rest }).release.2.Sound capacity ∧
      ∀ s ∈ ({ m with letters := rest }).release.2.guests, s ∈ m.guests := by
  have hplaces := h.places
  rw [letters, List.length_cons] at hplaces
  have honce := h.once
  unfold release guests
  dsimp only
  cases hwaiting : m.waiting with
  | nil =>
    rw [hwaiting] at honce
    refine ⟨⟨?_, honce, fun hwaits => absurd rfl hwaits⟩, fun s hs => hs⟩
    show m.free + 1 + rest.length + m.granted.length = capacity
    omega
  | cons first others =>
    have hfull : m.free = 0 := h.busy (by rw [hwaiting]; exact List.cons_ne_nil _ _)
    rw [hwaiting] at honce
    have hmoved : (first :: others ++ m.granted).Perm (others ++ (m.granted ++ [first])) := by
      rw [List.cons_append, ← List.append_assoc]
      exact (List.perm_append_singleton first (others ++ m.granted)).symm
    refine ⟨⟨?_, hmoved.nodup_iff.mp honce, fun _ => hfull⟩, fun s hs => ?_⟩
    · show m.free + rest.length + (m.granted ++ [first]).length = capacity
      rw [List.length_append, List.length_singleton]
      omega
    · exact hmoved.mem_iff.mpr hs

end Mailbox

namespace Office

variable {ρ σ : Type} [DecidableEq ρ]

/-- Somebody has something to write. -/
def Owes (s : Correspondent ρ) (o : Office ρ σ) : Prop :=
  match s with
  | .client p => o.orders p ≠ []
  | .alarm t => t ∈ o.alarms ∧ t.deadline ≤ o.coordinator.clock

/-- The mailbox has all its places as long as it is open, and they are kept for those who have
something to write. -/
structure Orderly (capacity : Nat) (o : Office ρ σ) : Prop where
  /-- All places of an open mailbox are there. -/
  sound : o.isClosed = false → o.mailbox.Sound capacity
  /-- Whoever waits for a place, or was given one, has something to write. -/
  owes : ∀ s ∈ o.mailbox.guests, o.Owes s
  /-- Nobody waits for a place in a closed mailbox. -/
  nobody : o.isClosed = true → o.mailbox.guests = []

variable {o o' : Office ρ σ} {capacity : Nat}

/-- Whoever is about to write a letter owes one. -/
theorem owes_of_ready {l : Letter ρ} (h : o.Ready l) : o.Owes l.sender := by
  obtain ⟨s, order⟩ := l
  cases s with
  | client p =>
    intro hnone
    have hnext : (o.orders p).head? = some order := h.2
    rw [hnone] at hnext
    cases hnext
  | alarm t => exact h.2

/-- Whoever has not written still has to. -/
theorem owes_struck {l : Letter ρ} {s : Correspondent ρ} (hne : s ≠ l.sender) (h : o.Owes s) :
    (o.struck l).Owes s := by
  obtain ⟨sender, order⟩ := l
  cases sender with
  | client p =>
    cases s with
    | client q =>
      have hq : ¬ q = p := fun heq => hne (by rw [heq])
      show (if q = p then _ else o.orders q) ≠ []
      rw [if_neg hq]
      exact h
    | alarm t => exact h
  | alarm t =>
    cases s with
    | client q => exact h
    | alarm u =>
      have hu : u ≠ t := fun heq => hne (by rw [heq])
      exact ⟨(List.mem_erase_of_ne hu).mpr h.1, h.2⟩

omit [DecidableEq ρ] in
/-- Orders are not forgotten, alarms are not silenced and time does not go back. -/
theorem Owes.mono {s : Correspondent ρ} (h : o.Owes s) (left : o'.orders = o.orders)
    (alarms : ∀ t ∈ o.alarms, t ∈ o'.alarms)
    (clock : o.coordinator.clock ≤ o'.coordinator.clock) : o'.Owes s := by
  cases s with
  | client p =>
    show o'.orders p ≠ []
    rw [left]
    exact h
  | alarm t => exact ⟨alarms t h.1, Nat.le_trans h.2 clock⟩

omit [DecidableEq ρ] in
/-- An office in which nobody has had a turn is orderly. -/
theorem orderly_assemble (capacity : Nat) (orders : ρ → List Order) (isPatient : ρ → Bool)
    (c : Coordinator σ) : Orderly (max capacity 1) (assemble capacity orders isPatient c) where
  sound _ := ⟨rfl, List.nodup_nil, fun h => absurd rfl h⟩
  owes _ h := by cases h
  nobody h := by cases h

omit [DecidableEq ρ] in
/-- Nothing happens to the mailbox or to what is left to write, except that alarms are set and time
passes. -/
theorem Orderly.keep (h : Orderly capacity o) (mailbox : o'.mailbox = o.mailbox)
    (closed : o'.isClosed = o.isClosed) (left : o'.orders = o.orders)
    (alarms : ∀ t ∈ o.alarms, t ∈ o'.alarms)
    (clock : o.coordinator.clock ≤ o'.coordinator.clock) : Orderly capacity o' := by
  constructor
  · rw [mailbox, closed]
    exact h.sound
  · rw [mailbox]
    exact fun s hs => (h.owes s hs).mono left alarms clock
  · rw [mailbox, closed]
    exact h.nobody

omit [DecidableEq ρ] in
/-- A letter is read. -/
theorem Orderly.reads (h : Orderly capacity o) (isOpen : o.isClosed = false) {l : Letter ρ}
    {rest : List (Letter ρ)} (letters : o.mailbox.letters = l :: rest)
    (mailbox : o'.mailbox = ({ o.mailbox with letters := rest }).release.2)
    (closed : o'.isClosed = o.isClosed) (left : o'.orders = o.orders)
    (alarms : ∀ t ∈ o.alarms, t ∈ o'.alarms)
    (clock : o.coordinator.clock ≤ o'.coordinator.clock) : Orderly capacity o' := by
  obtain ⟨hsound, hguests⟩ := (h.sound isOpen).take letters
  rw [← mailbox] at hsound hguests
  refine ⟨fun _ => hsound, fun s hs => (h.owes s (hguests s hs)).mono left alarms clock, ?_⟩
  rw [closed, isOpen]
  exact nofun

variable [Desktop σ]

/-- Every turn keeps order. -/
theorem Orderly.becomes (hturn : Becomes o o') (hopen : o.coordinator.running = true →
    o.isClosed = false) (h : Orderly capacity o) : Orderly capacity o' := by
  cases hturn with
  | same => exact h
  | waits l m isOpen ready full =>
    have hreserve : o.mailbox.reserve l.sender = (false, m) := full
    obtain ⟨hsound, hguests⟩ := (h.sound isOpen).wait (congrArg Prod.fst full)
    rw [hreserve] at hsound hguests
    refine ⟨fun _ => hsound, fun s hs => ?_, fun hclosed => ?_⟩
    · rcases hguests s hs with hbefore | rfl
      · exact h.owes s hbefore
      · exact (owes_of_ready ready).mono rfl (fun _ ht => ht) (Nat.le_refl _)
    · exact absurd (isOpen.symm.trans hclosed) nofun
  | posts l m isOpen ready place =>
    obtain ⟨hsound, hguests⟩ := (h.sound isOpen).put (congrArg Prod.fst place) l
    rw [place] at hsound hguests
    constructor
    · rw [struck_mailbox]
      exact fun _ => hsound
    · rw [struck_mailbox]
      intro s hs
      obtain ⟨hbefore, hne⟩ := hguests s hs
      exact owes_struck hne ((h.owes s hbefore).mono rfl (fun _ ht => ht) (Nat.le_refl _))
    · rw [struck_isClosed]
      exact fun hc => absurd (isOpen.symm.trans hc) nofun
  | turnsAway p order rest isClosed next =>
    have hnobody : o.mailbox.guests = [] := h.nobody isClosed
    refine ⟨fun hc => absurd (isClosed.symm.trans hc) nofun, fun s hs => ?_, fun _ => hnobody⟩
    exact absurd (hnobody ▸ hs) List.not_mem_nil
  | silences t isClosed =>
    have hnobody : o.mailbox.guests = [] := h.nobody isClosed
    refine ⟨fun hc => absurd (isClosed.symm.trans hc) nofun, fun s hs => ?_, fun _ => hnobody⟩
    exact absurd (hnobody ▸ hs) List.not_mem_nil
  | serves s r rest running letters =>
    exact h.reads (hopen running) letters rfl rfl rfl (fun _ ht => List.mem_append_left _ ht)
      (Nat.le_of_eq (Coordinator.serve_of_running running r).2.1.symm)
  | stops s rest running letters =>
    exact h.reads (hopen running) letters rfl rfl rfl (fun _ ht => ht)
      (Nat.le_of_eq (Coordinator.shutdown_of_running running).2.1.symm)
  | closes stopped isOpen => exact ⟨nofun, fun s hs => (by cases hs), fun _ => rfl⟩
  | passes ms =>
    refine h.keep rfl rfl rfl (fun _ ht => ht) ?_
    show o.coordinator.clock ≤ (o.coordinator.wait ms).clock
    rw [(o.coordinator.wait_fields ms).1]
    exact Nat.le_add_right _ _
  | shifts change => exact h.keep rfl rfl rfl (fun _ ht => ht) (Nat.le_refl _)

/-- Nothing is left of what clients request: it neither waits nor is still to be ordered. Orders to
shut down may be left. -/
structure Spent (o : Office ρ σ) : Prop where
  /-- No client has a request left. -/
  orders : ∀ p, (o.orders p).filterMap Order.request? = []
  /-- Nobody waits for an answer. -/
  letters : ∀ l ∈ o.mailbox.letters, l.awaited? = none

/-- Nobody can do anything any more. -/
structure Idle (o : Office ρ σ) : Prop where
  /-- No client can place an order. -/
  clients : ∀ p, o.act (.send p) = o
  /-- No alarm can write. -/
  alarms : ∀ t, o.act (.ring t) = o
  /-- The coordinator has nothing to do. -/
  coordinator : o.act .work = o

omit [Desktop σ] in
/-- Whoever is given a place in an open mailbox posts a letter. -/
theorem letters_of_posts {l : Letter ρ} (h : (o.mailbox.reserve l.sender).1 = true) :
    (o.post l).1 = true ∧ (o.post l).2.mailbox.letters = o.mailbox.letters ++ [l] := by
  have hletters := o.mailbox.letters_reserve l.sender
  unfold post
  cases hreserve : o.mailbox.reserve l.sender with
  | mk place m =>
    rw [hreserve] at h hletters
    cases h
    exact ⟨rfl, congrArg (· ++ [l]) hletters⟩

/-- Whoever has something to write and a place for it writes a letter, if the mailbox is empty. -/
theorem Idle.no_place (h : Idle o) (isOpen : o.isClosed = false) (empty : o.mailbox.letters = [])
    {s : Correspondent ρ} (owes : o.Owes s) : (o.mailbox.reserve s).1 = false := by
  by_contra hplace
  have hplace : (o.mailbox.reserve s).1 = true := by simpa using hplace
  cases s with
  | client p =>
    cases horders : o.orders p with
    | nil => exact owes horders
    | cons order rest =>
      obtain ⟨hpost, hletters⟩ := letters_of_posts (l := ⟨.client p, order⟩) hplace
      have hmay : o.mayWrite p = true := by simp [mayWrite, empty]
      have hsend : (o.act (.send p)).mailbox.letters = [⟨.client p, order⟩] := by
        show (o.send p).mailbox.letters = _
        unfold send
        rw [horders]
        simp only [isOpen, hmay, if_true, Bool.false_eq_true, if_false]
        cases hposted : o.post ⟨.client p, order⟩ with
        | mk placed o₁ =>
          rw [hposted] at hpost hletters
          cases hpost
          exact hletters.trans (by rw [empty]; rfl)
      rw [h.clients p, empty] at hsend
      cases hsend
  | alarm t =>
    obtain ⟨hpost, hletters⟩ := letters_of_posts (l := .ofAlarm t) hplace
    have hring : (o.act (.ring t)).mailbox.letters = [.ofAlarm t] := by
      show (o.ring t).mailbox.letters = _
      unfold ring
      rw [if_pos (show t ∈ o.alarms ∧ t.deadline ≤ o.coordinator.clock from owes)]
      simp only [isOpen, Bool.false_eq_true, if_false]
      cases hposted : o.post (.ofAlarm t) with
      | mk placed o₁ =>
        rw [hposted] at hpost hletters
        cases hpost
        exact hletters.trans (by rw [empty]; rfl)
    rw [h.alarms t, empty] at hring
    cases hring

/-- When nobody can do anything, an open mailbox is empty and nothing is left to order. -/
theorem Idle.all_placed (h : Idle o) (horderly : Orderly capacity o) (hpos : 0 < capacity)
    (isOpen : o.isClosed = false) (empty : o.mailbox.letters = []) (p : ρ) : o.orders p = [] := by
  by_contra howes
  have hsound := horderly.sound isOpen
  have hfull : o.mailbox.free = 0 := by
    have hnone := h.no_place isOpen empty (s := .client p) howes
    unfold Mailbox.reserve at hnone
    split at hnone
    · cases hnone
    · split at hnone
      · cases hnone
      · omega
  have hplaces := hsound.places
  rw [hfull, empty, List.length_nil] at hplaces
  -- All places are kept for somebody, and the first of those could write.
  cases hgranted : o.mailbox.granted with
  | nil =>
    rw [hgranted, List.length_nil] at hplaces
    omega
  | cons first others =>
    have hmem : first ∈ o.mailbox.granted := by
      rw [hgranted]
      exact List.mem_cons_self
    have hnone := h.no_place isOpen empty (horderly.owes first (List.mem_append_right _ hmem))
    unfold Mailbox.reserve at hnone
    rw [if_pos hmem] at hnone
    cases hnone

omit [DecidableEq ρ] in
/-- What a letter says does nothing to the mailbox. -/
theorem mailbox_handle (l : Letter ρ) (o : Office ρ σ) : (o.handle l).mailbox = o.mailbox := by
  unfold handle
  cases l.order <;> rfl

/-- A coordinator at work that has nothing to do has no letters. -/
theorem Idle.letters_eq_nil (h : Idle o) (running : o.coordinator.running = true) :
    o.mailbox.letters = [] := by
  cases hletters : o.mailbox.letters with
  | nil => rfl
  | cons l rest =>
    have hwork : (o.act .work).mailbox.letters = rest := by
      show o.work.mailbox.letters = rest
      rw [work_of_letter running hletters, mailbox_handle]
      exact Mailbox.letters_release _
    rw [h.coordinator, hletters] at hwork
    exact absurd (congrArg List.length hwork) (by simp)

/-- A mailbox is closed sooner or later once its coordinator has shut down. -/
theorem Idle.isClosed (h : Idle o) (stopped : o.coordinator.running = false) :
    o.isClosed = true := by
  by_contra hopen
  have hwork : (o.act .work).isClosed = true := by
    show o.work.isClosed = true
    unfold work
    rw [if_neg (by rw [stopped]; exact Bool.false_ne_true), if_neg hopen]
    rfl
  rw [h.coordinator] at hwork
  exact hopen hwork

/-- Whoever has something left to order is turned away from a closed mailbox. -/
theorem Idle.all_turnedAway (h : Idle o) (isClosed : o.isClosed = true) (p : ρ) :
    o.orders p = [] := by
  cases horders : o.orders p with
  | nil => rfl
  | cons order rest =>
    have hsend : (o.act (.send p)).orders p = rest := by
      show (o.send p).orders p = rest
      unfold send
      rw [horders]
      simp only [isClosed, if_true]
      exact if_pos rfl
    rw [h.clients p, horders] at hsend
    exact absurd (congrArg List.length hsend) (by simp)

/-- Whoever has turns in whatever order, the mailbox is in order. -/
theorem orderly_run (capacity : Nat) (orders : ρ → List Order) (isPatient : ρ → Bool)
    (c : Coordinator σ) (acts : List (Act ρ σ)) :
    Orderly (max capacity 1) ((assemble capacity orders isPatient c).run acts) := by
  have hboth : ∀ {o o' : Office ρ σ}, Becomes o o' →
      Ledger orders o ∧ Orderly (max capacity 1) o →
        Ledger orders o' ∧ Orderly (max capacity 1) o' :=
    fun hturn h => ⟨h.1.becomes hturn, h.2.becomes hturn fun hrunning => (h.1.running hrunning).1⟩
  exact (run_induct hboth acts ⟨ledger_assemble capacity orders isPatient c,
    orderly_assemble capacity orders isPatient c⟩).2

/-- When nobody can do anything any more, no letter waits and nothing is left to order. -/
theorem Idle.nothing_left {capacity : Nat} {orders : ρ → List Order} {isPatient : ρ → Bool}
    {c : Coordinator σ} {acts : List (Act ρ σ)}
    (h : Idle ((assemble capacity orders isPatient c).run acts)) :
    ((assemble capacity orders isPatient c).run acts).mailbox.letters = [] ∧
      ∀ p, ((assemble capacity orders isPatient c).run acts).orders p = [] := by
  have hledger := ledger_run capacity orders isPatient c acts
  have horderly := orderly_run capacity orders isPatient c acts
  generalize (assemble capacity orders isPatient c).run acts = o at h hledger horderly
  cases hrunning : o.coordinator.running with
  | true =>
    have hempty := h.letters_eq_nil hrunning
    exact ⟨hempty, h.all_placed horderly (Nat.le_max_right _ _) (hledger.running hrunning).1 hempty⟩
  | false =>
    have hclosed := h.isClosed hrunning
    exact ⟨hledger.isClosed hclosed, h.all_turnedAway hclosed⟩

/-- When nobody can do anything any more, everything has been seen to. -/
theorem Idle.spent {capacity : Nat} {orders : ρ → List Order} {isPatient : ρ → Bool}
    {c : Coordinator σ} {acts : List (Act ρ σ)}
    (h : Idle ((assemble capacity orders isPatient c).run acts)) :
    Spent ((assemble capacity orders isPatient c).run acts) := by
  obtain ⟨hletters, horders⟩ := h.nothing_left
  refine ⟨fun p => ?_, fun l hl => ?_⟩
  · rw [horders p]
    rfl
  · rw [hletters] at hl
    cases hl

/-- When no letter waits, nothing is left to order and no alarm is due, nobody can do anything, as
long as the coordinator is at work. -/
theorem idle_of_nothing_left (running : o.coordinator.running = true)
    (empty : o.mailbox.letters = []) (left : ∀ p, o.orders p = [])
    (alarms : ∀ t ∈ o.alarms, ¬ t.deadline ≤ o.coordinator.clock) : Idle o := by
  refine ⟨fun p => ?_, fun t => ?_, ?_⟩
  · show o.send p = o
    unfold send
    rw [left p]
  · show o.ring t = o
    unfold ring
    rw [if_neg fun h => alarms t h.1 h.2]
  · show o.work = o
    unfold work Mailbox.take?
    rw [if_pos running, empty]

end Office

end SatelliteWindows
