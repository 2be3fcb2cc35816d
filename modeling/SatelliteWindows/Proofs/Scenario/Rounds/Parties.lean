import SatelliteWindows.Proofs.Scenario.Attention

/-!
# What the parties leave undone

In its turn the coordinator, the listener, the watcher or an alarm leaves nothing undone that nobody
sees to.
-/

namespace SatelliteWindows

namespace Mailbox

variable {ρ α : Type} [DecidableEq ρ] {m : Mailbox ρ α} {p q : ρ}

/-- Nobody is given a place by asking for one. -/
theorem granted_reserve (h : q ∈ (m.reserve p).2.granted) : q ∈ m.granted := by
  unfold reserve at h
  split at h
  · exact List.mem_of_mem_erase h
  · split at h
    · exact h
    · split at h <;> exact h

/-- Others are not put off when a sender asks for a place. -/
theorem mem_guests_reserve (h : q ∈ m.guests) (hne : q ≠ p) : q ∈ (m.reserve p).2.guests := by
  unfold reserve
  split
  · exact (List.mem_append.mp h).elim (List.mem_append_left _) fun hgranted =>
      List.mem_append_right _ ((List.mem_erase_of_ne hne).mpr hgranted)
  · split
    · exact h
    · split
      · exact h
      · exact (List.mem_append.mp h).elim
          (fun hwaits => List.mem_append_left _ (List.mem_append_left _ hwaits))
          (List.mem_append_right _)

/-- A sender that finds no place was not given one before. -/
theorem not_granted_of_full (h : (m.reserve p).1 = false) : p ∉ (m.reserve p).2.granted := by
  intro hmem
  have hgranted := granted_reserve hmem
  unfold reserve at h
  rw [if_pos hgranted] at h
  cases h

/-- A sender that finds no place waits for one. -/
theorem mem_guests_of_full (h : (m.reserve p).1 = false) : p ∈ (m.reserve p).2.guests := by
  unfold reserve at h ⊢
  split at h
  · cases h
  · next hgranted =>
    rw [if_neg hgranted]
    split at h
    · cases h
    · next hfree =>
      rw [if_neg hfree]
      split
      · next hwaits => exact List.mem_append_left _ hwaits
      · exact List.mem_append_left _ (List.mem_append_right _ List.mem_cons_self)

omit [DecidableEq ρ] in
/-- Whoever has been given a place had it before, or was the first to wait. -/
theorem granted_release (h : q ∈ m.release.2.granted) :
    q ∈ m.granted ∨ m.release.1 = some q := by
  unfold release at h ⊢
  split at h
  · exact .inl h
  · exact (List.mem_append.mp h).imp id fun hlast => by rw [List.mem_singleton.mp hlast]

omit [DecidableEq ρ] in
/-- Whoever waits for a place, or has been given one, still does when another is given back. -/
theorem mem_guests_release (h : q ∈ m.guests) : q ∈ m.release.2.guests := by
  unfold release
  split
  · exact h
  · next first others hwaiting =>
    unfold guests at h ⊢
    rw [hwaiting] at h
    simp only [List.mem_append, List.mem_cons] at h ⊢
    tauto

end Mailbox

namespace Hold.Owns

variable {running : Bool} {letters : List Letter} {hold : Hold}

/-- A request of the script is one that it waits for the answer to. -/
theorem request {sender : Party} {request : Request}
    (h : hold.Owns running (.request sender request :: letters)) :
    hold = .answer none ∧ letters = [] := by
  cases hold with
  | answer given =>
    cases given with
    | none =>
      obtain ⟨request', hletters⟩ := h
      exact ⟨rfl, (List.cons.inj hletters).2⟩
    | some answer => cases h
  | ending => cases running <;> cases h
  | _ => cases h

/-- After its last letter the script waits for the end. -/
theorem farewell (h : hold.Owns running (.farewell :: letters)) :
    hold = .ending ∧ running = true ∧ letters = [] := by
  cases hold with
  | answer given =>
    cases given with
    | none =>
      obtain ⟨request, hletters⟩ := h
      cases hletters
    | some answer => cases h
  | ending =>
    cases running with
    | true => exact ⟨rfl, rfl, (List.cons.inj h).2⟩
    | false => cases h
  | _ => cases h

end Hold.Owns

namespace Turns

variable {p q : Party} {t : Turns}

/-- Nobody loses a turn when a request is served. -/
theorem Expects.served (h : t.Expects q) (news : Bool) (alarms : List Timer) (sender : Party) :
    (t.served news alarms sender).Expects q := by
  have hnews : (if news then t.wake .listener else t).Expects q := by
    split
    · exact h.wake .listener
    · exact h
  unfold Turns.served
  dsimp only
  split
  · exact (hnews.wakeAlarms alarms).wake .script
  · exact hnews.wakeAlarms alarms

/-- A script that was told an answer is to have a turn. -/
theorem expects_served (news : Bool) (alarms : List Timer) (t : Turns) :
    (t.served news alarms .script).Expects .script := by
  unfold served
  dsimp only
  rw [if_pos rfl]
  exact expects_wake _ _

end Turns

namespace Run

namespace Live

variable {capacity : Nat} {busy : Option Party} {p : Party} {r : Run}

/-! ## Letters and places -/

/-- The script may wait for something else when letters and places change. -/
theorem settle (h : Live capacity busy r) (m : Mailbox Party Letter) (turns : Turns) (hold : Hold)
    (sound : m.Sound capacity) (expects : ∀ q, r.turns.Expects q → turns.Expects q)
    (granted : ∀ q ∈ m.granted, q ∈ r.mailbox.granted ∨ turns.Expects q)
    (guests : ∀ q ∈ m.guests, (r.hold hold).Seeks q)
    (letters : m.letters ≠ [] → r.mailbox.letters ≠ [] ∨ turns.Expects .coordinator)
    (dismissal : hold = .watcher →
      r.watcher.watch = .over ∨ r.watcher.dismissed = true ∧ r.Attends busy .watcher)
    (own : hold.Owns r.coordinator.running (m.letters.filter Letter.isOwn))
    (stopped : r.coordinator.running = false → hold = .ending)
    (script : (busy = some .script ∨ turns.Expects .script) ∨
      ({ r with mailbox := m, turns := turns }.hold hold).Waits)
    (pause : busy = some .script ∨ (r.hold hold).Pauses) :
    Live capacity busy ({ r with mailbox := m, turns := turns }.hold hold) := by
  have hattends : ∀ q, r.Attends busy q → busy = some q ∨ turns.Expects q := fun q hq =>
    hq.imp id (expects q)
  refine ⟨sound, fun q hq => ?_, guests, fun hrunning hletters => ?_, fun hstopped => ?_,
    h.heardOut, h.moment, h.watch, fun hhold => ?_, own, stopped, script, pause⟩
  · exact (granted q hq).elim (fun hq => hattends q (h.granted q hq)) .inr
  · exact (letters hletters).elim (fun hletters => hattends _ (h.letters hrunning hletters)) .inr
  · exact (h.listener hstopped).imp id (hattends _)
  · exact (dismissal hhold).imp id (And.imp id (hattends _))

/-- What others do about letters and places is seen to, as long as the script's letters stay, and
the script waits for its place as before. -/
theorem exchange (h : Live capacity busy r) {m : Mailbox Party Letter} {turns : Turns}
    (sound : m.Sound capacity) (expects : ∀ q, r.turns.Expects q → turns.Expects q)
    (granted : ∀ q ∈ m.granted, q ∈ r.mailbox.granted ∨ turns.Expects q)
    (guests : ∀ q ∈ m.guests, q ∈ r.mailbox.guests ∨ r.Seeks q)
    (place : .script ∈ r.mailbox.guests → .script ∈ m.guests)
    (letters : m.letters ≠ [] → r.mailbox.letters ≠ [] ∨ turns.Expects .coordinator)
    (own : m.letters.filter Letter.isOwn = r.mailbox.letters.filter Letter.isOwn) :
    Live capacity busy { r with mailbox := m, turns := turns } := by
  refine h.settle m turns r.script.hold sound expects granted
    (fun q hq => (guests q hq).elim (h.guests q) id) letters h.dismissal (own ▸ h.own) h.stopped
    (h.script.imp (Or.imp id (expects _)) fun hwaits => ?_) h.pause
  unfold Waits at hwaits ⊢
  dsimp only [Run.hold]
  split at hwaits
  · exact place hwaits
  · exact place hwaits
  all_goals exact hwaits

/-! ## The coordinator -/

/-- The place of a letter that was taken out is handed on, and nothing else happens. -/
theorem handedOn_grant (h : r.mailbox.Sound capacity) {letter : Letter} {rest : List Letter}
    (hletters : r.mailbox.letters = letter :: rest) :
    ∃ m turns, r.grant (Mailbox.release { r.mailbox with letters := rest }) =
        { r with mailbox := m, turns := turns } ∧
      m.Sound capacity ∧ m.letters = rest ∧ (∀ q, q ∈ m.guests ↔ q ∈ r.mailbox.guests) ∧
      (∀ q ∈ m.granted, q ∈ r.mailbox.granted ∨ turns.Expects q) ∧
      ∀ q, r.turns.Expects q → turns.Expects q := by
  obtain ⟨hsound, hguests⟩ := h.take hletters
  refine ⟨_, _, grant_eq _ r, hsound, Mailbox.letters_release _, fun q => ⟨hguests q, fun hq =>
    Mailbox.mem_guests_release (m := { r.mailbox with letters := rest }) hq⟩, fun q hq => ?_,
    fun q hq => ?_⟩
  · refine (Mailbox.granted_release hq).imp id fun hgiven => ?_
    rw [hgiven]
    exact Turns.expects_wake q r.turns
  · cases (Mailbox.release { r.mailbox with letters := rest }).1 with
    | none => exact hq
    | some p => exact hq.wake p

/-- The coordinator serves a request, and its place is given away before. -/
theorem serve (h : Live capacity (some .coordinator) r) {sender : Party} {request : Request}
    {rest : List Letter} (hletters : r.mailbox.letters = .request sender request :: rest) :
    Live capacity (some .coordinator)
      ((r.grant (Mailbox.release { r.mailbox with letters := rest })).serve sender request) := by
  obtain ⟨m, turns, hgrant, hsound, hleft, hguests, hgranted, hexpects⟩ :=
    handedOn_grant h.mailbox hletters
  have hrunning := Coordinator.running_serve r.coordinator request
  have hclock := Coordinator.clock_serve r.coordinator request
  have hown := h.own
  rw [hletters] at hown
  have hnonempty : r.mailbox.letters ≠ [] := by
    rw [hletters]
    exact List.cons_ne_nil _ _
  rw [hgrant, serve_eq (r := { r with mailbox := m, turns := turns }) h.not_awaiting]
  have hserved := fun q hq => Turns.Expects.served (t := turns) (q := q) hq
    (r.coordinator.feed.sent < (r.coordinator.serve request).2.feed.sent)
    (r.coordinator.serve request).2.timers sender
  by_cases hsender : sender = .script
  · subst hsender
    obtain ⟨hhold, hrest⟩ := Hold.Owns.request hown
    have hon : r.coordinator.running ≠ false := fun hoff => by
      have hending := h.stopped hoff
      rw [hhold] at hending
      cases hending
    have hseeks : ∀ q ∈ m.guests,
        (r.hold (.answer (some (r.coordinator.serve request).1))).Seeks q := fun q hq => by
      have hseeks := h.guests q ((hguests q).mp hq)
      cases q with
      | script =>
        unfold Seeks at hseeks
        rw [hhold] at hseeks
        rcases hseeks with ⟨request', hplaced⟩ | hfarewell
        · cases hplaced
        · cases hfarewell
      | _ => exact hseeks
    rw [if_pos rfl]
    exact (h.settle _ _ _ hsound (fun q hq => hserved q (hexpects q hq))
      (fun q hq => (hgranted q hq).imp id (hserved q)) hseeks (fun _ => .inl hnonempty) nofun
      (by rw [hleft]; exact hrest) (fun hoff => absurd hoff hon)
      (.inl (.inr (Turns.expects_served _ _ _))) (.inr nofun)).alike rfl rfl hrunning hclock rfl
      rfl rfl (.inr rfl)
  · have hletter : Letter.isOwn (.request sender request) = false := by
      cases sender with
      | script => exact absurd rfl hsender
      | _ => rfl
    have hothers : m.letters.filter Letter.isOwn = r.mailbox.letters.filter Letter.isOwn := by
      rw [hleft, hletters, List.filter_cons_of_neg (by rw [hletter]; exact Bool.false_ne_true)]
    rw [if_neg hsender]
    exact (h.exchange hsound (fun q hq => hserved q (hexpects q hq))
      (fun q hq => (hgranted q hq).imp id (hserved q)) (fun q hq => .inl ((hguests q).mp hq))
      (hguests _).mpr (fun _ => .inl hnonempty) hothers).alike rfl rfl hrunning hclock rfl rfl
      rfl (.inr rfl)

/-- The coordinator stops when it reads the last letter. -/
theorem stop (h : Live capacity (some .coordinator) r) {rest : List Letter}
    (hletters : r.mailbox.letters = .farewell :: rest) :
    Live capacity none ((r.grant (Mailbox.release { r.mailbox with letters := rest })).stop) := by
  obtain ⟨m, turns, hgrant, hsound, hleft, hguests, hgranted, hexpects⟩ :=
    handedOn_grant h.mailbox hletters
  have hown := h.own
  rw [hletters] at hown
  obtain ⟨hhold, hrunning, hrest⟩ := Hold.Owns.farewell hown
  obtain ⟨-, hclock, hoff, -⟩ := Coordinator.shutdown_of_running hrunning
  rw [hgrant]
  refine ⟨hsound, fun q hq => ?_, fun q hq => ?_, fun hon => ?_, fun _ => .inr (.inr ?_),
    fun _ => hoff, h.moment, h.watch, fun hwatcher => ?_, ?_, fun _ => hhold, .inr ?_, .inr ?_⟩
  · refine .inr (Turns.Expects.wake ?_ .listener)
    rcases hgranted q hq with hkept | hexpects'
    · rcases h.granted q hkept with hbusy | hexpects'
      · cases hbusy
        exact absurd (List.mem_append_right _ hkept) (h.guests .coordinator)
      · exact hexpects q hexpects'
    · exact hexpects'
  · have hseeks := h.guests q ((hguests q).mp hq)
    cases q with
    | alarm t =>
      show t.deadline ≤ r.coordinator.shutdown.2.clock
      rw [hclock]
      exact hseeks
    | _ => exact hseeks
  · exact absurd (hoff.symm.trans hon) Bool.false_ne_true
  · exact Turns.expects_wake _ _
  · cases hhold.symm.trans hwatcher
  · show Hold.Owns r.coordinator.shutdown.2.running (m.letters.filter Letter.isOwn) r.script.hold
    rw [hhold, hoff, hleft, hrest]
    rfl
  · unfold Waits
    simp only [Run.stop, Run.wake, hhold]
  · intro time hmoment
    cases hhold.symm.trans hmoment

/-- The coordinator leaves nothing undone in its turn. -/
theorem work (n : Nat) (h : Live capacity (some .coordinator) r) :
    Live capacity none (r.work n) := by
  induction n generalizing r with
  | zero => exact h.rest (Party.noConfusion ·)
  | succ n ih =>
    unfold Run.work Mailbox.take?
    cases hletters : r.mailbox.letters with
    | nil =>
      exact h.finish (fun hmem => h.guests .coordinator (List.mem_append_right _ hmem))
        fun _ => hletters
    | cons letter rest =>
      cases letter with
      | request sender request => exact ih (h.serve hletters)
      | farewell => exact h.stop hletters

/-! ## The listener, the watcher and the alarms -/

/-- Nor does the listener. -/
theorem listen (h : Live capacity (some .listener) r) : Live capacity none r.listen := by
  have hgranted : .listener ∉ r.mailbox.granted := fun hmem =>
    h.guests .listener (List.mem_append_right _ hmem)
  unfold Run.listen
  obtain ⟨read, feed⟩ := r.coordinator.feed.receiveSome Turns.allowance r.listener
  dsimp only
  split
  · refine Live.rest (r := { r with
      coordinator := { r.coordinator with feed := feed }
      collected := r.collected ++ Feed.itemsOf (read.getD []) }) ?_ (Party.noConfusion ·)
    exact h.alike rfl rfl rfl rfl rfl rfl rfl (.inr rfl)
  · have hstopped : r.coordinator.running = false → (!r.coordinator.running) = true :=
      fun hoff => by rw [hoff]; rfl
    have hheard : Live capacity (some .listener) { r with
        coordinator := { r.coordinator with feed := feed }
        collected := r.collected ++ Feed.itemsOf (read.getD [])
        heardOut := !r.coordinator.running } :=
      { h with
        listener := fun hoff => .inl (hstopped hoff)
        heardOut := fun hheard => by simpa using hheard }
    exact hheard.finish hgranted hstopped

/-- When the watcher is done, whoever waited for that is to have a turn. -/
theorem endWatch (h : Live capacity (some .watcher) r) : Live capacity none r.endWatch := by
  have hwoken := h.wake .script
  have hover : Live capacity (some .watcher) r.endWatch :=
    { hwoken with
      watch := .inr rfl
      dismissal := fun _ => .inl rfl
      script := .inl (.inr (Turns.expects_wake .script r.turns)) }
  exact hover.finish (fun hmem => h.guests .watcher (List.mem_append_right _ hmem)) fun _ => rfl

/-- A watcher that is not to interrupt the run waits for its dismissal only. -/
theorem watch_eq (h : Live capacity busy r) :
    r.watch = if r.watcher.dismissed then r.endWatch else r := by
  have hwithdraw : r.mailbox.withdraw .watcher = (none, r.mailbox) := by
    unfold Mailbox.withdraw
    rw [if_neg fun hmem => h.guests .watcher (List.mem_append_right _ hmem),
      List.erase_of_not_mem fun hmem => h.guests .watcher (List.mem_append_left _ hmem)]
  have hcalm : r.isInterrupted = false := by
    unfold isInterrupted
    rw [h.moment]
  unfold Run.watch
  split
  · rw [hwithdraw]
    rfl
  · rcases h.watch with hwatch | hwatch
    · rw [hwatch, hcalm]
      rfl
    · rw [hwatch]

/-- The watcher leaves nothing undone. -/
theorem watches (h : Live capacity (some .watcher) r) : Live capacity none r.watch := by
  rw [h.watch_eq]
  split
  · exact h.endWatch
  · next hstays =>
    refine h.finish (fun hmem => h.guests .watcher (List.mem_append_right _ hmem)) fun hhold => ?_
    exact (h.dismissal hhold).resolve_right fun hgoes => hstays hgoes.1

/-- An alarm sends its letter, waits for a place, or sleeps on. -/
theorem ring {t : Timer} (h : Live capacity (some (.alarm t)) r) :
    Live capacity none (r.ring t) := by
  unfold Run.ring
  split
  · next hdue =>
    have hstays : .script ∈ r.mailbox.guests →
        .script ∈ (r.mailbox.reserve (Party.alarm t)).2.guests := fun hmem =>
      Mailbox.mem_guests_reserve hmem (Party.noConfusion ·)
    cases hplace : (r.mailbox.reserve (Party.alarm t)).1 with
    | true =>
      rw [send_of_place hplace]
      obtain ⟨hsound, hguests⟩ := h.mailbox.put hplace
        (.request (.alarm t) (.expire t.name t.generation))
      have hown : ((r.mailbox.reserve (Party.alarm t)).2.put
          (.request (.alarm t) (.expire t.name t.generation))).letters.filter Letter.isOwn =
            r.mailbox.letters.filter Letter.isOwn := by
        show ((r.mailbox.reserve (Party.alarm t)).2.letters ++ [_]).filter Letter.isOwn = _
        rw [Mailbox.letters_reserve, List.filter_append]
        exact List.append_nil _
      have hsent := h.exchange hsound (fun q hq => hq.wake .coordinator)
        (fun q hq => .inl (Mailbox.granted_reserve hq)) (fun q hq => .inl (hguests q hq).1) hstays
        (fun _ => .inr (Turns.expects_wake _ _)) hown
      exact hsent.finish (fun hmem => (hguests _ (List.mem_append_right _ hmem)).2 rfl) trivial
    | false =>
      rw [send_of_full hplace]
      obtain ⟨hsound, hguests⟩ := h.mailbox.wait hplace
      have hwaits := h.exchange hsound (fun q hq => hq)
        (fun q hq => .inl (Mailbox.granted_reserve hq))
        (fun q hq => (hguests q hq).imp id fun hself => by rw [hself]; exact hdue) hstays
        (fun hletters => .inl (Mailbox.letters_reserve _ r.mailbox ▸ hletters))
        (by rw [Mailbox.letters_reserve])
      exact hwaits.finish (Mailbox.not_granted_of_full hplace) trivial
  · next hdue =>
    refine Live.finish (p := .alarm t) ?_ (fun hmem => hdue ?_) trivial
    · exact h.alike rfl rfl rfl rfl rfl rfl rfl (.inr rfl)
    · exact h.guests _ (List.mem_append_right _ hmem)

end Live

end Run

end SatelliteWindows
