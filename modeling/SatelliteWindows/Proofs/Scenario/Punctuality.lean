import SatelliteWindows.Proofs.Coordinator.Timers
import SatelliteWindows.Proofs.Scenario.Persistence

/-!
# Alarms are punctual

Every timer of a run is somewhere: its alarm sleeps, is to have a turn, waits for a place in the
mailbox or has written its letter. Nobody lets a moment pass in which there is something to do, so
none of them is overdue, and an opening that is awaited no longer is never awaited again.

The runs are without interruption.
-/

namespace SatelliteWindows

/-! ## Openings that are awaited -/

/-- From one scene to another openings were made and answered, and none that was not awaited any
more is awaited again. -/
structure Scene.Ages {σ : Type} (s t : Scene σ) : Prop where
  /-- Openings are numbered upwards. -/
  generation : s.fleet.generation ≤ t.fleet.generation
  /-- Only openings that are new come to be awaited. -/
  awaited : ∀ name g, g ≤ s.fleet.generation → t.fleet.awaited.get? name = some g →
    s.fleet.awaited.get? name = some g

namespace Scene

variable {σ : Type} {s t u : Scene σ}

/-- A scene that is left alone gets no older. -/
theorem Ages.refl (s : Scene σ) : Ages s s := ⟨Nat.le_refl _, fun _ _ _ => id⟩

/-- A scene that gets older twice gets older. -/
theorem Ages.trans (h : Ages s t) (h' : Ages t u) : Ages s u :=
  ⟨Nat.le_trans h.generation h'.generation, fun name g hg hawaited =>
    h.awaited name g hg (h'.awaited name g (Nat.le_trans hg h.generation) hawaited)⟩

/-- Whatever is done about openings, only new ones come to be awaited. -/
theorem ages_of_turn {x : Happening} (turn : Turn x s.handshake t.handshake) : Ages s t := by
  refine ⟨turn.generation_le, fun name g hg hawaited => ?_⟩
  have hk : t.handshake.awaited.get? name = some g := hawaited
  show s.handshake.awaited.get? name = some g
  have hg' : g ≤ s.handshake.generation := hg
  generalize s.handshake = h at *
  generalize t.handshake = k at *
  cases turn with
  | opened n =>
    have hput : (if name = n then some (h.generation + 1) else h.awaited.get? name) = some g := by
      rw [← NameMap.get?_put]
      exact hk
    split at hput
    · cases hput
      omega
    · exact hput
  | registered | closed | expired | lapsed => exact (NameMap.of_get?_erase hk).2
  | allClosed => cases hk
  | flushed | dispatched | commanded | idle => exact hk

/-- Whatever is asked, and whatever happens to the desktop, numbers of openings are not
taken twice. -/
theorem ages_move [Desktop σ] (m : Move σ) (s : Scene σ) : Ages s (s.move m) :=
  ages_of_turn (s.turn_move m)

end Scene

namespace Coordinator

variable {σ : Type} [Desktop σ] {c : Coordinator σ}

/-- That holds when a coordinator serves a request. -/
theorem ages_serve (r : Request) (c : Coordinator σ) : Scene.Ages c.scene (c.serve r).2.scene := by
  cases hrunning : c.running with
  | true =>
    rw [(serve_of_running hrunning r).1]
    exact Scene.ages_move _ _
  | false =>
    rw [serve_of_not_running hrunning]
    exact .refl _

/-- Requests do not change after what time an opening is given up. -/
theorem timeout_serve (r : Request) (c : Coordinator σ) : (c.serve r).2.timeout = c.timeout := by
  cases hrunning : c.running with
  | true => exact (serve_of_running hrunning r).2.2.2
  | false => rw [serve_of_not_running hrunning]

/-- A timer that is set is for the opening that was made. -/
theorem timers_serve_eq (htimers : c.timers = []) (r : Request) :
    (c.serve r).2.timers = [] ∨ ∃ t span, (c.serve r).2.timers = [t] ∧ c.timeout = some span ∧
      t.deadline = c.clock + span ∧ c.scene.fleet.generation < t.generation ∧
        t.generation ≤ (c.serve r).2.scene.fleet.generation := by
  cases hrunning : c.running with
  | false =>
    rw [serve_of_not_running hrunning]
    exact .inl htimers
  | true =>
    cases htimeout : c.timeout with
    | none =>
      left
      unfold serve arm
      rw [if_pos hrunning]
      dsimp only
      split
      · next heq => exact absurd (heq.symm.trans htimeout) nofun
      · exact htimers
    | some span =>
      rw [timers_serve hrunning htimeout, htimers]
      cases htimer : Step.timer? span ⟨c.clock, c.scene, .request r⟩ with
      | none => exact .inl rfl
      | some t =>
        obtain ⟨-, name, g, hopened, rfl⟩ := Step.timer?_eq_some htimer
        obtain ⟨hnew, hlatest⟩ := generation_of_opened hopened
        have hbefore : c.scene.fleet.generation < g := by
          rw [hnew]
          exact Nat.lt_succ_self _
        have hafter : (c.serve r).2.scene.fleet.generation = g := by
          rw [(serve_of_running hrunning r).1]
          exact hlatest
        exact .inr ⟨_, span, rfl, rfl, rfl, hbefore, Nat.le_of_eq hafter.symm⟩

/-- It holds when a coordinator shuts down as well. -/
theorem ages_shutdown (c : Coordinator σ) :
    Scene.Ages c.scene c.shutdown.2.scene ∧ c.shutdown.2.timeout = c.timeout ∧
      c.shutdown.2.clock = c.clock := by
  cases hrunning : c.running with
  | true =>
    obtain ⟨hscene, hclock, -, htimeout, -⟩ := shutdown_of_running hrunning
    rw [hscene]
    exact ⟨Scene.ages_move _ _, htimeout, hclock⟩
  | false =>
    rw [shutdown_of_not_running hrunning]
    exact ⟨.refl _, rfl, rfl⟩

/-- Giving up an opening that is not awaited does nothing. -/
theorem serve_expire_of_stale {name : String} {generation : Nat}
    (h : c.scene.fleet.awaited.get? name ≠ some generation) :
    (c.serve (.expire name generation)).2 = c := by
  have hscene : c.scene.expire name generation = (false, c.scene) := if_neg h
  have hperform : Scene.perform (.expire name generation) c.scene =
      (.ok (.flag false), c.scene) := by
    show (c.scene.expire name generation).map (fun b => Except.ok (Answer.flag b)) id = _
    rw [hscene]
    rfl
  have hadvance : (c.advance (Scene.perform (.expire name generation))).2 = c := by
    unfold advance
    rw [hperform]
    dsimp only
    rw [List.drop_length]
    rfl
  unfold serve
  split
  · exact hadvance
  · rfl

end Coordinator

/-! ## Where timers are -/

/-- The timer of an alarm. -/
def Party.timer? : Party → Option Timer
  | .alarm t => some t
  | _ => none

/-- The timer of the alarm that has written a letter. -/
def Letter.timer? : Letter → Option Timer
  | .request sender _ => sender.timer?
  | .farewell => none

/-- The letter that an alarm writes when it goes off. -/
def Timer.letter (t : Timer) : Letter := .request (.alarm t) (.expire t.name t.generation)

/-- A party with a timer is its alarm. -/
theorem Party.timer?_eq_some {p : Party} {t : Timer} : p.timer? = some t ↔ p = .alarm t := by
  cases p <;> simp [timer?]

namespace Run

/-- The timers that are set: alarms sleep, are to have a turn, wait for a place, or have written
their letters. -/
def timers (r : Run) : List Timer :=
  r.alarms ++ (r.turns.queue ++ r.mailbox.guests).filterMap Party.timer?
    ++ r.mailbox.letters.filterMap Letter.timer?

/-- The opening that a timer was set for is awaited. -/
def Awaits (t : Timer) (r : Run) : Prop :=
  r.coordinator.scene.fleet.awaited.get? t.name = some t.generation

instance (t : Timer) (r : Run) : Decidable (r.Awaits t) :=
  inferInstanceAs (Decidable (_ = some _))

/-- An alarm sleeps, or queues, or waits for a place, or its letter is under way. -/
theorem mem_timers {t : Timer} {r : Run} : t ∈ r.timers ↔
    t ∈ r.alarms ∨ .alarm t ∈ r.turns.queue ∨ .alarm t ∈ r.mailbox.guests ∨
      ∃ l ∈ r.mailbox.letters, l.timer? = some t := by
  unfold timers
  simp only [List.mem_append, List.mem_filterMap, Party.timer?_eq_some, exists_eq_right, or_assoc]

/-- A timer is set at this moment, for an opening that is new. -/
def Sets (t : Timer) (r u : Run) : Prop :=
  (∃ span, r.coordinator.timeout = some span ∧ t.deadline = r.clock + span) ∧
    r.coordinator.scene.fleet.generation < t.generation ∧
      t.generation ≤ u.coordinator.scene.fleet.generation

/-- One run comes of another at the same moment, perhaps while a party is at work, and its timers
are those of the other or new. -/
structure Follows (busy : Option Party) (r u : Run) : Prop where
  /-- No time has passed. -/
  clock : u.clock = r.clock
  /-- Openings are given up after the same time. -/
  timeout : u.coordinator.timeout = r.coordinator.timeout
  /-- Only new openings have come to be awaited. -/
  ages : Scene.Ages r.coordinator.scene u.coordinator.scene
  /-- Only new timers were set. -/
  timers : ∀ t ∈ u.timers, t ∈ r.timers ∨ r.Sets t u
  /-- An alarm that is to go off does not sleep. -/
  sleeping : ∀ t ∈ u.alarms, t ∈ r.alarms ∨ r.clock < t.deadline
  /-- The script has not begun to queue. -/
  queue : .script ∈ u.turns.queue → .script ∈ r.turns.queue
  /-- No alarm has begun to rest. -/
  resting : ∀ t, .alarm t ∈ u.turns.resting → .alarm t ∈ r.turns.resting
  /-- Others have not written letters, except for alarms that were to go off. -/
  letters : ∀ l ∈ u.mailbox.letters,
    l ∈ r.mailbox.letters ∨ l.isOwn = true ∨ ∃ t : Timer, l = t.letter ∧ t.deadline ≤ r.clock
  /-- Whoever was to have a turn still is, or is at work. -/
  expects : ∀ p, r.turns.Expects p → u.Attends busy p

namespace Follows

variable {r u v : Run} {busy : Option Party} {p : Party}

/-- A run that is left alone follows itself. -/
theorem refl (r : Run) : Follows busy r r :=
  ⟨rfl, rfl, .refl _, fun _ => .inl, fun _ => .inl, id, fun _ => id, fun _ => .inl, fun _ => .inr⟩

/-- What becomes of the fleet, and of who is where. -/
theorem change (h : Follows busy r u) (clock : v.clock = u.clock)
    (timeout : v.coordinator.timeout = u.coordinator.timeout)
    (ages : Scene.Ages u.coordinator.scene v.coordinator.scene)
    (timers : ∀ t ∈ v.timers, t ∈ u.timers ∨ t ∈ r.timers ∨ u.Sets t v)
    (sleeping : ∀ t ∈ v.alarms, t ∈ u.alarms ∨ r.clock < t.deadline)
    (queue : .script ∈ v.turns.queue → .script ∈ u.turns.queue)
    (resting : ∀ t, .alarm t ∈ v.turns.resting → .alarm t ∈ u.turns.resting)
    (letters : ∀ l ∈ v.mailbox.letters, l ∈ u.mailbox.letters ∨ l.isOwn = true ∨
      ∃ t : Timer, l = t.letter ∧ t.deadline ≤ r.clock)
    (expects : ∀ p, u.turns.Expects p → v.Attends busy p) : Follows busy r v where
  clock := clock.trans h.clock
  timeout := timeout.trans h.timeout
  ages := h.ages.trans ages
  timers t ht := by
    rcases timers t ht with ht | ht | ⟨⟨span, hspan, hdeadline⟩, hbefore, hafter⟩
    · refine (h.timers t ht).imp id fun ⟨hset, hbefore, hafter⟩ =>
        ⟨hset, hbefore, Nat.le_trans hafter ages.generation⟩
    · exact .inl ht
    · exact .inr ⟨⟨span, h.timeout ▸ hspan, h.clock ▸ hdeadline⟩,
        Nat.lt_of_le_of_lt h.ages.generation hbefore, hafter⟩
  sleeping t ht := (sleeping t ht).elim (h.sleeping t) .inr
  queue := h.queue ∘ queue
  resting t ht := h.resting t (resting t ht)
  letters l hl := (letters l hl).elim (h.letters l) .inr
  expects p hp := (h.expects p hp).elim .inl (expects p)

/-- What the script does for itself, and changes of the desktop. -/
theorem alike (h : Follows busy r u) (clock : v.clock = u.clock)
    (timeout : v.coordinator.timeout = u.coordinator.timeout)
    (fleet : v.coordinator.scene.fleet = u.coordinator.scene.fleet) (alarms : v.alarms = u.alarms)
    (turns : v.turns = u.turns) (mailbox : v.mailbox = u.mailbox) : Follows busy r v := by
  refine h.change clock timeout ⟨by rw [fleet], fun _ _ _ => by rw [fleet]; exact id⟩
    (fun t ht => .inl ?_) (fun t ht => .inl (alarms ▸ ht)) (by rw [turns]; exact id)
    (by rw [turns]; exact fun _ => id) (fun l hl => .inl (mailbox ▸ hl))
    fun p hp => .inr (turns ▸ hp)
  unfold Run.timers at ht ⊢
  rwa [alarms, turns, mailbox] at ht

/-- Parties are woken and letters are exchanged. -/
theorem exchange (h : Follows busy r u) (turns : Turns) (m : Mailbox Party Letter)
    (queue : ∀ p ∈ turns.queue, p ∈ u.turns.queue ∨
      p ≠ .script ∧ ∀ t, p = .alarm t → t ∈ u.timers ∨ t ∈ r.timers)
    (resting : turns.resting = u.turns.resting ∨
      ∃ p, (∀ t, p ≠ .alarm t) ∧ turns.resting = p :: u.turns.resting)
    (guests : ∀ p ∈ m.guests, p ∈ u.mailbox.guests ∨ ∀ t, p = .alarm t → t ∈ r.timers)
    (letters : ∀ l ∈ m.letters, l ∈ u.mailbox.letters ∨ l.isOwn = true ∨
      ∃ t : Timer, l = t.letter ∧ t.deadline ≤ r.clock ∧ t ∈ r.timers)
    (expects : ∀ p, u.turns.Expects p → busy = some p ∨ turns.Expects p) :
    Follows busy r { u with turns := turns, mailbox := m } := by
  refine h.change rfl rfl (.refl _) (fun t ht => ?_) (fun t => .inl) (fun hp => ?_)
    (fun t ht => ?_) (fun l hl => ?_) expects
  · rw [mem_timers] at ht ⊢
    rcases ht with ht | ht | ht | ⟨l, hl, ht⟩
    · exact .inl (.inl ht)
    · rcases queue _ ht with ht | ⟨-, ht⟩
      · exact .inl (.inr (.inl ht))
      · exact (ht t rfl).imp mem_timers.mp .inl
    · exact (guests _ ht).imp (fun ht => .inr (.inr (.inl ht))) fun ht => .inl (ht t rfl)
    · rcases letters l hl with hl | hl | ⟨a, rfl, -, ha⟩
      · exact .inl (.inr (.inr (.inr ⟨l, hl, ht⟩)))
      · cases l with
        | farewell => cases ht
        | request sender req =>
          cases sender with
          | script => cases ht
          | _ => cases hl
      · obtain rfl : a = t := Option.some.inj ht
        exact .inr (.inl ha)
  · exact (queue _ hp).elim id fun hp => absurd rfl hp.1
  · rcases resting with hsame | ⟨p, hp, hmore⟩
    · exact hsame ▸ ht
    · have hmem : .alarm t ∈ p :: u.turns.resting := hmore ▸ ht
      exact (List.mem_cons.mp hmem).resolve_left fun heq => hp t heq.symm
  · exact (letters l hl).imp id (Or.imp id fun ⟨t, hl, ht, _⟩ => ⟨t, hl, ht⟩)

/-- To wake a party that is no alarm is nothing to alarms. -/
theorem wake (h : Follows busy r u) (hp : ∀ t, p ≠ .alarm t) : Follows busy r (u.wake p) :=
  h.exchange (u.turns.wake p) u.mailbox
    (fun _ hq => (Turns.mem_queue_wake hq).imp id fun ⟨hself, hne⟩ =>
      ⟨hself ▸ hne, fun t ht => absurd (hself ▸ ht) (hp t)⟩)
    (.inl (Turns.resting_wake p _)) (fun _ => .inl) (fun _ => .inl) fun _ hq => .inr (hq.wake p)

/-- Nor is it anything to them if one rests. -/
theorem rest (h : Follows busy r u) (hp : ∀ t, p ≠ .alarm t) : Follows busy r (u.rest p) :=
  h.exchange (u.turns.rest p) u.mailbox (fun _ => .inl) (.inr ⟨p, hp, rfl⟩) (fun _ => .inl)
    (fun _ => .inl) fun _ hq => .inr (hq.rest p)

/-- Whoever waits for a place has waited before, or has asked for one. -/
theorem mem_guests_reserve {m : Mailbox Party Letter} {q : Party}
    (h : q ∈ (m.reserve p).2.guests) : q ∈ m.guests ∨ q = p := by
  unfold Mailbox.reserve at h
  unfold Mailbox.guests at h ⊢
  split at h
  · exact .inl ((List.mem_append.mp h).elim (List.mem_append_left _) fun hq =>
      List.mem_append_right _ (List.mem_of_mem_erase hq))
  · split at h
    · exact .inl h
    · split at h
      · exact .inl h
      · simp only [List.mem_append, List.mem_singleton] at h ⊢
        tauto

/-- A letter is sent by the script, or by an alarm that goes off. -/
theorem send (h : Follows busy r u) {letter : Letter} (hp : ∀ t, p = .alarm t → t ∈ r.timers)
    (hletter : letter.isOwn = true ∨
      ∃ t : Timer, letter = t.letter ∧ t.deadline ≤ r.clock ∧ t ∈ r.timers) :
    Follows busy r (u.send p letter).2 := by
  have hguests : ∀ q ∈ (u.mailbox.reserve p).2.guests,
      q ∈ u.mailbox.guests ∨ ∀ t, q = .alarm t → t ∈ r.timers := fun q hq =>
    (mem_guests_reserve hq).imp id fun hself => by subst hself; exact hp
  have hletters := Mailbox.letters_reserve p u.mailbox
  cases hplace : (u.mailbox.reserve p).1 with
  | true =>
    rw [send_of_place hplace]
    refine h.exchange _ _ (fun q hq => ?_) (.inl (Turns.resting_wake _ _)) hguests (fun l hl => ?_)
      fun _ hq => .inr (hq.wake _)
    · refine (Turns.mem_queue_wake hq).imp id fun hself => ?_
      rw [hself.1]
      exact ⟨nofun, nofun⟩
    · rcases List.mem_append.mp hl with hl | hl
      · exact .inl (hletters ▸ hl)
      · rw [List.mem_singleton.mp hl]
        exact .inr hletter
  | false =>
    rw [send_of_full hplace]
    exact h.exchange u.turns _ (fun _ => .inl) (.inl rfl) hguests
      (fun l hl => .inl (hletters ▸ hl)) fun _ => .inr

/-- Whoever waits when a place was given back has waited before. -/
theorem mem_guests_of_release {m : Mailbox Party Letter} {q : Party}
    (h : q ∈ m.release.2.guests ∨ m.release.1 = some q) : q ∈ m.guests := by
  unfold Mailbox.release Mailbox.guests at *
  cases hwaiting : m.waiting with
  | nil => simpa [hwaiting] using h
  | cons first others =>
    simp only [hwaiting, List.mem_append, List.mem_cons, List.not_mem_nil, or_false,
      Option.some.injEq] at h ⊢
    rcases h with (h | h | h) | h <;> simp [h]

/-- A letter is taken out, and its place handed on. -/
theorem grant (h : Follows busy r u) {letter : Letter} {rest : List Letter}
    (hletters : u.mailbox.letters = letter :: rest) :
    Follows busy r (u.grant (Mailbox.release { u.mailbox with letters := rest })) := by
  rw [grant_eq]
  refine h.exchange _ _ (fun q hq => ?_) (.inl ?_)
    (fun q hq => .inl (mem_guests_of_release (m := { u.mailbox with letters := rest }) (.inl hq)))
    (fun l hl => ?_) fun q hq => .inr ?_
  · cases hgiven : (Mailbox.release { u.mailbox with letters := rest }).1 with
    | none =>
      rw [hgiven] at hq
      exact .inl hq
    | some p =>
      rw [hgiven] at hq
      refine (Turns.mem_queue_wake hq).imp id fun ⟨hself, hne⟩ => ⟨hself ▸ hne, fun t ht => .inl ?_⟩
      have hguest := mem_guests_of_release (m := { u.mailbox with letters := rest }) (.inr hgiven)
      exact mem_timers.mpr (.inr (.inr (.inl (ht ▸ hself ▸ hguest))))
  · cases (Mailbox.release { u.mailbox with letters := rest }).1 with
    | none => rfl
    | some p => exact Turns.resting_wake p _
  · rw [Mailbox.letters_release] at hl
    exact .inl (hletters ▸ List.mem_cons_of_mem _ hl)
  · cases (Mailbox.release { u.mailbox with letters := rest }).1 with
    | none => exact hq
    | some p => exact hq.wake p

/-- When a request was served only the listener and the alarms that were set are woken. -/
theorem mem_queue_served {news : Bool} {alarms : List Timer} {sender q : Party} {t : Turns}
    (h : q ∈ (t.served news alarms sender).queue) :
    q ∈ t.queue ∨ q = .listener ∨ ∃ a ∈ alarms, q = .alarm a := by
  unfold Turns.served at h
  dsimp only at h
  have hwoken : q ∈ (alarms.foldl (fun t a => t.wake (.alarm a))
      (if news then t.wake .listener else t)).queue := by
    split at h
    · exact h
    · exact h
  rcases Turns.mem_queue_wakeAlarms hwoken with hq | hq
  · split at hq
    · exact (Turns.mem_queue_wake hq).imp id fun hself => .inl hself.1
    · exact .inl hq
  · exact .inr (.inr hq)

/-- Those who rest are not concerned. -/
theorem resting_served (news : Bool) (alarms : List Timer) (sender : Party) (t : Turns) :
    (t.served news alarms sender).resting = t.resting := by
  unfold Turns.served
  dsimp only
  split <;> split <;> simp only [Turns.resting_wake, Turns.resting_wakeAlarms]

/-- A request is carried out; the timer that is set is for the opening that is made. -/
theorem serve (h : Follows busy r u) (hwatch : u.watcher.watch ≠ .awaiting)
    (htimers : u.coordinator.timers = []) (sender : Party) (req : Request) :
    Follows busy r (u.serve sender req) := by
  rw [serve_eq hwatch]
  refine h.change (Coordinator.clock_serve _ _) (Coordinator.timeout_serve _ _)
    (Coordinator.ages_serve _ _) (fun t ht => ?_) (fun _ => .inl) (fun hq => ?_) (fun t ht => ?_)
    (fun _ => .inl) fun q hq => .inr (hq.served _ _ sender)
  · rw [mem_timers] at ht
    rcases ht with ht | ht | ht
    · exact .inl (mem_timers.mpr (.inl ht))
    · rcases mem_queue_served ht with ht | ht | ⟨a, ha, ht⟩
      · exact .inl (mem_timers.mpr (.inr (.inl ht)))
      · cases ht
      · obtain rfl := Party.alarm.inj ht
        rcases Coordinator.timers_serve_eq htimers req with hnone | ⟨b, span, hone, hspan, hset⟩
        · rw [hnone] at ha
          cases ha
        · rw [hone] at ha
          obtain rfl := List.mem_singleton.mp ha
          exact .inr (.inr ⟨⟨span, hspan, hset.1⟩, hset.2⟩)
    · exact .inl (mem_timers.mpr (.inr (.inr ht)))
  · rcases mem_queue_served hq with hq | hq | ⟨a, -, hq⟩
    · exact hq
    · cases hq
    · cases hq
  · rwa [resting_served] at ht

/-- Alarms stay what they are when the coordinator stops. -/
theorem stop (h : Follows busy r u) : Follows busy r u.stop := by
  obtain ⟨hages, htimeout, hclock⟩ := Coordinator.ages_shutdown u.coordinator
  refine Follows.wake (u := { u with coordinator := u.coordinator.shutdown.2 })
    (h.change hclock htimeout hages (fun _ => .inl) (fun _ => .inl) id (fun _ => id)
      (fun _ => .inl) fun _ => .inr) nofun

/-- They stay what they are while it works, but for those that are set. -/
theorem work (n : Nat) (h : Follows busy r u) (hwatch : u.watcher.watch ≠ .awaiting)
    (htimers : u.coordinator.timers = []) : Follows busy r (u.work n) := by
  induction n generalizing u with
  | zero => exact h.rest nofun
  | succ n ih =>
    unfold Run.work Mailbox.take?
    cases hletters : u.mailbox.letters with
    | nil => exact h
    | cons letter rest =>
      have hgranted := h.grant hletters
      have hsame := grant_eq (Mailbox.release { u.mailbox with letters := rest }) u
      cases letter with
      | request sender req =>
        have hwatch' :
            (u.grant (Mailbox.release { u.mailbox with letters := rest })).watcher.watch ≠
              .awaiting := by rwa [hsame]
        refine ih (hgranted.serve hwatch' (by rwa [hsame]) sender req) ?_ ?_
        · rwa [serve_eq hwatch']
        · rw [serve_eq hwatch']
      | farewell => exact hgranted.stop

/-- They stay what they are when the listener reads. -/
theorem listen (h : Follows busy r u) : Follows busy r u.listen := by
  unfold Run.listen
  obtain ⟨read, feed⟩ := u.coordinator.feed.receiveSome Turns.allowance u.listener
  dsimp only
  split
  · refine Follows.rest (u := { u with
      coordinator := { u.coordinator with feed := feed }
      collected := u.collected ++ Feed.itemsOf (read.getD []) }) ?_ nofun
    exact h.alike rfl rfl rfl rfl rfl rfl
  · exact h.alike rfl rfl rfl rfl rfl rfl

/-- They stay what they are when the watcher has its turn. -/
theorem watch {capacity : Nat} {busy' : Option Party} (h : Follows busy r u)
    (hlive : Live capacity busy' u) : Follows busy r u.watch := by
  rw [hlive.watch_eq]
  split
  · refine Follows.wake (u := { u with watcher := { u.watcher with watch := .over } }) ?_ nofun
    exact h.alike rfl rfl rfl rfl rfl rfl
  · exact h

/-- An alarm that has been taken from the queue sleeps on or writes its letter. -/
theorem ring (h : Follows busy r u) {t : Timer} (ht : t ∈ r.timers) :
    Follows busy r (u.ring t) := by
  have hself : ∀ a, Party.alarm t = .alarm a → a ∈ r.timers := fun a ha =>
    Party.alarm.inj ha ▸ ht
  unfold Run.ring
  split
  · next hdue =>
    exact h.send hself (.inr ⟨t, rfl, h.clock ▸ hdue, ht⟩)
  · next hdue =>
    refine h.change rfl rfl (.refl _) (fun a ha => ?_) (fun a ha => ?_) id (fun _ => id)
      (fun _ => .inl) fun _ => .inr
    · rw [mem_timers] at ha
      rcases ha with ha | ha
      · rcases List.mem_append.mp ha with ha | ha
        · exact .inl (mem_timers.mpr (.inl ha))
        · exact .inr (.inl (List.mem_singleton.mp ha ▸ ht))
      · exact .inl (mem_timers.mpr (.inr ha))
    · refine (List.mem_append.mp ha).imp id fun ha => ?_
      rw [List.mem_singleton.mp ha, ← h.clock]
      exact Nat.lt_of_not_le hdue

/-! ### Turns -/

/-- What the script does is nothing to them. -/
theorem persists (busy : Option Party) (r : Run) : Persists (Follows busy r) where
  script _ h := h.alike rfl rfl rfl rfl rfl rfl
  alterDesktop _ h := h.alike rfl rfl rfl rfl rfl rfl
  send hletter h := h.send nofun (.inl hletter)
  rest h := h.rest nofun

/-- So is the script's turn. -/
theorem goOn (h : Follows busy r u) : Follows busy r u.goOn :=
  (persists busy r).goOn (fun {v} hv => by
    refine Follows.wake (u := { v with watcher := { v.watcher with dismissed := true } }) ?_ nofun
    exact hv.alike rfl rfl rfl rfl rfl rfl) h

/-- Whoever is first in the queue is at work. -/
theorem pop {rest : List Party} (hqueue : r.turns.queue = p :: rest) :
    Follows (some p) r { r with turns := { r.turns with queue := rest } } := by
  refine (refl r).exchange { r.turns with queue := rest } r.mailbox (fun q hq => .inl ?_)
    (.inl rfl) (fun _ => .inl) (fun _ => .inl) fun q hq =>
      (hq.pop hqueue).imp (fun hself => congrArg some hself.symm) id
  rw [hqueue]
  exact List.mem_cons_of_mem _ hq

/-- Whoever queues has its turn. -/
theorem turn {capacity : Nat} {rest : List Party} (hlive : Live capacity none r)
    (htimers : r.coordinator.timers = []) (hqueue : r.turns.queue = p :: rest) :
    Follows (some p) r ({ r with turns := { r.turns with queue := rest } }.turn p) := by
  have hpopped := pop hqueue
  have hlive' := hlive.pop hqueue
  cases p with
  | script => exact hpopped.goOn
  | coordinator => exact hpopped.work _ hlive'.not_awaiting htimers
  | listener => exact hpopped.listen
  | watcher => exact hpopped.watch hlive'
  | alarm t => exact hpopped.ring (mem_timers.mpr (.inr (.inl (hqueue ▸ List.mem_cons_self))))

/-- The script is at work. -/
theorem calm (r : Run) :
    Follows (some .script) r { r with turns := { r.turns with scriptAwake := false } } :=
  (refl r).exchange { r.turns with scriptAwake := false } r.mailbox (fun _ => .inl)
    (.inl rfl) (fun _ => .inl) (fun _ => .inl) fun _ hq =>
      hq.calm.imp (fun hself => congrArg some hself.symm) id

/-- It is nothing to them whether the script is awake. -/
theorem scriptTurn (r : Run) : Follows (some .script) r r.scriptTurn := by
  unfold Run.scriptTurn
  split
  · exact (calm r).goOn
  · exact .refl r

/-- They stay what they are when those who rest are woken, if none of them does. -/
theorem wakeResting (r : Run) (h : ∀ t, .alarm t ∉ r.turns.resting) :
    Follows none r { r with turns := r.turns.wakeResting } := by
  have hresting : r.turns.wakeResting.resting = [] :=
    (Turns.wakeAll_congr r.turns.resting rfl rfl).2
  refine (refl r).change rfl rfl (.refl _) (fun t ht => .inl ?_) (fun _ => .inl) (fun hq => ?_)
    (fun t ht => ?_) (fun _ => .inl) fun q hq => .inr hq.wakeResting
  · rw [mem_timers] at ht ⊢
    refine ht.imp id (Or.imp (fun ht => ?_) id)
    exact (Turns.mem_queue_wakeAll ht).resolve_right fun hmem => h t hmem.1
  · exact (Turns.mem_queue_wakeAll hq).resolve_right fun hmem => hmem.2 rfl
  · rw [hresting] at ht
    cases ht

end Follows

/-! ## Punctual runs -/

/-- Alarms are punctual. -/
structure Punctual (r : Run) : Prop where
  /-- The script does not queue. -/
  queue : .script ∉ r.turns.queue
  /-- No alarm rests. -/
  resting : ∀ t, .alarm t ∉ r.turns.resting
  /-- Besides the script only alarms write letters, when they have gone off. -/
  letters : ∀ l ∈ r.mailbox.letters,
    l.isOwn = true ∨ ∃ t : Timer, l = t.letter ∧ t.deadline ≤ r.clock
  /-- An alarm that is to go off does not sleep. -/
  sleeping : ∀ t ∈ r.alarms, r.clock < t.deadline
  /-- No timer is overdue, or set for too long, or for an opening that was not made. -/
  timers : ∀ t ∈ r.timers, r.clock ≤ t.deadline ∧ t.deadline ≤ r.clock + longestDelay ∧
    t.generation ≤ r.coordinator.scene.fleet.generation
  /-- Openings are not given up at once. -/
  timeout : ∀ span, r.coordinator.timeout = some span → 0 < span ∧ span ≤ longestDelay

variable {r u : Run} {busy : Option Party}

/-- Alarms that are punctual stay so. -/
theorem Punctual.follows (h : Punctual r) (hf : Follows busy r u) : Punctual u where
  queue hq := h.queue (hf.queue hq)
  resting t ht := h.resting t (hf.resting t ht)
  letters l hl := by
    rw [hf.clock]
    exact (hf.letters l hl).elim (h.letters l) id
  sleeping t ht := by
    rw [hf.clock]
    exact (hf.sleeping t ht).elim (h.sleeping t) id
  timers t ht := by
    rw [hf.clock]
    rcases hf.timers t ht with ht | ⟨⟨span, hspan, hdeadline⟩, -, hafter⟩
    · obtain ⟨hlate, hlong, hmade⟩ := h.timers t ht
      exact ⟨hlate, hlong, Nat.le_trans hmade hf.ages.generation⟩
    · have hspan' := h.timeout span hspan
      exact ⟨by omega, by omega, hafter⟩
  timeout := by
    rw [hf.timeout]
    exact h.timeout

/-- A timer that is due is for an opening that is not awaited any more. -/
def Undisturbed (r : Run) : Prop := ∀ t ∈ r.timers, t.deadline ≤ r.clock → ¬ r.Awaits t

/-- A script that nobody disturbs is not disturbed later either. -/
theorem Undisturbed.follows (h : Undisturbed r) (hpunctual : Punctual r) (hf : Follows busy r u) :
    Undisturbed u := by
  intro t ht hdue hawaits
  rw [hf.clock] at hdue
  rcases hf.timers t ht with ht | ⟨⟨span, hspan, hdeadline⟩, -⟩
  · exact h t ht hdue (hf.ages.awaited _ _ (hpunctual.timers t ht).2.2 hawaits)
  · have hspan' := hpunctual.timeout span hspan
    omega

end Run

end SatelliteWindows
