import SatelliteWindows.Proofs.Office.Progress
import SatelliteWindows.Proofs.Scenario.Turns

/-!
# No run comes to a standstill

Whoever has something to do in a run is to have a turn, and whoever waits is waited for by somebody
who is. So when nobody is to have a turn, either the run is over or the script waits for a moment
that has not come yet, and time passes.

The run is one without interruption.
-/

namespace SatelliteWindows

/-! ## Who is to have a turn -/

namespace Turns

/-- Whether a party is to have a turn. -/
def Expects (p : Party) (t : Turns) : Prop :=
  p ∈ t.resting ∨ (p = .script ∧ t.scriptAwake = true) ∨ (p ≠ .script ∧ p ∈ t.queue)

variable {p q : Party} {t : Turns}

/-- A party that was woken is to have a turn. -/
theorem expects_wake (p : Party) (t : Turns) : (t.wake p).Expects p := by
  unfold wake
  split
  · next hp => exact .inr (.inl ⟨hp, rfl⟩)
  · next hp =>
    split
    · next hthere => exact hthere.elim (fun h => .inr (.inr ⟨hp, h⟩)) .inl
    · exact .inr (.inr ⟨hp, List.mem_append_right _ List.mem_cons_self⟩)

/-- Nobody loses a turn when another is woken. -/
theorem Expects.wake (h : t.Expects q) (p : Party) : (t.wake p).Expects q := by
  unfold Turns.wake
  split
  · exact h.imp id (Or.imp (And.imp id fun _ => rfl) id)
  · split
    · exact h
    · exact h.imp id (Or.imp id (And.imp id (List.mem_append_left _)))

/-- A party that rests is to have a turn. -/
theorem expects_rest (p : Party) (t : Turns) : (t.rest p).Expects p := .inl List.mem_cons_self

/-- Nobody loses a turn when another rests. -/
theorem Expects.rest (h : t.Expects q) (p : Party) : (t.rest p).Expects q :=
  h.imp (List.mem_cons_of_mem p) id

/-- Nobody loses a turn when others are woken. -/
theorem Expects.wakeAll (h : t.Expects q) (ps : List Party) :
    (ps.foldl (fun t p => t.wake p) t).Expects q := by
  induction ps generalizing t with
  | nil => exact h
  | cons p rest ih => exact ih (h.wake p)

/-- Nobody loses a turn when alarms are woken. -/
theorem Expects.wakeAlarms (h : t.Expects q) (alarms : List Timer) :
    (alarms.foldl (fun t a => t.wake (.alarm a)) t).Expects q := by
  have hwoken := h.wakeAll (alarms.map Party.alarm)
  rwa [List.foldl_map] at hwoken

/-- Those who rest are to have a turn when they have been woken. -/
theorem Expects.wakeResting (h : t.Expects q) : t.wakeResting.Expects q := by
  have hwoken : ∀ (ps : List Party) (u : Turns), q ∈ ps →
      (ps.foldl (fun t p => t.wake p) u).Expects q := by
    intro ps
    induction ps with
    | nil => exact fun u hq => by cases hq
    | cons p rest ih =>
      intro u hq
      rcases List.mem_cons.mp hq with rfl | hq
      · exact (expects_wake q u).wakeAll rest
      · exact ih _ hq
  rcases h with hresting | hother
  · exact hwoken _ _ hresting
  · exact Expects.wakeAll (t := { t with resting := [] }) (.inr hother) _

/-- Whoever is to have a turn is so after the first in the queue has come out of it, but perhaps for
that one. -/
theorem Expects.pop {rest : List Party} (h : t.Expects q) (hqueue : t.queue = p :: rest) :
    q = p ∨ { t with queue := rest }.Expects q := by
  rcases h with hresting | hawake | ⟨hq, hmem⟩
  · exact .inr (.inl hresting)
  · exact .inr (.inr (.inl hawake))
  · rw [hqueue] at hmem
    exact (List.mem_cons.mp hmem).imp id fun hmem => .inr (.inr ⟨hq, hmem⟩)

/-- The script is to have a turn no more when it has had one. -/
theorem Expects.calm (h : t.Expects q) :
    q = .script ∨ { t with scriptAwake := false }.Expects q := by
  rcases h with hresting | ⟨hq, -⟩ | hqueued
  · exact .inr (.inl hresting)
  · exact .inl hq
  · exact .inr (.inr (.inr hqueued))

/-- When it is quiet nobody is to have a turn. -/
theorem not_expects_of_isQuiet (h : t.isQuiet = true) : ¬ t.Expects q := by
  unfold isQuiet at h
  simp only [Bool.and_eq_true, List.isEmpty_iff, Bool.not_eq_true'] at h
  obtain ⟨⟨hqueue, hresting⟩, hscript⟩ := h
  rintro (hmem | ⟨-, hawake⟩ | ⟨-, hmem⟩)
  · rw [hresting] at hmem
    cases hmem
  · rw [hscript] at hawake
    cases hawake
  · rw [hqueue] at hmem
    cases hmem

end Turns

/-- Whether a letter was written by the script. -/
def Letter.isOwn : Letter → Bool
  | .request .script _ | .farewell => true
  | _ => false

/-- The script's letters in the mailbox are those that what it waits for is about. -/
def Hold.Owns (running : Bool) (letters : List Letter) : Hold → Prop
  | .answer none => ∃ request, letters = [.request .script request]
  | .ending => letters = if running then [.farewell] else []
  | _ => letters = []

namespace Run

/-- A party is at work or is to have a turn. -/
def Attends (busy : Option Party) (p : Party) (r : Run) : Prop :=
  busy = some p ∨ r.turns.Expects p

/-- When it is quiet and nobody is at work, nobody is to have a turn. -/
theorem not_attends_of_isQuiet {r : Run} (h : r.turns.isQuiet = true) {p : Party} :
    ¬ r.Attends none p :=
  fun hp => hp.elim nofun (Turns.not_expects_of_isQuiet h)

/-- Whether a party may be waiting for a place in the mailbox. -/
def Seeks (p : Party) (r : Run) : Prop :=
  match p with
  | .script => (∃ request, r.script.hold = .place request) ∨ r.script.hold = .farewell
  | .alarm t => t.deadline ≤ r.clock
  | _ => False

/-- Whether the script waits for something that somebody else sees to. -/
def Waits (r : Run) : Prop :=
  match r.script.hold with
  | .place _ | .farewell => .script ∈ r.mailbox.guests
  | .answer none | .ending => True
  | .moment time => r.clock < time
  | .watcher => r.watcher.watch ≠ .over
  | .free | .answer (some _) => False

/-- If the script waits for a moment, a step is at work. -/
def Pauses (r : Run) : Prop := ∀ time, r.script.hold = .moment time → r.script.steps ≠ []

/-- Whether a party has done what it can do in its turn. -/
def HasDone (p : Party) (r : Run) : Prop :=
  match p with
  | .script => r.Waits ∧ r.Pauses
  | .coordinator => r.coordinator.running = true → r.mailbox.letters = []
  | .listener => r.coordinator.running = false → r.heardOut = true
  | .watcher => r.script.hold = .watcher → r.watcher.watch = .over
  | .alarm _ => True

/-- Everything that is to be done in a run is seen to. -/
structure Live (capacity : Nat) (busy : Option Party) (r : Run) : Prop where
  /-- All places of the mailbox are there. -/
  mailbox : r.mailbox.Sound capacity
  /-- Whoever was given a place uses it. -/
  granted : ∀ p ∈ r.mailbox.granted, r.Attends busy p
  /-- Only the script and alarms that go off wait for places. -/
  guests : ∀ p ∈ r.mailbox.guests, r.Seeks p
  /-- Letters are served. -/
  letters : r.coordinator.running = true → r.mailbox.letters ≠ [] → r.Attends busy .coordinator
  /-- When the coordinator has stopped, what is left to be read is read. -/
  listener : r.coordinator.running = false → r.heardOut = true ∨ r.Attends busy .listener
  /-- Nobody stops reading before. -/
  heardOut : r.heardOut = true → r.coordinator.running = false
  /-- The run is not interrupted. -/
  moment : r.watcher.moment = none
  /-- So the watcher writes no letter. -/
  watch : r.watcher.watch = .watching ∨ r.watcher.watch = .over
  /-- The watcher goes when it is dismissed. -/
  dismissal : r.script.hold = .watcher →
    r.watcher.watch = .over ∨ r.watcher.dismissed = true ∧ r.Attends busy .watcher
  /-- The script has written no other letters than those it waits for. -/
  own : r.script.hold.Owns r.coordinator.running (r.mailbox.letters.filter Letter.isOwn)
  /-- The coordinator stops at the end. -/
  stopped : r.coordinator.running = false → r.script.hold = .ending
  /-- The script goes on, or waits for what somebody else sees to. -/
  script : r.Attends busy .script ∨ r.Waits
  /-- It is a step that takes time. -/
  pause : busy = some .script ∨ r.Pauses

namespace Live

variable {capacity : Nat} {busy : Option Party} {p : Party} {r r' : Run}

/-- It is enough to look at who does what and waits for what. -/
theorem alike (h : Live capacity busy r) (mailbox : r'.mailbox = r.mailbox)
    (turns : r'.turns = r.turns) (running : r'.coordinator.running = r.coordinator.running)
    (clock : r'.clock = r.clock) (heardOut : r'.heardOut = r.heardOut)
    (watcher : r'.watcher = r.watcher) (hold : r'.script.hold = r.script.hold)
    (steps : busy = some .script ∨ r'.script.steps = r.script.steps) :
    Live capacity busy r' where
  mailbox := mailbox ▸ h.mailbox
  granted q hq := by
    unfold Attends
    rw [turns]
    exact h.granted q (mailbox ▸ hq)
  guests q hq := by
    have hseeks := h.guests q (mailbox ▸ hq)
    unfold Seeks at hseeks ⊢
    rw [hold, clock]
    exact hseeks
  letters hrunning hletters := by
    unfold Attends
    rw [turns]
    exact h.letters (running ▸ hrunning) (mailbox ▸ hletters)
  listener hrunning := by
    unfold Attends
    rw [turns, heardOut]
    exact h.listener (running ▸ hrunning)
  heardOut hheard := running ▸ h.heardOut (heardOut ▸ hheard)
  moment := watcher ▸ h.moment
  watch := watcher ▸ h.watch
  dismissal hhold := by
    unfold Attends
    rw [turns, watcher]
    exact h.dismissal (hold ▸ hhold)
  own := by
    rw [hold, running, mailbox]
    exact h.own
  stopped hrunning := hold.trans (h.stopped (running ▸ hrunning))
  script := by
    refine h.script.imp (fun hattends => ?_) fun hwaits => ?_
    · unfold Attends
      rw [turns]
      exact hattends
    · unfold Waits at hwaits ⊢
      rw [hold, mailbox, clock, watcher]
      exact hwaits
  pause := by
    rcases steps with hbusy | hsteps
    · exact .inl hbusy
    · refine h.pause.imp id fun hpause time hmoment => ?_
      rw [hsteps]
      exact hpause time (hold ▸ hmoment)

/-- Nobody suffers when others are to have a turn as well. -/
theorem expect (h : Live capacity busy r) {turns : Turns} {busy' : Option Party}
    (hturns : ∀ p, r.Attends busy p → ({ r with turns := turns } : Run).Attends busy' p)
    (hpause : busy' = some .script ∨ r.Pauses) :
    Live capacity busy' { r with turns := turns } where
  mailbox := h.mailbox
  granted q hq := hturns q (h.granted q hq)
  guests := h.guests
  letters hrunning hletters := hturns _ (h.letters hrunning hletters)
  listener hrunning := (h.listener hrunning).imp id (hturns _)
  heardOut := h.heardOut
  moment := h.moment
  watch := h.watch
  dismissal hhold := (h.dismissal hhold).imp id (And.imp id (hturns _))
  own := h.own
  stopped := h.stopped
  script := h.script.imp (hturns _) id
  pause := hpause

/-- To wake somebody leaves nothing undone. -/
theorem wake (h : Live capacity busy r) (p : Party) : Live capacity busy (r.wake p) :=
  h.expect (fun _ hq => hq.imp id fun hq => hq.wake p) h.pause

/-- What a party at work leaves behind of pauses. -/
theorem pauses (h : Live capacity (some p) r) (hpause : p = .script → r.Pauses) : r.Pauses :=
  h.pause.elim (fun hscript => hpause (Option.some.inj hscript)) id

/-- The watcher waits for no answer. -/
theorem not_awaiting (h : Live capacity busy r) : r.watcher.watch ≠ .awaiting := by
  rcases h.watch with hwatch | hwatch <;> rw [hwatch] <;> exact (Watch.noConfusion ·)

/-- A party that is at work may rest instead. -/
theorem rest (h : Live capacity (some p) r) (hpause : p = .script → r.Pauses) :
    Live capacity none (r.rest p) := by
  refine h.expect (fun q hq => .inr ?_) (.inr (h.pauses hpause))
  rcases hq with hbusy | hexpects
  · cases hbusy
    exact Turns.expects_rest _ _
  · exact hexpects.rest p

/-- A party that is at work has done its part. -/
theorem finish (h : Live capacity (some p) r) (granted : p ∉ r.mailbox.granted)
    (done : r.HasDone p) : Live capacity none r := by
  have hothers : ∀ {q}, q ≠ p → r.Attends (some p) q → r.Attends none q := fun hne hq =>
    hq.elim (fun e => absurd (Option.some.inj e).symm hne) .inr
  refine ⟨h.mailbox, fun q hq => hothers (fun e => granted (e ▸ hq)) (h.granted q hq), h.guests,
    fun hrunning hletters => ?_, fun hrunning => ?_, h.heardOut, h.moment, h.watch,
    fun hhold => ?_, h.own, h.stopped, ?_, .inr (h.pauses fun hp => ?_)⟩
  · by_cases hp : p = .coordinator
    · subst hp
      exact absurd (done hrunning) hletters
    · exact hothers (fun e => hp e.symm) (h.letters hrunning hletters)
  · by_cases hp : p = .listener
    · subst hp
      exact .inl (done hrunning)
    · exact (h.listener hrunning).imp id (hothers fun e => hp e.symm)
  · by_cases hp : p = .watcher
    · subst hp
      exact .inl (done hhold)
    · exact (h.dismissal hhold).imp id (And.imp id (hothers fun e => hp e.symm))
  · by_cases hp : p = .script
    · subst hp
      exact .inr done.1
    · exact h.script.imp (hothers fun e => hp e.symm) id
  · subst hp
    exact done.2

/-- When nobody is to have a turn the mailbox is empty. -/
theorem mailbox_of_isQuiet (h : Live capacity none r) (hpos : 0 < capacity)
    (hquiet : r.turns.isQuiet = true) (hrunning : r.coordinator.running = true) :
    r.mailbox = { free := capacity } := by
  have hplaces := h.mailbox.places
  have hletters : r.mailbox.letters = [] := by
    by_contra hletters
    exact not_attends_of_isQuiet hquiet (h.letters hrunning hletters)
  have hgranted : r.mailbox.granted = [] :=
    List.eq_nil_iff_forall_not_mem.mpr fun p hp =>
      not_attends_of_isQuiet hquiet (h.granted p hp)
  have hwaiting : r.mailbox.waiting = [] := by
    by_contra hwaiting
    rw [h.mailbox.busy hwaiting, hletters, hgranted] at hplaces
    simp only [List.length_nil] at hplaces
    omega
  rw [hletters, hgranted] at hplaces
  exact (Mailbox.mk.injEq ..).mpr ⟨hplaces, hletters, hwaiting, hgranted⟩

/-- When it is quiet and the run is not over, the script waits for a moment to come. -/
theorem moment_of_isQuiet (h : Live capacity none r) (hpos : 0 < capacity)
    (hquiet : r.turns.isQuiet = true) (hheard : r.heardOut = false) :
    ∃ time, r.script.hold = .moment time ∧ r.clock < time := by
  have hrunning : r.coordinator.running = true := by
    by_contra hstopped
    rcases h.listener (by simpa using hstopped) with hover | hlistener
    · rw [hheard] at hover
      cases hover
    · exact not_attends_of_isQuiet hquiet hlistener
  have hmailbox := h.mailbox_of_isQuiet hpos hquiet hrunning
  have hletters : r.mailbox.letters = [] := by rw [hmailbox]
  have hguests : r.mailbox.guests = [] := by
    rw [hmailbox]
    rfl
  have hwaits := h.script.resolve_left (not_attends_of_isQuiet hquiet)
  have hown := h.own
  have hdismissal := h.dismissal
  rw [hletters, hrunning] at hown
  unfold Waits at hwaits
  rw [hguests] at hwaits
  cases hhold : r.script.hold with
  | moment time =>
    rw [hhold] at hwaits
    exact ⟨time, rfl, hwaits⟩
  | answer given =>
    rw [hhold] at hwaits hown
    cases given with
    | none =>
      obtain ⟨request, hrequest⟩ := hown
      cases hrequest
    | some answer => cases hwaits
  | watcher =>
    rw [hhold] at hwaits
    rcases hdismissal hhold with hover | ⟨-, hwatcher⟩
    · exact absurd hover hwaits
    · exact absurd hwatcher (not_attends_of_isQuiet hquiet)
  | ending =>
    rw [hhold] at hown
    cases hown
  | free => rw [hhold] at hwaits; cases hwaits
  | place request => rw [hhold] at hwaits; cases hwaits
  | farewell => rw [hhold] at hwaits; cases hwaits

end Live

end Run

end SatelliteWindows
