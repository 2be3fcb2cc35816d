import SatelliteWindows.Proofs.Scenario.Order

/-!
# Lulls

Between two moments that somebody waits for there is a lull: nobody is to have a turn. Then the
mailbox is empty, the listener has read everything that was sent, the watcher has not been
dismissed, all alarms sleep, and the script waits for a moment.

The runs are without interruption.
-/

namespace SatelliteWindows

/-- A timeout that is set is not zero. -/
theorem CoordinatorSettings.openTimeout_pos {settings : CoordinatorSettings}
    {secs : Nat} (h : settings.openTimeout = some secs) : 0 < secs := by
  unfold CoordinatorSettings.openTimeout at h
  split at h
  · split at h
    · cases h
    · next hne =>
      cases h
      exact Nat.pos_of_ne_zero fun hzero => hne (UInt64.toNat_inj.mp hzero)
  · cases h

namespace Run

variable {capacity width slots : Nat} {p : Party} {r u : Run}

/-- Nobody is to have a turn, and the script waits for a moment. -/
structure Lull (capacity width moment : Nat) (r : Run) : Prop where
  /-- The script waits. -/
  hold : r.script.hold = .moment moment
  /-- The moment has not come. -/
  later : r.clock < moment
  /-- Nobody is to have a turn. -/
  turns : r.turns = {}
  /-- The mailbox is empty. -/
  mailbox : r.mailbox = { free := capacity }
  /-- The watcher waits to be dismissed. -/
  watcher : r.watcher = { moment := none }
  /-- The listener has read everything. -/
  feed : r.coordinator.feed = Feed.solo width r.coordinator.scene.journal.activities
    r.coordinator.scene.journal.activities.length
  /-- The coordinator serves requests. -/
  running : r.coordinator.running = true
  /-- All alarms sleep. -/
  timers : r.timers = r.alarms

/-- When nobody is to have a turn and the run is not over, there is a lull. -/
theorem Orderly.lull (h : Orderly capacity width slots r) (hquiet : r.turns.isQuiet = true)
    (hheard : r.heardOut = false) : ∃ moment, Lull capacity width moment r := by
  obtain ⟨moment, hhold, hlater⟩ := h.live.moment_of_isQuiet h.capacity_pos hquiet hheard
  have hrunning : r.coordinator.running = true := by
    by_contra hstopped
    have hending := h.live.stopped (by simpa using hstopped)
    rw [hhold] at hending
    cases hending
  have hmailbox := h.live.mailbox_of_isQuiet h.capacity_pos hquiet hrunning
  have hturns : r.turns = {} := by
    unfold Turns.isQuiet at hquiet
    simp only [Bool.and_eq_true, List.isEmpty_iff, Bool.not_eq_true'] at hquiet
    exact (Turns.mk.injEq ..).mpr ⟨hquiet.1.1, hquiet.1.2, hquiet.2⟩
  refine ⟨moment, hhold, hlater, hturns, hmailbox, ?_, ?_, hrunning, ?_⟩
  · have hease := h.ease
    unfold AtEase at hease
    rw [hhold] at hease
    exact hease.resolve_right nofun
  · obtain ⟨next, hnext, hfeed⟩ := h.heeds.feed
    have hunread := h.heeds.news.resolve_right (Turns.not_expects_of_isQuiet hquiet)
    rw [hfeed] at hunread
    rw [hfeed, (Feed.stands_solo hnext).past_eq hunread]
  · unfold Run.timers Mailbox.guests
    rw [hturns, hmailbox]
    exact (List.append_nil _).trans (List.append_nil _)

/-- When all is quiet and the script waits for a moment, there is a lull. -/
theorem Orderly.lull_of_moment (h : Orderly capacity width slots r)
    (hquiet : r.turns.isQuiet = true) {moment : Nat} (hhold : r.script.hold = .moment moment) :
    Lull capacity width moment r := by
  obtain ⟨_, hlull⟩ := h.lull hquiet (h.heardOut_of_moment hhold)
  obtain rfl := Hold.moment.inj (hlull.hold.symm.trans hhold)
  exact hlull

/-- A moment has come, and the alarms that are due and perhaps the script are woken. -/
def comes (time : Nat) (r : Run) : Run :=
  { r with
    coordinator := { r.coordinator with clock := time }
    alarms := r.alarms.filter fun t => !decide (t.deadline ≤ time)
    turns := (r.alarms.filter fun t => t.deadline ≤ time).foldl (fun t a => t.wake (.alarm a))
      (if r.script.hold.moment? = some time then r.turns.wake .script else r.turns) }

/-- No alarm is set by the passing of time. -/
theorem mem_timers_comes {t : Timer} {time : Nat} (h : t ∈ (r.comes time).timers) :
    t ∈ r.timers := by
  rw [mem_timers] at h ⊢
  rcases h with h | h | h
  · exact .inl (List.mem_of_mem_filter h)
  · rcases Turns.mem_queue_wakeAlarms h with h | ⟨a, ha, hself⟩
    · split at h <;> exact .inr (.inl h)
    · obtain rfl := Party.alarm.inj hself
      exact .inl (List.mem_of_mem_filter ha)
  · exact .inr (.inr h)

/-- The next moment is that of the script, or that of an alarm if there is an earlier one. -/
structure Next (moment : Nat) (alarms : List Timer) (time : Nat) : Prop where
  /-- The script does not wait for an earlier moment. -/
  le : time ≤ moment
  /-- No alarm does. -/
  least : ∀ t ∈ alarms, time ≤ t.deadline
  /-- One of them waits for this one. -/
  due : time = moment ∨ ∃ t ∈ alarms, t.deadline = time

/-- There is only one next moment. -/
theorem Next.unique {moment time time' : Nat} {alarms : List Timer} (h : Next moment alarms time)
    (h' : Next moment alarms time') : time = time' := by
  refine Nat.le_antisymm ?_ ?_
  · rcases h'.due with rfl | ⟨t, ht, rfl⟩
    · exact h.le
    · exact h.least t ht
  · rcases h.due with rfl | ⟨t, ht, rfl⟩
    · exact h'.le
    · exact h'.least t ht

namespace Lull

variable {moment : Nat}

/-- Time passes up to the next moment. -/
theorem passTime (h : Lull capacity width moment r)
    (hsleeping : ∀ t ∈ r.alarms, r.clock < t.deadline) :
    ∃ time, r.passTime = r.comes time ∧ r.clock < time ∧ Next moment r.alarms time := by
  have hmoments : ∀ time, time ∈ r.moments ↔
      r.clock < time ∧ (time = moment ∨ ∃ t ∈ r.alarms, t.deadline = time) := fun time => by
    unfold moments
    rw [h.hold, h.watcher]
    simp only [Hold.moment?, Option.toList_some, Option.toList_none, List.append_nil,
      List.cons_append, List.nil_append, List.mem_filter, List.mem_cons, List.mem_map,
      decide_eq_true_eq]
    exact And.comm
  have hsome : moment ∈ r.moments := (hmoments _).mpr ⟨h.later, .inl rfl⟩
  cases htime : r.moments.min? with
  | none =>
    rw [List.min?_eq_none_iff.mp htime] at hsome
    cases hsome
  | some time =>
    obtain ⟨hmem, hleast⟩ := List.min?_eq_some_iff.mp htime
    obtain ⟨hlater, hwhich⟩ := (hmoments _).mp hmem
    refine ⟨time, passTime_eq (by rw [h.watcher]) htime, hlater, hleast _ hsome, fun t ht => ?_,
      hwhich⟩
    exact hleast _ ((hmoments _).mpr ⟨hsleeping t ht, .inr ⟨t, ht, rfl⟩⟩)

end Lull

namespace Orderly

/-- Time passes. -/
theorem passTime (h : Orderly capacity width slots r) (hquiet : r.turns.isQuiet = true)
    (hheard : r.heardOut = false) : Orderly capacity width slots r.passTime := by
  obtain ⟨moment, hlull⟩ := h.lull hquiet hheard
  obtain ⟨time, hpass, hlater, hnext⟩ := hlull.passTime h.punctual.sleeping
  have hlive := h.live.passTime
  have htidy := (load_passTime (u := 0) h.live h.tidy).2.1
  rw [hpass] at hlive htidy ⊢
  have hbefore : (if r.script.hold.moment? = some time then r.turns.wake .script
      else r.turns).queue = [] ∧ (if r.script.hold.moment? = some time then r.turns.wake .script
      else r.turns).resting = [] := by
    rw [hlull.turns]
    split <;> exact ⟨rfl, rfl⟩
  refine ⟨h.capacity_pos, hlive, htidy, ⟨?_, fun t ht => ?_, fun l hl => ?_, fun t ht => ?_,
    fun t ht => ?_, h.punctual.timeout⟩, ?_, h.ease.keep rfl rfl⟩
  · intro hmem
    rcases Turns.mem_queue_wakeAlarms hmem with hmem | ⟨a, -, hself⟩
    · rw [hbefore.1] at hmem
      cases hmem
    · cases hself
  · unfold comes at ht
    dsimp only at ht
    rw [Turns.resting_wakeAlarms, hbefore.2] at ht
    cases ht
  · unfold comes at hl
    dsimp only at hl
    rw [hlull.mailbox] at hl
    cases hl
  · have hnot := (List.mem_filter.mp ht).2
    show time < t.deadline
    simpa using hnot
  · have hmem := mem_timers_comes ht
    obtain ⟨-, hlong, hmade⟩ := h.punctual.timers t hmem
    rw [hlull.timers] at hmem
    refine ⟨hnext.least t hmem, ?_, hmade⟩
    show t.deadline ≤ time + longestDelay
    omega
  · refine h.heeds.keep rfl rfl rfl fun hexpects => ?_
    exact absurd hexpects (Turns.not_expects_of_isQuiet hquiet)

/-- A round leaves a run in order, unless it is over then. -/
theorem round (h : Orderly capacity width slots r) :
    r.round.heardOut = true ∨ Orderly capacity width slots r.round := by
  have hturns := h.scriptTurn.takeTurns Turns.perRound
  unfold Run.round
  dsimp only
  split
  · next hquiet =>
    cases hheard : (r.scriptTurn.takeTurns Turns.perRound).heardOut with
    | true =>
      obtain ⟨_, _, _, _, _, _, haside⟩ := aside_passTime (r.scriptTurn.takeTurns Turns.perRound)
      rw [haside]
      exact .inl hheard
    | false => exact .inr (hturns.passTime hquiet hheard)
  · exact .inr hturns.wakeResting

end Orderly

/-- Every run is in order at the beginning. -/
theorem orderly_start (settings : Settings) (s : Scenario) :
    Orderly (max settings.coordinator.channelBuffer.toNat 1) settings.coordinator.busCapacity.toNat
      (start settings s none).coordinator.feed.slots (start settings s none) where
  capacity_pos := by omega
  live := live_start settings s
  tidy := ⟨Nat.zero_le _, rfl, rfl⟩
  punctual := by
    refine ⟨fun hmem => ?_, nofun, nofun, nofun, nofun, fun span hspan => ?_⟩
    · have hqueue : Party.script ∉ [Party.coordinator, .listener, .watcher] := by decide
      exact hqueue hmem
    · obtain ⟨secs, hsecs, rfl⟩ := Option.map_eq_some_iff.mp hspan
      have hpos := CoordinatorSettings.openTimeout_pos hsecs
      unfold delay longestDelay
      omega
  heeds := by
    refine ⟨rfl, ⟨0, Nat.zero_le _, ?_⟩, .inl rfl⟩
    exact (Feed.mk.injEq ..).mpr ⟨rfl, rfl, List.drop_nil.symm, rfl⟩
  ease := .inl rfl

end Run

end SatelliteWindows
