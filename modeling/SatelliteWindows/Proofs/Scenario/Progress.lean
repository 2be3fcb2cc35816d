import SatelliteWindows.Proofs.Scenario.Progress.Turns

/-!
# Every run comes to an end

Every round makes lighter what there is to do, until the run is over.
-/

namespace SatelliteWindows.Run

variable {u : Nat} {p : Party} {r : Run}

/-- The script leaves the coordinator tidy. -/
theorem Tidy.goOn {slots : Nat} (h : r.Tidy slots) : r.goOn.Tidy slots := by
  obtain ⟨world, hworld⟩ := reshapes_goOn r
  exact h.alike (by rw [hworld]) (by rw [hworld])

/-- A turn makes no more work than the turn itself weighs. -/
theorem load_turn {slots capacity : Nat} (hlive : Live capacity (some p) r) (h : r.Tidy slots)
    (hunit : u = slots + 8) :
    (r.turn p).load u ≤ r.load u + p.load u r.clock ∧ (r.turn p).Tidy slots := by
  cases p with
  | script => exact ⟨load_goOn r, h.goOn⟩
  | coordinator => exact load_work hlive h hunit Turns.allowance
  | listener => exact load_listen h
  | watcher => exact load_watch hlive h
  | alarm t => exact load_ring t h

/-- A turn that is taken from the queue makes the whole lighter. -/
theorem load_popped {slots capacity : Nat} (hlive : Live capacity none r) (h : r.Tidy slots)
    (hunit : u = slots + 8) {rest : List Party} (hqueue : r.turns.queue = p :: rest) :
    ({ r with turns := { r.turns with queue := rest } }.turn p).load u + 1 ≤ r.load u ∧
      ({ r with turns := { r.turns with queue := rest } }.turn p).Tidy slots := by
  have hpop := Turns.load_pop (u := u) (c := r.coordinator.clock) hqueue
  obtain ⟨hturn, htidy⟩ := load_turn (u := u) (hlive.pop hqueue) (h.alike rfl rfl) hunit
  refine ⟨?_, htidy⟩
  refine Nat.le_trans (Nat.succ_le_succ hturn) ?_
  unfold load others aside clock
  dsimp only
  omega

/-- Nor do several turns add to what there is to do. -/
theorem load_takeTurns {slots capacity : Nat} (hlive : Live capacity none r) (h : r.Tidy slots)
    (hunit : u = slots + 8) (n : Nat) :
    (r.takeTurns n).load u ≤ r.load u ∧ (r.takeTurns n).Tidy slots := by
  induction n generalizing r with
  | zero => exact ⟨Nat.le_refl _, h⟩
  | succ n ih =>
    unfold takeTurns
    split
    · exact ⟨Nat.le_refl _, h⟩
    · next p rest hqueue =>
      obtain ⟨hpopped, htidy⟩ := load_popped hlive h hunit hqueue
      obtain ⟨hrest, htidy'⟩ :=
        ih ((hlive.pop hqueue).turn (hlive.pause.resolve_left nofun)) htidy
      exact ⟨Nat.le_trans hrest (Nat.le_of_succ_le hpopped), htidy'⟩

/-- Turns that are taken make the whole lighter if somebody queues. -/
theorem load_takeTurns_lt {slots capacity : Nat} (hlive : Live capacity none r)
    (h : r.Tidy slots) (hunit : u = slots + 8) {n : Nat} (hn : 0 < n)
    (hqueue : r.turns.queue ≠ []) : (r.takeTurns n).load u < r.load u := by
  obtain ⟨n, rfl⟩ := Nat.exists_eq_succ_of_ne_zero (Nat.ne_of_gt hn)
  unfold takeTurns
  split
  · next hnobody => exact absurd hnobody hqueue
  · next p rest hcase =>
    obtain ⟨hpopped, htidy⟩ := load_popped hlive h hunit hcase
    have hrest := (load_takeTurns ((hlive.pop hcase).turn (hlive.pause.resolve_left nofun)) htidy
      hunit n).1
    exact Nat.lt_of_le_of_lt hrest hpopped

/-- A script that is awake has less to do after its turn. -/
theorem load_scriptTurn {slots : Nat} (h : r.Tidy slots) :
    r.scriptTurn.load u ≤ r.load u ∧ r.scriptTurn.Tidy slots ∧
      (r.turns.scriptAwake = true → r.scriptTurn.load u < r.load u) := by
  unfold scriptTurn
  split
  · next hawake =>
    have hcalm := Turns.load_calm (u := u) (c := r.coordinator.clock) hawake
    have hgoOn := load_goOn (u := u)
      { r with turns := { r.turns with scriptAwake := false } }
    have hless : ({ r with turns := { r.turns with scriptAwake := false } } : Run).goOn.load u <
        r.load u := by
      refine Nat.lt_of_le_of_lt hgoOn ?_
      unfold load others aside clock
      dsimp only
      omega
    exact ⟨Nat.le_of_lt hless, Tidy.goOn (h.alike rfl rfl), fun _ => hless⟩
  · next hasleep => exact ⟨Nat.le_refl _, h, fun hawake => absurd hawake hasleep⟩

/-- Those who rest cost one more than those who queue. -/
theorem load_wakeResting (r : Run) :
    ({ r with turns := r.turns.wakeResting } : Run).load u + r.turns.resting.length ≤
      r.load u := by
  have hwoken := Turns.load_wakeResting (u := u) (c := r.coordinator.clock) r.turns
  unfold load others aside clock
  dsimp only
  omega

/-- When the time has come for an alarm it is to have a turn, which weighs less than its sleep. -/
theorem load_woken (alarms : List Timer) (time : Nat) :
    ((alarms.filter fun t => t.deadline ≤ time).map
      fun a => 1 + (Party.alarm a).load u time).sum
      + (u + 3) * (alarms.filter fun t => !decide (t.deadline ≤ time)).length
      + (alarms.filter fun t => t.deadline ≤ time).length = (u + 3) * alarms.length := by
  induction alarms with
  | nil => rfl
  | cons t rest ih =>
    by_cases hdue : t.deadline ≤ time
    · rw [List.filter_cons_of_pos (by simpa using hdue),
        List.filter_cons_of_neg (by simpa using hdue)]
      have hload : (Party.alarm t).load u time = u + 1 := if_pos hdue
      simp only [List.map_cons, List.sum_cons, List.length_cons, Nat.mul_succ]
      omega
    · rw [List.filter_cons_of_neg (by simpa using hdue),
        List.filter_cons_of_pos (by simpa using hdue)]
      simp only [List.length_cons, Nat.mul_succ]
      omega

/-- Whoever waits for a moment has one thing less to do when it has come. -/
theorem load_hold {clock time : Nat} (h : clock < time) (steps : Nat) (hold : Hold) :
    hold.load u time steps + (if hold.moment? = some time then 3 else 0) ≤
      hold.load u clock steps := by
  cases hold with
  | moment moment =>
    unfold Hold.load Hold.moment?
    dsimp only
    by_cases hcome : moment = time
    · rw [hcome, if_neg (Nat.lt_irrefl _), if_pos h, if_pos rfl]
    · rw [if_neg fun heq => hcome (Option.some.inj heq)]
      split <;> split <;> omega
  | _ => exact Nat.le_refl _

/-- Somebody has waited for the moment that has come. -/
theorem load_passTime {slots capacity : Nat} (hlive : Live capacity none r) (h : r.Tidy slots) :
    r.passTime.load u ≤ r.load u ∧ r.passTime.Tidy slots ∧
      (r.moments ≠ [] → r.passTime.load u < r.load u) := by
  cases htime : r.moments.min? with
  | none =>
    have hnone : r.moments = [] := List.min?_eq_none_iff.mp htime
    unfold passTime
    rw [htime]
    exact ⟨Nat.le_refl _, h, fun hmoments => absurd hnone hmoments⟩
  | some time =>
    have hmem := (List.min?_eq_some_iff.mp htime).1
    obtain ⟨hwaited, hlater⟩ := List.mem_filter.mp hmem
    have hlater : r.coordinator.clock < time := of_decide_eq_true hlater
    -- the load falls because whoever waited for the moment waits for none afterwards
    have hsomebody : r.script.hold.moment? = some time ∨
        0 < (r.alarms.filter fun t => t.deadline ≤ time).length := by
      rw [hlive.moment] at hwaited
      rcases List.mem_append.mp hwaited with hscript | halarm
      · exact .inl (by simpa using hscript)
      · obtain ⟨t, ht, rfl⟩ := List.mem_map.mp halarm
        exact .inr (List.length_pos_of_mem (List.mem_filter.mpr ⟨ht, by simp⟩))
    have hless : r.passTime.load u < r.load u := by
      have hscript : (if r.script.hold.moment? = some time then r.turns.wake .script
          else r.turns).load u time ≤ r.turns.load u r.coordinator.clock
            + if r.script.hold.moment? = some time then 1 else 0 := by
        have hmono := Turns.load_mono (u := u) (Nat.le_of_lt hlater) r.turns
        split
        · have hwake := Turns.load_wake (u := u) (c := time) .script r.turns
          have hnothing : Party.load u time .script = 0 := rfl
          omega
        · omega
      have halarms := Turns.load_wakeAlarms (u := u) (c := time)
        (r.alarms.filter fun t => t.deadline ≤ time)
        (if r.script.hold.moment? = some time then r.turns.wake .script else r.turns)
      have hwoken := load_woken (u := u) r.alarms time
      have hhold := load_hold (u := u) hlater r.script.steps.length r.script.hold
      rw [passTime_eq hlive.moment htime]
      unfold load others aside clock
      dsimp only
      generalize (if r.script.hold.moment? = some time then r.turns.wake .script else r.turns) =
        woken at *
      by_cases hcome : r.script.hold.moment? = some time
      · rw [if_pos hcome] at hscript hhold
        omega
      · have hdue := hsomebody.resolve_left hcome
        rw [if_neg hcome] at hscript hhold
        omega
    refine ⟨Nat.le_of_lt hless, ?_, fun _ => hless⟩
    rw [passTime_eq hlive.moment htime]
    exact h.alike rfl rfl

/-- Where nobody queues no turns are taken. -/
theorem takeTurns_of_nobody (h : r.turns.queue = []) (n : Nat) : r.takeTurns n = r := by
  cases n with
  | zero => rfl
  | succ n =>
    unfold takeTurns
    rw [h]

/-- When nobody queues and the script sleeps, somebody rests, or a moment is waited for. -/
theorem load_idle {slots capacity : Nat} (hlive : Live capacity none r) (hpos : 0 < capacity)
    (h : r.Tidy slots) (hheard : r.heardOut = false) (hqueue : r.turns.queue = [])
    (hasleep : r.turns.scriptAwake = false) :
    (if r.turns.isQuiet then r.passTime else { r with turns := r.turns.wakeResting }).load u <
      r.load u := by
  split
  · next hquiet =>
    obtain ⟨time, hhold, hlater⟩ := hlive.moment_of_isQuiet hpos hquiet hheard
    refine (load_passTime hlive h).2.2 (List.ne_nil_of_mem (a := time) ?_)
    refine List.mem_filter.mpr ⟨?_, decide_eq_true hlater⟩
    rw [hhold]
    exact List.mem_append_left _ (List.mem_append_left _ List.mem_cons_self)
  · next hbusy =>
    have hrested := load_wakeResting (u := u) r
    have hresting : 0 < r.turns.resting.length := by
      refine List.length_pos_of_ne_nil fun hnobody => hbusy ?_
      unfold Turns.isQuiet
      rw [hqueue, hnobody, hasleep]
      rfl
    omega

/-- Every round makes the whole lighter until the run is over. -/
theorem load_round {slots capacity : Nat} (hlive : Live capacity none r) (hpos : 0 < capacity)
    (h : r.Tidy slots) (hunit : u = slots + 8) (hheard : r.heardOut = false) :
    r.round.load u < r.load u ∧ r.round.Tidy slots := by
  obtain ⟨hscript, htidy, hawake⟩ := load_scriptTurn (u := u) h
  obtain ⟨hturns, htidy'⟩ := load_takeTurns hlive.scriptTurn htidy hunit Turns.perRound
  obtain ⟨hpass, htidy'', -⟩ :=
    load_passTime (u := u) (hlive.scriptTurn.takeTurns Turns.perRound) htidy'
  have hrested := load_wakeResting (u := u) (r.scriptTurn.takeTurns Turns.perRound)
  have hend : r.round.load u ≤ (r.scriptTurn.takeTurns Turns.perRound).load u := by
    unfold round
    dsimp only
    split
    · exact hpass
    · omega
  refine ⟨?_, ?_⟩
  · by_cases hcase : r.turns.scriptAwake = true
    · have hless := hawake hcase
      omega
    · have hsame : r.scriptTurn = r := if_neg hcase
      rw [hsame] at hturns hend
      by_cases hqueue : r.turns.queue = []
      · have hidle := load_idle (u := u) hlive hpos h hheard hqueue (by simpa using hcase)
        unfold round
        rw [hsame, takeTurns_of_nobody hqueue]
        exact hidle
      · have hless := load_takeTurns_lt hlive h hunit (by decide : 0 < Turns.perRound) hqueue
        omega
  · unfold round
    dsimp only
    split
    · exact htidy''
    · exact htidy'.alike rfl rfl

/-- A run is over after as many rounds as there is to do. -/
theorem heardOut_rounds {slots capacity : Nat} (hlive : Live capacity none r)
    (hpos : 0 < capacity) (h : r.Tidy slots) (hunit : u = slots + 8) {n : Nat}
    (hload : r.load u ≤ n) : (r.rounds n).heardOut = true := by
  induction n generalizing r with
  | zero =>
    cases hheard : r.heardOut with
    | true => exact hheard
    | false =>
      have hless := (load_round hlive hpos h hunit hheard).1
      omega
  | succ n ih =>
    unfold rounds
    split
    · next hheard => exact hheard
    · next hheard =>
      obtain ⟨hless, htidy⟩ := load_round hlive hpos h hunit (by simpa using hheard)
      exact ih hlive.round htidy (by omega)

/-- There is no more to do at the beginning than there are rounds. -/
theorem load_start (settings : Settings) (s : Scenario) :
    (start settings s none).load ((start settings s none).coordinator.feed.slots + 8) ≤
      bound settings s := by
  let slots := ({ capacity := settings.coordinator.busCapacity.toNat } : Feed Activity).slots
  have hstep : stepLoad (slots + 8) * (s.steps.length + 1) ≤
      8 * (slots + 8) * (s.steps.length + 1) :=
    Nat.mul_le_mul_right _ (by unfold stepLoad; omega)
  have hbound : 8 * (slots + 8) * (s.steps.length + 8) =
      8 * (slots + 8) * (s.steps.length + 1) + 8 * (slots + 8) * 7 := by
    rw [← Nat.mul_add]
  -- the three parties that queue, the script, and what it means to do
  show 1 + (1 + (1 + 1 + 0)) + 0 + 1 + (0 + 0) + ((slots + 8 + 3) * 0 + 0)
    + (stepLoad (slots + 8) * (s.steps.length + 1) + (slots + 8 + 3)) ≤
      8 * (slots + 8) * (s.steps.length + 8)
  omega

/-- A run that is not interrupted comes to its end. -/
theorem heardOut_run (settings : Settings) (s : Scenario) :
    ((start settings s none).rounds (bound settings s)).heardOut = true :=
  heardOut_rounds (live_start settings s) (by omega) ⟨Nat.zero_le _, rfl, rfl⟩ rfl
    (load_start settings s)

end SatelliteWindows.Run
