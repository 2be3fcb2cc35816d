import SatelliteWindows.Proofs.Scenario.Rounds.Script

/-!
# Everything is seen to in every round

No turn leaves anything undone that nobody sees to, and neither does a round.
-/

namespace SatelliteWindows.Run

namespace Live

variable {capacity : Nat} {p : Party} {r : Run}

/-- The script does not queue. -/
theorem turn (h : Live capacity (some p) r) (hpause : r.Pauses) : Live capacity none (r.turn p) :=
  match p with
  | .script => h.goOn hpause
  | .coordinator => h.work Turns.allowance
  | .listener => h.listen
  | .watcher => h.watches
  | .alarm _ => h.ring

/-- Several turns leave nothing undone. -/
theorem takeTurns (h : Live capacity none r) (n : Nat) : Live capacity none (r.takeTurns n) := by
  induction n generalizing r with
  | zero => exact h
  | succ n ih =>
    unfold Run.takeTurns
    split
    · exact h
    · next hqueue => exact ih ((h.pop hqueue).turn (h.pause.resolve_left nofun))

/-- Nor does the script's turn, if it has one. -/
theorem scriptTurn (h : Live capacity none r) : Live capacity none r.scriptTurn := by
  unfold Run.scriptTurn
  split
  · exact h.calm.goOn (h.pause.resolve_left nofun)
  · exact h

/-- Nor does it when those who rest are woken. -/
theorem wakeResting (h : Live capacity none r) :
    Live capacity none { r with turns := r.turns.wakeResting } :=
  h.expect (fun _ hq => hq.imp id Turns.Expects.wakeResting) h.pause

/-- Whoever waited for the moment that has come is woken. -/
theorem passTime (h : Live capacity none r) : Live capacity none r.passTime := by
  cases htime : r.moments.min? with
  | none =>
    unfold Run.passTime
    rw [htime]
    exact h
  | some time =>
    obtain ⟨hmem, hleast⟩ := List.min?_eq_some_iff.mp htime
    have hlater : r.clock < time := by simpa using (List.mem_filter.mp hmem).2
    rw [passTime_eq h.moment htime]
    have hexpects : ∀ q, r.turns.Expects q →
        ((r.alarms.filter fun t => t.deadline ≤ time).foldl (fun t a => t.wake (.alarm a))
          (if r.script.hold.moment? = some time then r.turns.wake .script else r.turns)).Expects
            q := fun q hq => by
      refine Turns.Expects.wakeAlarms ?_ _
      split
      · exact hq.wake .script
      · exact hq
    have hattends : ∀ q, r.Attends none q → _ := fun q hq => hq.imp id (hexpects q)
    refine ⟨h.mailbox, fun q hq => hattends q (h.granted q hq), fun q hq => ?_,
      fun hon hletters => hattends _ (h.letters hon hletters),
      fun hoff => (h.listener hoff).imp id (hattends _), h.heardOut, h.moment, h.watch,
      fun hhold => (h.dismissal hhold).imp id (And.imp id (hattends _)), h.own, h.stopped, ?_,
      h.pause⟩
    -- an alarm asks for a place only after its moment, and that remains so as time passes
    · have hseeks := h.guests q hq
      cases q with
      | alarm t => exact Nat.le_trans hseeks (Nat.le_of_lt hlater)
      | _ => exact hseeks
    · rcases h.script with hscript | hwaits
      · exact .inl (hattends _ hscript)
      -- waiting is over if this was the moment it waited for, and goes on otherwise
      · by_cases hcome : r.script.hold.moment? = some time
        · refine .inl (.inr (Turns.Expects.wakeAlarms ?_ _))
          rw [if_pos hcome]
          exact Turns.expects_wake .script r.turns
        · refine .inr ?_
          unfold Waits at hwaits ⊢
          cases hhold : r.script.hold with
          | moment moment =>
            rw [hhold] at hwaits hcome
            have hmoment : moment ∈ r.moments := by
              refine List.mem_filter.mpr ⟨?_, by simpa using hwaits⟩
              rw [hhold]
              exact List.mem_append_left _ (List.mem_append_left _ List.mem_cons_self)
            exact Nat.lt_of_le_of_ne (hleast moment hmoment) fun hsame =>
              hcome (congrArg some hsame.symm)
          | answer given =>
            rw [hhold] at hwaits
            cases given <;> exact hwaits
          | _ =>
            rw [hhold] at hwaits
            exact hwaits

/-- Nor does a round. -/
theorem round (h : Live capacity none r) : Live capacity none r.round := by
  unfold Run.round
  dsimp only
  split
  · exact (h.scriptTurn.takeTurns _).passTime
  · exact (h.scriptTurn.takeTurns _).wakeResting

end Live

/-- At the beginning everybody is to have a turn. -/
theorem live_start (settings : Settings) (s : Scenario) :
    Live (max settings.coordinator.channelBuffer.toNat 1) none (start settings s none) where
  mailbox := ⟨rfl, List.nodup_nil, fun hwaiting => absurd rfl hwaiting⟩
  granted := nofun
  guests := nofun
  letters _ hletters := absurd rfl hletters
  listener := nofun
  heardOut := nofun
  moment := rfl
  watch := .inl rfl
  dismissal := nofun
  own := rfl
  stopped := nofun
  script := .inl (.inr (.inr (.inl ⟨rfl, rfl⟩)))
  pause := .inr nofun

/-- Nor do any number of rounds. -/
theorem live_rounds (n : Nat) {capacity : Nat} {r : Run} (h : Live capacity none r) :
    Live capacity none (r.rounds n) := by
  induction n generalizing r with
  | zero => exact h
  | succ n ih =>
    unfold rounds
    split
    · exact h
    · exact ih h.round

end SatelliteWindows.Run
