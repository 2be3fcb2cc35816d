import SatelliteWindows.Proofs.Scenario.Lull

/-!
# What comes of a run

When a run is over, four things are left of it: the fleet with its desktop and all that was done,
why no more steps were taken, if one failed, and the counts and the windows that the script has seen
at the end. It does not depend on how a run came to some point what comes of it from there, so runs
can be compared at points that are more convenient than the ends of rounds: behind the script's
turn, and in a lull.
-/

namespace SatelliteWindows

/-- What is left of a run that is over. -/
structure Upshot where
  /-- The fleet, its desktop, and what was done. -/
  scene : Scene Simulation
  /-- Why a step failed, if one did. -/
  reason : Option (Option (String × StepFault))
  /-- What was counted. -/
  metrics : Option Metrics
  /-- The satellites. -/
  satellites : List SatelliteReport

namespace Run

variable {capacity width slots : Nat} {p : Party} {r r' u v : Run} {x : Upshot}

/-- What is left of a run. -/
def upshot (r : Run) : Upshot where
  scene := r.coordinator.scene
  reason := r.script.fault.map RunFault.reason
  metrics := r.script.metrics
  satellites := r.script.satellites

/-- This is what comes of a run. -/
def ComesTo (x : Upshot) (r : Run) : Prop :=
  ∃ n, (r.rounds n).heardOut = true ∧ (r.rounds n).upshot = x

/-- Whatever comes of one run comes of another. -/
def Leads (r u : Run) : Prop := ∀ x, u.ComesTo x → r.ComesTo x

/-- The same comes of two runs. -/
def EndsLike (r r' : Run) : Prop := ∃ x, r.ComesTo x ∧ r'.ComesTo x

/-- A run leads to itself. -/
theorem Leads.refl (r : Run) : Leads r r := fun _ => id

/-- What a run leads to leads on. -/
theorem Leads.trans (h : Leads r u) (h' : Leads u v) : Leads r v := fun x hx => h x (h' x hx)

/-- Runs end alike if what they lead to does. -/
theorem EndsLike.of_leads {u' : Run} (h : EndsLike u u') (hr : Leads r u) (hr' : Leads r' u') :
    EndsLike r r' := by
  obtain ⟨x, hx, hx'⟩ := h
  exact ⟨x, hr x hx, hr' x hx'⟩

/-! ## Rounds -/

/-- A run that is over stays as it is. -/
theorem rounds_of_heardOut (h : r.heardOut = true) (n : Nat) : r.rounds n = r := by
  cases n with
  | zero => rfl
  | succ n =>
    unfold rounds
    exact if_pos h

/-- A run that is not over goes on round by round. -/
theorem rounds_succ (h : r.heardOut = false) (n : Nat) : r.rounds (n + 1) = r.round.rounds n := by
  rw [rounds]
  exact if_neg (by rw [h]; exact Bool.false_ne_true)

/-- Once a run is over, nothing more comes of it. -/
theorem rounds_add_of_heardOut (n m : Nat) (h : (r.rounds n).heardOut = true) :
    r.rounds (n + m) = r.rounds n := by
  induction n generalizing r with
  | zero => exact (rounds_of_heardOut h _)
  | succ n ih =>
    cases hheard : r.heardOut with
    | true => rw [rounds_of_heardOut hheard, rounds_of_heardOut hheard]
    | false =>
      rw [rounds_succ hheard] at h ⊢
      rw [Nat.add_right_comm, rounds_succ hheard, ih h]

/-- Only one thing comes of a run. -/
theorem ComesTo.upshot_eq (h : r.ComesTo x) {n : Nat} (hn : (r.rounds n).heardOut = true) :
    (r.rounds n).upshot = x := by
  obtain ⟨m, hm, rfl⟩ := h
  rw [← rounds_add_of_heardOut n m hn, ← rounds_add_of_heardOut m n hm, Nat.add_comm]

/-- A run that is over has come to its upshot. -/
theorem comesTo_of_heardOut (h : r.heardOut = true) : r.ComesTo r.upshot := ⟨0, h, rfl⟩

/-- What comes of a round comes of the run. -/
theorem leads_of_round (h : r.heardOut = false) (hround : r.round = u) : Leads r u := by
  rintro x ⟨n, hn, hx⟩
  exact ⟨n + 1, by rw [rounds_succ h, hround]; exact hn, by rw [rounds_succ h, hround]; exact hx⟩

/-- A run from which the same round comes leads to the same. -/
theorem leads_of_round_eq (h : r.heardOut = false) (hu : u.heardOut = false)
    (hround : r.round = u.round) : Leads r u := by
  rintro x ⟨n, hn, hx⟩
  cases n with
  | zero =>
    rw [rounds, hu] at hn
    cases hn
  | succ n =>
    rw [rounds_succ hu, ← hround] at hn hx
    exact leads_of_round h rfl x ⟨n, hn, hx⟩

/-! ## Behind the script's turn, and in a lull -/

/-- Sending wakes no script. -/
theorem scriptAwake_send (p : Party) (letter : Letter) (r : Run) :
    (r.send p letter).2.turns.scriptAwake = r.turns.scriptAwake :=
  (sameScript_send p letter r).awake

/-- The script does not wake itself. -/
theorem scriptAwake_goOn (r : Run) : r.goOn.turns.scriptAwake = r.turns.scriptAwake := by
  have hpersists : Persists fun u => u.turns.scriptAwake = r.turns.scriptAwake :=
    { script := fun _ h => h
      alterDesktop := fun _ h => h
      send := fun _ h => (scriptAwake_send _ _ _).trans h
      rest := fun h => h }
  exact hpersists.goOn (fun {u} h => (Turns.scriptAwake_wake .watcher u.turns).trans h) rfl

/-- A script that had its turn is not awake. -/
theorem scriptAwake_scriptTurn (r : Run) : r.scriptTurn.turns.scriptAwake = false := by
  unfold scriptTurn
  split
  · exact scriptAwake_goOn { r with turns := { r.turns with scriptAwake := false } }
  · next hasleep => exact Bool.eq_false_iff.mpr hasleep

/-- A script that is asleep has no turn. -/
theorem scriptTurn_of_asleep (h : r.turns.scriptAwake = false) : r.scriptTurn = r := by
  unfold scriptTurn
  exact if_neg (by rw [h]; exact Bool.false_ne_true)

/-- A round may as well begin behind the script's turn. -/
theorem leads_scriptTurn (h : r.heardOut = false) : Leads r r.scriptTurn := by
  refine leads_of_round_eq h ((listener_scriptTurn r).2.trans h) ?_
  unfold round
  rw [scriptTurn_of_asleep (scriptAwake_scriptTurn r)]

/-- When nobody is to have another turn, time passes. -/
theorem round_of_quiet (h : (r.scriptTurn.takeTurns Turns.perRound).turns.isQuiet = true) :
    r.round = (r.scriptTurn.takeTurns Turns.perRound).passTime := if_pos h

/-- Otherwise those who rest are woken. -/
theorem round_of_busy (h : (r.scriptTurn.takeTurns Turns.perRound).turns.isQuiet = false) :
    r.round = { r.scriptTurn.takeTurns Turns.perRound with
      turns := (r.scriptTurn.takeTurns Turns.perRound).turns.wakeResting } :=
  if_neg (by rw [h]; exact Bool.false_ne_true)

/-- In a lull a round lets time pass, and nothing else. -/
theorem round_of_lull {moment : Nat} (h : Lull capacity width moment r) : r.round = r.passTime := by
  have hasleep : r.turns.scriptAwake = false := by rw [h.turns]
  have hqueue : r.turns.queue = [] := by rw [h.turns]
  have hquiet : r.turns.isQuiet = true := by rw [h.turns]; rfl
  unfold round
  dsimp only
  rw [scriptTurn_of_asleep hasleep, takeTurns_of_nobody hqueue, if_pos hquiet]

/-- A run may as well begin in the lull that it comes to in its first round. -/
theorem leads_lull {moment : Nat} (h : r.heardOut = false)
    (hquiet : (r.scriptTurn.takeTurns Turns.perRound).turns.isQuiet = true)
    (hheard : (r.scriptTurn.takeTurns Turns.perRound).heardOut = false)
    (hlull : Lull capacity width moment (r.scriptTurn.takeTurns Turns.perRound)) :
    Leads r (r.scriptTurn.takeTurns Turns.perRound) := by
  refine leads_of_round_eq h hheard ?_
  rw [round_of_lull hlull, round_of_quiet hquiet]

/-- Every run that is in order comes to its end. -/
theorem Orderly.exists_rounds (h : Orderly capacity width slots r) :
    ∃ n, (r.rounds n).heardOut = true :=
  ⟨_, heardOut_rounds h.live h.capacity_pos h.tidy rfl (Nat.le_refl (r.load (slots + 8)))⟩

end Run

end SatelliteWindows
