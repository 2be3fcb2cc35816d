import SatelliteWindows.Proofs.Scenario.Abreast
import SatelliteWindows.Proofs.Scenario.Upshot

/-!
# Runs in lockstep

Runs that are in step take the same turns in every round, and the same moment is the next one for
both. So if their scripts are at the same, with the same steps to be done, the same comes of them.

The runs are without interruption.
-/

namespace SatelliteWindows.Run

variable {capacity width slots d moment : Nat} {l l' : List Step} {r r' : Run}

/-! ## Turns -/

/-- If a party queues first in the one run, the corresponding one does in the other. -/
theorem InStep.pop (h : InStep d r r') {p : Party} {rest : List Party}
    (hqueue : r.turns.queue = p :: rest) :
    r'.turns.queue = p.later d :: rest.map (Party.later d) ∧
      Keeps d r r' { r with turns := { r.turns with queue := rest } }
        { r' with turns := { r'.turns with queue := rest.map (Party.later d) } } := by
  have hqueue' := h.turns.queue
  rw [hqueue, List.map_cons] at hqueue'
  refine ⟨hqueue',
    InStep.keeps { h with turns := ⟨rfl, h.turns.resting⟩ } rfl rfl fun hscript => ?_⟩
  exact ⟨hscript.awake, hscript.rests⟩

/-- The others take the same turns. -/
theorem InStep.takeTurns (h : InStep d r r') (ho : Orderly capacity width slots r)
    (ho' : Orderly capacity width slots r') (n : Nat) :
    Keeps d r r' (r.takeTurns n) (r'.takeTurns n) := by
  induction n generalizing r r' with
  | zero => exact .refl h
  | succ n ih =>
    unfold Run.takeTurns
    cases hqueue : r.turns.queue with
    | nil =>
      have hqueue' := h.turns.queue
      rw [hqueue, List.map_nil] at hqueue'
      rw [hqueue']
      exact .refl h
    | cons p rest =>
      obtain ⟨hqueue', hpopped⟩ := h.pop hqueue
      have hp : p ≠ .script := fun hp => ho.punctual.queue (by
        rw [hqueue, hp]
        exact List.mem_cons_self)
      rw [hqueue']
      have hturned := hpopped.trans
        (hpopped.toInStep.turn hp (ho.live.pop hqueue) (ho'.live.pop hqueue'))
      exact hturned.trans (ih hturned.toInStep (ho.turn hqueue).2 (ho'.turn hqueue').2)

/-- Runs keep in step when those who rest are woken. -/
theorem InStep.wakeResting (h : InStep d r r') :
    Keeps d r r' { r with turns := r.turns.wakeResting }
      { r' with turns := r'.turns.wakeResting } :=
  InStep.keeps { h with turns := h.turns.wakeResting } rfl rfl fun hscript => hscript.wakeResting

/-! ## Moments -/

/-- The alarms that are due some time later correspond to those that are due. -/
theorem filter_due (alarms : List Timer) (time : Nat) :
    (alarms.map (Timer.later d)).filter (fun t => t.deadline ≤ time + d) =
      (alarms.filter fun t => t.deadline ≤ time).map (Timer.later d) := by
  rw [List.filter_map]
  refine congrArg (List.map (Timer.later d)) (List.filter_congr fun t _ => ?_)
  simp [Timer.later]

/-- So do those that are not. -/
theorem filter_not_due (alarms : List Timer) (time : Nat) :
    (alarms.map (Timer.later d)).filter (fun t => !decide (t.deadline ≤ time + d)) =
      (alarms.filter fun t => !decide (t.deadline ≤ time)).map (Timer.later d) := by
  rw [List.filter_map]
  refine congrArg (List.map (Timer.later d)) (List.filter_congr fun t _ => ?_)
  simp [Timer.later]

/-- When the corresponding moments have come, the same alarms are woken. -/
theorem InStep.comes (h : InStep d r r') (time : Nat) :
    InStep d (r.comes time) (r'.comes (time + d)) := by
  have hwoken : ∀ {t t' : Turns} (s s' : Prop) [Decidable s] [Decidable s'], t.InStep d t' →
      Turns.InStep d (if s then t.wake .script else t) (if s' then t'.wake .script else t') := by
    intro t t' s s' _ _ ht
    split <;> split <;> exact ⟨ht.queue, ht.resting⟩
  unfold Run.comes
  refine { h with coordinator := ?_, alarms := ?_, turns := ?_ }
  · dsimp only
    rw [h.coordinator]
    rfl
  · dsimp only
    rw [h.alarms, filter_due]
    exact (hwoken _ _ h.turns).wakeAlarms _
  · dsimp only
    rw [h.alarms, filter_not_due]

/-- The scripts are woken at the same time. -/
theorem Abreast.comes (h : Abreast d r r') {time : Nat}
    (hwake : r'.script.hold.moment? = some (time + d) ↔ r.script.hold.moment? = some time) :
    Abreast d (r.comes time) (r'.comes (time + d)) := by
  refine ⟨h.toInStep.comes time, ?_, h.agrees⟩
  have hscript : Turns.SameScript
      (if r.script.hold.moment? = some time then r.turns.wake .script else r.turns)
      (if r'.script.hold.moment? = some (time + d) then r'.turns.wake .script else r'.turns) := by
    by_cases hcome : r.script.hold.moment? = some time
    · rw [if_pos hcome, if_pos (hwake.mpr hcome)]
      exact h.script.wake .script
    · rw [if_neg hcome, if_neg (mt hwake.mp hcome)]
      exact h.script
  exact (Turns.sameScript_wakeAlarms _ _).symm.trans
    (hscript.trans (Turns.sameScript_wakeAlarms _ _))

/-- The next moment comes that much later. -/
theorem Next.later {alarms : List Timer} {time : Nat} (h : Next moment alarms time) :
    Next (moment + d) (alarms.map (Timer.later d)) (time + d) := by
  refine ⟨Nat.add_le_add_right h.le d, fun t ht => ?_, ?_⟩
  · obtain ⟨u, hu, rfl⟩ := List.mem_map.mp ht
    exact Nat.add_le_add_right (h.least u hu) d
  · rcases h.due with rfl | ⟨t, ht, rfl⟩
    · exact .inl rfl
    · exact .inr ⟨t.later d, List.mem_map_of_mem ht, rfl⟩

/-! ## Rounds -/

/-- The same is left of runs that are abreast. -/
theorem Abreast.upshot_eq (h : Abreast d r r') : r'.upshot = r.upshot := by
  unfold upshot
  rw [h.coordinator, h.agrees.fault, h.agrees.metrics, h.agrees.satellites]
  rfl

/-- The passing of time has nothing to do with the upshot. -/
theorem upshot_passTime (r : Run) :
    r.passTime.heardOut = r.heardOut ∧ r.passTime.upshot = r.upshot := by
  unfold passTime wakeAt
  split
  · dsimp only
    rw [wakeAll_eq]
    split <;> split <;> exact ⟨rfl, rfl⟩
  · exact ⟨rfl, rfl⟩

/-- Scripts echo each other behind their turns. -/
theorem Echoes.scriptTurn (h : Echoes d l l r r') :
    ∃ rest, Echoes d rest rest r.scriptTurn r'.scriptTurn := by
  unfold Run.scriptTurn
  rw [h.script.awake]
  split
  · refine Echoes.goOn_same (l := l) (h.keep { h.toInStep with turns := ?_ } rfl rfl ?_)
    · exact ⟨h.turns.queue, h.turns.resting⟩
    · exact ⟨rfl, h.script.rests⟩
  · exact ⟨l, h⟩

/-- Echoes pass through a lull in step. -/
theorem Echoes.passTime (h : Echoes d l l' r r') (ho : Orderly capacity width slots r)
    (ho' : Orderly capacity width slots r') (hquiet : r.turns.isQuiet = true)
    (hheard : r.heardOut = false) : Echoes d l l' r.passTime r'.passTime := by
  have hquiet' : r'.turns.isQuiet = true := (h.turns.isQuiet h.script).trans hquiet
  obtain ⟨moment, hlull⟩ := ho.lull hquiet hheard
  obtain ⟨moment', hlull'⟩ := ho'.lull hquiet' (h.heardOut.trans hheard)
  obtain ⟨time, hpass, -, hnext⟩ := hlull.passTime ho.punctual.sleeping
  obtain ⟨time', hpass', -, hnext'⟩ := hlull'.passTime ho'.punctual.sleeping
  have hmoment : moment' = moment + d := by
    have hhold := h.hold
    rw [hlull.hold, hlull'.hold] at hhold
    exact Hold.moment.inj hhold
  have htime : time' = time + d := by
    rw [h.alarms, hmoment] at hnext'
    exact hnext'.unique hnext.later
  subst hmoment htime
  rw [hpass, hpass']
  refine ⟨h.toAbreast.comes ?_, h.hold, h.steps, h.steps'⟩
  rw [hlull.hold, hlull'.hold]
  simp [Hold.moment?]

/-- When the turns of a round have been taken in runs that are abreast, the same comes of both and
they are over, time passes in both, or those who rest are woken in both. -/
theorem Abreast.round_cases {u u' : Run} (h : Abreast d u u')
    (hturns : r.scriptTurn.takeTurns Turns.perRound = u)
    (hturns' : r'.scriptTurn.takeTurns Turns.perRound = u') :
    (r.round.heardOut = true ∧ r'.round.heardOut = true ∧ r'.round.upshot = r.round.upshot) ∨
      (u.turns.isQuiet = true ∧ u.heardOut = false ∧ r.round = u.passTime ∧
        r'.round = u'.passTime) ∨
      r.round = { u with turns := u.turns.wakeResting } ∧
        r'.round = { u' with turns := u'.turns.wakeResting } := by
  subst hturns hturns'
  have hsame := h.turns.isQuiet h.script
  cases hquiet : (r.scriptTurn.takeTurns Turns.perRound).turns.isQuiet with
  | false => exact .inr (.inr ⟨round_of_busy hquiet, round_of_busy (hsame.trans hquiet)⟩)
  | true =>
    rw [round_of_quiet hquiet, round_of_quiet (hsame.trans hquiet)]
    cases hheard : (r.scriptTurn.takeTurns Turns.perRound).heardOut with
    | false => exact .inr (.inl ⟨rfl, rfl, rfl, rfl⟩)
    | true =>
      obtain ⟨hover, hupshot⟩ := upshot_passTime (r.scriptTurn.takeTurns Turns.perRound)
      obtain ⟨hover', hupshot'⟩ := upshot_passTime (r'.scriptTurn.takeTurns Turns.perRound)
      refine .inl ⟨hover.trans hheard, hover'.trans (h.heardOut.trans hheard), ?_⟩
      rw [hupshot, hupshot', h.upshot_eq]

/-- Rounds are the same as long as scripts are at the same. -/
theorem Echoes.round (h : Echoes d l l r r') (ho : Orderly capacity width slots r)
    (ho' : Orderly capacity width slots r') :
    (r.round.heardOut = true ∧ r'.round.heardOut = true ∧ r'.round.upshot = r.round.upshot) ∨
      ∃ rest, Echoes d rest rest r.round r'.round := by
  obtain ⟨rest, hscript⟩ := h.scriptTurn
  have hturns := (hscript.toInStep.takeTurns ho.scriptTurn ho'.scriptTurn Turns.perRound).echoes
    _ _ hscript
  rcases hturns.toAbreast.round_cases rfl rfl with
    hover | ⟨hlull, hheard, hround, hround'⟩ | ⟨hround, hround'⟩
  · exact .inl hover
  · rw [hround, hround']
    exact .inr ⟨rest, hturns.passTime (ho.scriptTurn.takeTurns _) (ho'.scriptTurn.takeTurns _)
      hlull hheard⟩
  · rw [hround, hround']
    exact .inr ⟨rest, hturns.toInStep.wakeResting.echoes _ _ hturns⟩

/-- The same comes of runs whose scripts are at the same. -/
theorem Echoes.endsLike (h : Echoes d l l r r') (ho : Orderly capacity width slots r)
    (ho' : Orderly capacity width slots r') : EndsLike r r' := by
  obtain ⟨n, hn⟩ := ho.exists_rounds
  induction n generalizing l r r' with
  | zero => exact ⟨r.upshot, comesTo_of_heardOut hn,
      h.upshot_eq ▸ comesTo_of_heardOut (h.heardOut.trans hn)⟩
  | succ n ih =>
    cases hheard : r.heardOut with
    | true => exact ⟨r.upshot, comesTo_of_heardOut hheard,
        h.upshot_eq ▸ comesTo_of_heardOut (h.heardOut.trans hheard)⟩
    | false =>
      have hleads := leads_of_round hheard rfl
      have hleads' := leads_of_round (h.heardOut.trans hheard) rfl
      refine EndsLike.of_leads ?_ hleads hleads'
      rw [rounds_succ hheard] at hn
      rcases h.round ho ho' with ⟨hover, hover', hupshot⟩ | ⟨rest, hround⟩
      · exact ⟨_, comesTo_of_heardOut hover, hupshot ▸ comesTo_of_heardOut hover'⟩
      · rcases ho.round with hover | hround'
        · exact ⟨_, comesTo_of_heardOut hover,
            hround.upshot_eq ▸ comesTo_of_heardOut (hround.heardOut.trans hover)⟩
        · rcases ho'.round with hover | hround''
          · exact ⟨_, comesTo_of_heardOut (hround.heardOut.symm.trans hover),
              hround.upshot_eq ▸ comesTo_of_heardOut hover⟩
          · exact ih hround hround' hround'' hn

end SatelliteWindows.Run
