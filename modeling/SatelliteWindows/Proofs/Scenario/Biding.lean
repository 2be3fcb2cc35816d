import SatelliteWindows.Proofs.Scenario.Foresight

/-!
# While scripts wait

As long as two scripts wait for moments, perhaps not for the same, their runs go on in step: alarms
go off, openings are given up, and no new ones are made. So both come to the earlier of the two
moments.

The runs are without interruption.
-/

namespace SatelliteWindows

/-- When an opening is given up, none is made. -/
theorem Coordinator.generation_serve_expire {σ : Type} [Desktop σ] (name : String)
    (generation : Nat) (c : Coordinator σ) :
    (c.serve (.expire name generation)).2.scene.fleet.generation = c.scene.fleet.generation := by
  have hexpire : (c.scene.expire name generation).2.fleet.generation =
      c.scene.fleet.generation := by
    unfold Scene.expire
    split
    · dsimp only
      split <;> rfl
    · rfl
  cases hrunning : c.running with
  | true =>
    rw [(serve_of_running hrunning _).1]
    exact hexpire
  | false => rw [serve_of_not_running hrunning]

namespace Run

variable {capacity width slots moment moment' time : Nat} {p : Party} {r r' u u' v : Run}

/-! ## Timers -/

/-- One run has come of another, and no timers were set. -/
def Fades (r u : Run) : Prop := ∀ t ∈ u.timers, t ∈ r.timers ∧ (u.Awaits t → r.Awaits t)

/-- A run that is left alone fades into itself. -/
theorem Fades.refl (r : Run) : Fades r r := fun _ ht => ⟨ht, id⟩

/-- What fades twice fades. -/
theorem Fades.trans (h : Fades r u) (h' : Fades u v) : Fades r v := fun t ht =>
  ⟨(h t (h' t ht).1).1, (h t (h' t ht).1).2 ∘ (h' t ht).2⟩

/-- If no opening was made, no timer was set. -/
theorem Follows.fades {busy : Option Party} (h : Follows busy r u) (hpunctual : Punctual r)
    (hsame : u.coordinator.scene.fleet.generation = r.coordinator.scene.fleet.generation) :
    Fades r u := by
  intro t ht
  rcases h.timers t ht with hthere | ⟨-, hbefore, hafter⟩
  · exact ⟨hthere, h.ages.awaited _ _ (hpunctual.timers t hthere).2.2⟩
  · omega

/-- A script makes no openings in its turn, it asks for them. -/
theorem Orderly.fades_scriptTurn (h : Orderly capacity width slots r) : Fades r r.scriptTurn := by
  obtain ⟨world, hworld⟩ := reshapes_scriptTurn r
  exact (Follows.scriptTurn r).fades h.punctual (by rw [hworld])

/-- While the script waits for a moment, nobody opens anything. -/
theorem Orderly.fades_turn (h : Orderly capacity width slots r)
    (hhold : r.script.hold = .moment moment) {rest : List Party}
    (hqueue : r.turns.queue = p :: rest) :
    Fades r ({ r with turns := { r.turns with queue := rest } }.turn p) := by
  obtain ⟨hfollows, -⟩ := h.turn hqueue
  have hlive := h.live.pop hqueue
  refine hfollows.fades h.punctual ?_
  cases p with
  | script => exact absurd (hqueue ▸ List.mem_cons_self) h.punctual.queue
  | coordinator =>
    refine And.right (hlive.work_induction (motive := fun u => u.script.hold = .moment moment ∧
      u.coordinator.scene.fleet.generation = r.coordinator.scene.fleet.generation) h.tidy.timers
      ⟨hhold, rfl⟩ id (fun {u sender req letters} hlive' hfollows' _ hletters hu => ?_)
      (fun {u letters} hlive' _ _ hletters hu => ?_) Turns.allowance)
    · have hpunctual := (h.punctual.follows (Follows.pop hqueue)).follows hfollows'
      rcases hlive'.request_cases hpunctual hletters with ⟨-, hasked⟩ | ⟨t, -, rfl, rfl, -⟩
      · rw [hu.1] at hasked
        cases hasked
      · have hsame := grant_eq (Mailbox.release { u.mailbox with letters := letters }) u
        obtain ⟨hcoordinator, -, hscript⟩ := serve_fields (.alarm t) (.expire t.name t.generation)
          (u.grant (Mailbox.release { u.mailbox with letters := letters }))
        rw [hcoordinator, hscript, hsame]
        exact ⟨hu.1, (Coordinator.generation_serve_expire _ _ _).trans hu.2⟩
    · have hown := hlive'.own
      rw [hletters] at hown
      have hending := (Hold.Owns.farewell hown).1
      rw [hu.1] at hending
      cases hending
  | listener =>
    unfold Run.turn listen
    dsimp only
    split <;> rfl
  | watcher =>
    unfold Run.turn
    dsimp only
    rw [hlive.watch_eq]
    split <;> rfl
  | alarm t =>
    unfold Run.turn
    dsimp only
    unfold ring
    split
    · rw [coordinator_send]
    · rfl

/-! ## Rounds -/

/-- Two runs have come of two others while their scripts waited for moments. -/
structure Bides (capacity width slots moment moment' : Nat) (r r' u u' : Run) : Prop where
  /-- They are abreast. -/
  abreast : Abreast 0 u u'
  /-- The one is in order. -/
  orderly : Orderly capacity width slots u
  /-- So is the other. -/
  orderly' : Orderly capacity width slots u'
  /-- The script of the one has not gone on. -/
  script : u.script = r.script
  /-- Nor has that of the other. -/
  script' : u'.script = r'.script
  /-- No timers were set. -/
  fades : Fades r u
  /-- The moment that the one script waits for has not come. -/
  hold : r.script.hold = .moment moment ∧ u.clock < moment
  /-- Nor has that of the other. -/
  hold' : r'.script.hold = .moment moment' ∧ u.clock < moment'

/-- Others leave a script alone that waits for a moment. -/
theorem Orderly.script_of_moment (h : Orderly capacity width slots r)
    (hhold : r.script.hold = .moment moment) {rest : List Party}
    (hqueue : r.turns.queue = p :: rest) :
    ({ r with turns := { r.turns with queue := rest } }.turn p).script = r.script := by
  refine (h.script_turn hqueue).resolve_right fun ⟨_, hasked, _⟩ => ?_
  rw [hhold] at hasked
  cases hasked

/-- A script that waits for a moment has nothing to do in its turn. -/
theorem scriptTurn_of_waits (hhold : r.script.hold = .moment moment) (hlater : r.clock < moment) :
    r.scriptTurn = { r with turns := { r.turns with scriptAwake := false } } := by
  unfold scriptTurn
  split
  · unfold goOn
    rw [hhold]
    exact if_neg (Nat.not_le.mpr hlater)
  · next hasleep =>
    have hsame : ({ r.turns with scriptAwake := false } : Turns) = r.turns := by
      rw [← Bool.eq_false_iff.mpr hasleep]
    rw [hsame]

namespace Bides

/-- Scripts that bide their time wait for their moments, which have not come. -/
theorem holds (h : Bides capacity width slots moment moment' r r' u u') :
    (u.script.hold = .moment moment ∧ u.clock < moment) ∧
      u'.script.hold = .moment moment' ∧ u'.clock < moment' := by
  rw [h.script, h.script', h.abreast.clock]
  exact ⟨h.hold, h.hold'⟩

/-- They do so while nobody wakes them. -/
theorem scriptTurn (h : Bides capacity width slots moment moment' r r' u u') :
    Bides capacity width slots moment moment' r r' u.scriptTurn u'.scriptTurn := by
  obtain ⟨⟨hhold, hlater⟩, hhold', hlater'⟩ := h.holds
  have ho := h.orderly.scriptTurn
  have ho' := h.orderly'.scriptTurn
  have hfades := h.orderly.fades_scriptTurn
  rw [scriptTurn_of_waits hhold hlater] at ho hfades ⊢
  rw [scriptTurn_of_waits hhold' hlater'] at ho' ⊢
  refine { h with
    abreast := ⟨{ h.abreast.toInStep with turns := ?_ }, ?_, h.abreast.agrees⟩
    orderly := ho
    orderly' := ho'
    fades := h.fades.trans hfades }
  · exact ⟨h.abreast.turns.queue, h.abreast.turns.resting⟩
  · exact ⟨rfl, h.abreast.script.rests⟩

/-- They do so while others have corresponding turns. -/
theorem turn (h : Bides capacity width slots moment moment' r r' u u') {rest : List Party}
    (hqueue : u.turns.queue = p :: rest) : ∃ p' rest', u'.turns.queue = p' :: rest' ∧
      Bides capacity width slots moment moment' r r'
        ({ u with turns := { u.turns with queue := rest } }.turn p)
        ({ u' with turns := { u'.turns with queue := rest' } }.turn p') := by
  obtain ⟨⟨hhold, hlater⟩, hhold', hlater'⟩ := h.holds
  obtain ⟨hqueue', hpopped⟩ := h.abreast.toInStep.pop hqueue
  have hp : p ≠ .script := fun hp => h.orderly.punctual.queue (by
    rw [hqueue, hp]
    exact List.mem_cons_self)
  have hturned := hpopped.trans
    (hpopped.toInStep.turn hp (h.orderly.live.pop hqueue) (h.orderly'.live.pop hqueue'))
  have hscript := h.orderly.script_of_moment hhold hqueue
  have hscript' := h.orderly'.script_of_moment hhold' hqueue'
  obtain ⟨hfollows, ho⟩ := h.orderly.turn hqueue
  refine ⟨_, _, hqueue', ⟨hturned.toInStep, hturned.script h.abreast.script, ?_⟩, ho,
    (h.orderly'.turn hqueue').2, hscript.trans h.script, hscript'.trans h.script',
    h.fades.trans (h.orderly.fades_turn hhold hqueue), ⟨h.hold.1, ?_⟩, h.hold'.1, ?_⟩
  · rw [hscript, hscript']
    exact h.abreast.agrees
  · rw [hfollows.clock]
    exact h.hold.2
  · rw [hfollows.clock]
    exact h.hold'.2

/-- They do so for several turns. -/
theorem takeTurns (h : Bides capacity width slots moment moment' r r' u u') (n : Nat) :
    Bides capacity width slots moment moment' r r' (u.takeTurns n) (u'.takeTurns n) := by
  induction n generalizing u u' with
  | zero => exact h
  | succ n ih =>
    unfold Run.takeTurns
    cases hqueue : u.turns.queue with
    | nil =>
      have hqueue' := h.abreast.turns.queue
      rw [hqueue, List.map_nil] at hqueue'
      rw [hqueue']
      exact h
    | cons p rest =>
      obtain ⟨p', rest', hqueue', hturned⟩ := h.turn hqueue
      rw [hqueue']
      exact ih hturned

/-- They do so when those who rest are woken. -/
theorem wakeResting (h : Bides capacity width slots moment moment' r r' u u') :
    Bides capacity width slots moment moment' r r' { u with turns := u.turns.wakeResting }
      { u' with turns := u'.turns.wakeResting } := by
  have hwoken := h.abreast.toInStep.wakeResting
  have hfollows := Follows.wakeResting u h.orderly.punctual.resting
  exact { h with
    abreast := ⟨hwoken.toInStep, hwoken.script h.abreast.script, h.abreast.agrees⟩
    orderly := h.orderly.wakeResting
    orderly' := h.orderly'.wakeResting
    fades := h.fades.trans (hfollows.fades h.orderly.punctual rfl) }


/-- When an alarm goes off before the moments, it does so in both runs. -/
theorem passTime (h : Bides capacity width slots moment moment' r r' u u')
    (hquiet : u.turns.isQuiet = true) {t : Timer} (ht : t ∈ u.alarms)
    (hbefore : t.deadline < min moment moment') :
    Bides capacity width slots moment moment' r r' u.passTime u'.passTime := by
  obtain ⟨⟨hhold, -⟩, hhold', -⟩ := h.holds
  have hquiet' := (h.abreast.turns.isQuiet h.abreast.script).trans hquiet
  obtain ⟨time, hpass, -, hnext⟩ :=
    (h.orderly.lull_of_moment hquiet hhold).passTime h.orderly.punctual.sleeping
  obtain ⟨time', hpass', -, hnext'⟩ :=
    (h.orderly'.lull_of_moment hquiet' hhold').passTime h.orderly'.punctual.sleeping
  have hearly := hnext.least t ht
  have hsame : time' = time := by
    rw [h.abreast.alarms] at hnext'
    refine hnext'.unique (Next.later (d := 0) ⟨by omega, hnext.least, .inr ?_⟩)
    exact hnext.due.resolve_left (by omega)
  subst hsame
  have ho := h.orderly.passTime hquiet (h.orderly.heardOut_of_moment hhold)
  have ho' := h.orderly'.passTime hquiet' (h.orderly'.heardOut_of_moment hhold')
  rw [hpass] at ho ⊢
  rw [hpass'] at ho' ⊢
  have hnone : u.script.hold.moment? ≠ some time' := by
    rw [hhold]
    exact fun hsame => absurd (Option.some.inj hsame) (by omega)
  have hnone' : u'.script.hold.moment? ≠ some time' := by
    rw [hhold']
    exact fun hsame => absurd (Option.some.inj hsame) (by omega)
  exact ⟨h.abreast.comes (d := 0) (iff_of_false hnone' hnone), ho, ho', h.script, h.script',
    h.fades.trans fun _ ht => ⟨mem_timers_comes ht, id⟩, ⟨h.hold.1, show time' < _ by omega⟩,
    h.hold'.1, show time' < _ by omega⟩

/-- There will be a lull in both runs, and no alarm goes off before the earlier moment. -/
theorem lull (h : Bides capacity width slots moment moment' r r' u u') : ∃ q q',
    Leads u q ∧ Leads u' q' ∧ Bides capacity width slots moment moment' r r' q q' ∧
      Lull capacity width moment q ∧ Lull capacity width moment' q' ∧
        ∀ t ∈ q.alarms, min moment moment' ≤ t.deadline := by
  obtain ⟨n, hn⟩ := h.orderly.exists_rounds
  induction n generalizing u u' with
  | zero =>
    have hheard := h.orderly.heardOut_of_moment h.holds.1.1
    rw [rounds, hheard] at hn
    cases hn
  | succ n ih =>
    have hmid := h.scriptTurn.takeTurns Turns.perRound
    have hheard := h.orderly.heardOut_of_moment h.holds.1.1
    have hheard' := h.orderly'.heardOut_of_moment h.holds.2.1
    obtain ⟨⟨hhold, -⟩, hhold', -⟩ := hmid.holds
    have hover := hmid.orderly.heardOut_of_moment hhold
    have hover' := hmid.orderly'.heardOut_of_moment hhold'
    have hsame := hmid.abreast.turns.isQuiet hmid.abreast.script
    have hgoes : ∀ {v v' : Run}, u.round = v → u'.round = v' →
        Bides capacity width slots moment moment' r r' v v' → ∃ q q', Leads u q ∧ Leads u' q' ∧
          Bides capacity width slots moment moment' r r' q q' ∧
            Lull capacity width moment q ∧ Lull capacity width moment' q' ∧
              ∀ t ∈ q.alarms, min moment moment' ≤ t.deadline := by
      rintro v v' hround hround' hbides
      rw [rounds_succ hheard, hround] at hn
      obtain ⟨q, q', hq, hq', hrest⟩ := ih hbides hn
      exact ⟨q, q', (leads_of_round hheard hround).trans hq,
        (leads_of_round hheard' hround').trans hq', hrest⟩
    cases hquiet : (u.scriptTurn.takeTurns Turns.perRound).turns.isQuiet with
    | true =>
      have hquiet' := hsame.trans hquiet
      have hlull := hmid.orderly.lull_of_moment hquiet hhold
      have hlull' := hmid.orderly'.lull_of_moment hquiet' hhold'
      by_cases hlate : ∀ t ∈ (u.scriptTurn.takeTurns Turns.perRound).alarms,
          min moment moment' ≤ t.deadline
      · exact ⟨_, _, leads_lull hheard hquiet hover hlull, leads_lull hheard' hquiet' hover' hlull',
          hmid, hlull, hlull', hlate⟩
      · simp only [not_forall, Nat.not_le] at hlate
        obtain ⟨t, ht, hbefore⟩ := hlate
        exact hgoes (round_of_quiet hquiet) (round_of_quiet hquiet')
          (hmid.passTime hquiet ht hbefore)
    | false =>
      exact hgoes (round_of_busy hquiet) (round_of_busy (hsame.trans hquiet)) hmid.wakeResting

end Bides

/-! ## Moments -/

/-- Before the next moment, time may pass unnoticed. -/
theorem Lull.comes_eq (h : Lull capacity width moment r) (hbefore : time < moment)
    (halarms : ∀ t ∈ r.alarms, time < t.deadline) :
    r.comes time = { r with coordinator := { r.coordinator with clock := time } } := by
  have hnone : r.script.hold.moment? ≠ some time := by
    rw [h.hold]
    exact fun hsame => absurd (Option.some.inj hsame) (Nat.ne_of_gt hbefore)
  have hdue : r.alarms.filter (fun t => t.deadline ≤ time) = [] :=
    List.filter_eq_nil_iff.mpr fun t ht => by simp [halarms t ht]
  have hlater : r.alarms.filter (fun t => !decide (t.deadline ≤ time)) = r.alarms :=
    List.filter_eq_self.mpr fun t ht => by simp [halarms t ht]
  unfold comes
  rw [hdue, hlater, if_neg hnone]
  rfl

/-- In a lull, everything stays in order while time passes. -/
theorem Orderly.later_clock (h : Orderly capacity width slots r)
    (hlull : Lull capacity width moment r) (hlater : r.clock ≤ time) (hbefore : time < moment)
    (halarms : ∀ t ∈ r.alarms, time < t.deadline) :
    Orderly capacity width slots
      { r with coordinator := { r.coordinator with clock := time } } := by
  have hnobody : r.mailbox.guests = [] := by
    rw [hlull.mailbox]
    rfl
  have hlive : Live capacity none { r with coordinator := { r.coordinator with clock := time } } :=
    { h.live with
      guests := fun p hp => absurd (hnobody ▸ hp) List.not_mem_nil
      script := .inr (by unfold Waits; rw [hlull.hold]; exact hbefore) }
  refine ⟨h.capacity_pos, hlive, h.tidy.alike rfl rfl, ⟨h.punctual.queue, h.punctual.resting,
    fun l hl => ?_, halarms, fun t ht => ?_, h.punctual.timeout⟩,
    ⟨h.heeds.listener, h.heeds.feed, h.heeds.news⟩, h.ease.keep rfl rfl⟩
  · have hmem : l ∈ r.mailbox.letters := hl
    rw [hlull.mailbox] at hmem
    cases hmem
  · have hmem : t ∈ r.timers := ht
    obtain ⟨-, hlong, hmade⟩ := h.punctual.timers t hmem
    rw [hlull.timers] at hmem
    refine ⟨Nat.le_of_lt (halarms t hmem), ?_, hmade⟩
    show t.deadline ≤ time + longestDelay
    omega

/-- A run comes to every moment, up to the next that somebody waits for. -/
theorem Orderly.come (h : Orderly capacity width slots r) (hlull : Lull capacity width moment r)
    (time : Nat) (hlater : r.clock < time) (hle : time ≤ moment)
    (halarms : ∀ t ∈ r.alarms, time ≤ t.deadline) :
    Leads r (r.comes time) ∧ Orderly capacity width slots (r.comes time) := by
  have hquiet : r.turns.isQuiet = true := by
    rw [hlull.turns]
    rfl
  have hheard := h.heardOut_of_moment hlull.hold
  obtain ⟨next, hpass, -, hnext⟩ := hlull.passTime h.punctual.sleeping
  by_cases hdue : time = moment ∨ ∃ t ∈ r.alarms, t.deadline = time
  · obtain rfl := Next.unique ⟨hle, halarms, hdue⟩ hnext
    exact ⟨leads_of_round hheard ((round_of_lull hlull).trans hpass),
      hpass ▸ h.passTime hquiet hheard⟩
  · simp only [not_or, not_exists, not_and] at hdue
    have hbefore : time < moment := Nat.lt_of_le_of_ne hle hdue.1
    have halarms' : ∀ t ∈ r.alarms, time < t.deadline := fun t ht =>
      Nat.lt_of_le_of_ne (halarms t ht) fun hsame => hdue.2 t ht hsame.symm
    have ho := h.later_clock hlull (Nat.le_of_lt hlater) hbefore halarms'
    rw [hlull.comes_eq hbefore halarms']
    have hlull' : Lull capacity width moment
        { r with coordinator := { r.coordinator with clock := time } } :=
      { hlull with later := hbefore }
    -- nothing goes off before the next moment, so it is the next one from there as well
    refine ⟨leads_of_round_eq hheard hheard ?_, ho⟩
    obtain ⟨next', hpass', -, hnext'⟩ := hlull'.passTime halarms'
    obtain rfl := hnext.unique hnext'
    rw [round_of_lull hlull, round_of_lull hlull', hpass, hpass']
    rfl

/-- Two runs have come of two others while their scripts waited for moments, and the earlier of them
has come. -/
structure Meets (capacity width slots moment moment' : Nat) (r r' u u' : Run) : Prop where
  /-- But for who is awake, they are abreast. -/
  abreast : Abreast 0 { u with turns := { u.turns with scriptAwake := false } }
    { u' with turns := { u'.turns with scriptAwake := false } }
  /-- The one is in order. -/
  orderly : Orderly capacity width slots u
  /-- So is the other. -/
  orderly' : Orderly capacity width slots u'
  /-- The script of the one has not gone on. -/
  script : u.script = r.script
  /-- Nor has that of the other. -/
  script' : u'.script = r'.script
  /-- No timers were set. -/
  fades : Fades r u
  /-- The script of the one waits for its moment. -/
  hold : r.script.hold = .moment moment
  /-- The script of the other waits for its own. -/
  hold' : r'.script.hold = .moment moment'
  /-- The earlier moment has come. -/
  clock : u.clock = min moment moment'
  /-- The script of the one is awake if it is its moment. -/
  awake : u.turns.scriptAwake = decide (moment = u.clock)
  /-- So is that of the other. -/
  awake' : u'.turns.scriptAwake = decide (moment' = u.clock)

/-- When a lull is over the script is awake if its moment has come. -/
theorem scriptAwake_comes (h : Lull capacity width moment r) (time : Nat) :
    (r.comes time).turns.scriptAwake = decide (moment = time) := by
  have hwoken : (r.comes time).turns.scriptAwake =
      (if r.script.hold.moment? = some time then r.turns.wake .script else r.turns).scriptAwake :=
    (Turns.sameScript_wakeAlarms _ _).awake
  rw [hwoken, h.hold, h.turns]
  by_cases hsame : moment = time
  · rw [decide_eq_true hsame, hsame]
    exact congrArg Turns.scriptAwake (if_pos rfl)
  · have hnone : (Hold.moment moment).moment? ≠ some time := fun h => hsame (Option.some.inj h)
    rw [decide_eq_false hsame, if_neg hnone]

/-- Runs whose scripts wait for moments come to the earlier of them. -/
theorem Bides.meets (h : Bides capacity width slots moment moment' r r' u u') : ∃ v v',
    Leads u v ∧ Leads u' v' ∧ Meets capacity width slots moment moment' r r' v v' := by
  obtain ⟨q, q', hq, hq', hbides, hlull, hlull', halarms⟩ := h.lull
  obtain ⟨⟨-, hlater⟩, -, hlater'⟩ := hbides.holds
  have hclock : q'.clock = q.clock := hbides.abreast.clock
  have halarms' : ∀ t ∈ q'.alarms, min moment moment' ≤ t.deadline := fun t ht => by
    rw [hbides.abreast.alarms] at ht
    obtain ⟨a, ha, rfl⟩ := List.mem_map.mp ht
    exact halarms a ha
  obtain ⟨hcomes, ho⟩ := hbides.orderly.come hlull (min moment moment') (by omega)
    (by omega) halarms
  obtain ⟨hcomes', ho'⟩ := hbides.orderly'.come hlull' (min moment moment') (by omega)
    (by omega) halarms'
  have hstep := hbides.abreast.toInStep.comes (min moment moment')
  have hrests : ∀ {q : Run} {moment : Nat}, Lull capacity width moment q → ∀ time,
      .script ∉ (q.comes time).turns.resting := fun {q _} h time => by
    unfold comes
    dsimp only
    rw [Turns.resting_wakeAlarms, h.turns]
    split <;> exact List.not_mem_nil
  refine ⟨_, _, hq.trans hcomes, hq'.trans hcomes', ⟨⟨{ hstep with turns := ?_ }, ?_, ?_⟩, ho, ho',
    hbides.script, hbides.script', hbides.fades.trans fun _ ht => ⟨mem_timers_comes ht, id⟩,
    h.hold.1, h.hold'.1, rfl, scriptAwake_comes hlull _, scriptAwake_comes hlull' _⟩⟩
  · exact ⟨hstep.turns.queue, hstep.turns.resting⟩
  · exact ⟨rfl, iff_of_false (hrests hlull' _) (hrests hlull _)⟩
  · exact hbides.abreast.agrees

end Run

end SatelliteWindows
