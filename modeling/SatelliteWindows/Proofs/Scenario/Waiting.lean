import SatelliteWindows.Proofs.Scenario
import SatelliteWindows.Proofs.Scenario.Biding
import SatelliteWindows.Proofs.Scenario.Consistency
import SatelliteWindows.Proofs.Scenario.Occasions
import SatelliteWindows.Proofs.Scenario.Validation

/-!
# Waiting is additive

Instead of waiting once, a script may wait twice, for as long in sum: the same comes of the run,
provided that neither the first wait nor the whole ends just when an opening is given up that is
awaited when the script begins to wait.

The runs are without interruption.
-/

namespace SatelliteWindows

namespace Run

variable {capacity width slots d moment n : Nat} {a b : Nat} {s : Step} {t t' after : List Step}
  {r r' u u' o o' w y y' : Run}

/-- No opening that is awaited would be given up just when a wait is over that begins now. -/
def Misses (ms : Nat) (r : Run) : Prop :=
  ∀ t ∈ r.timers, r.Awaits t → t.deadline ≠ r.clock + delay ms

instance (ms : Nat) (r : Run) : Decidable (r.Misses ms) :=
  inferInstanceAs (Decidable (∀ t ∈ r.timers, r.Awaits t → _ ≠ _))

/-- An opening that is still awaited when the wait is over is given up after that. -/
theorem Misses.undisturbed {ms : Nat} (h : o.Misses ms) (ho : Orderly capacity width slots w)
    (hfades : Fades o w) (hclock : w.clock = o.clock + delay ms) : Undisturbed w :=
  fun t ht hdue hawaits => by
    have hlate := (ho.punctual.timers t ht).1
    exact h t (hfades t ht).1 ((hfades t ht).2 hawaits) (by omega)

/-- Nothing is put off for longer than the longest delay, so all is given up when it is over. -/
theorem Misses.over {ms : Nat} (h : o.Misses ms) (hlong : longestDelay < ms)
    (ho : Orderly capacity width slots o) (how : Orderly capacity width slots w)
    (hfades : Fades o w) (hclock : w.clock = o.clock + delay ms) :
    ∀ t ∈ w.timers, t.deadline ≤ w.clock ∧ ¬ w.Awaits t := fun t ht => by
  have hbound := (ho.punctual.timers t (hfades t ht).1).2.1
  have hdelay : delay ms = longestDelay := Nat.min_eq_right (Nat.le_of_lt hlong)
  have hdue : t.deadline ≤ w.clock := by omega
  exact ⟨hdue, h.undisturbed how hfades hclock t ht hdue⟩

/-! ## Where the scripts arrive -/

/-- A script that reaches steps in its turn has written no letter. -/
theorem Live.own_of_goOnReaches {busy : Option Party} (h : Live capacity busy r)
    (hreaches : r.goOnReaches ≠ []) : r.mailbox.letters.findSome? Letter.own? = none := by
  have hown := h.own
  unfold goOnReaches at hreaches
  cases hhold : r.script.hold with
  | free =>
    rw [hhold] at hown
    exact findSome?_own_eq_none hown
  | answer given =>
    rw [hhold] at hown hreaches
    cases given with
    | none => exact absurd rfl hreaches
    | some answer => exact findSome?_own_eq_none hown
  | moment time =>
    rw [hhold] at hown
    exact findSome?_own_eq_none hown
  | place | watcher | farewell =>
    rw [hhold] at hreaches
    exact absurd rfl hreaches
  | ending =>
    rw [hhold] at hreaches
    exact absurd rfl hreaches

/-- What the script does of its own accord does not concern the timers. -/
theorem Onward.follows (h : Onward { r with turns := { r.turns with scriptAwake := false } } y) :
    Follows (some .script) r y := by
  obtain ⟨world, script, rfl⟩ := h
  exact (Follows.calm r).alike rfl rfl rfl rfl rfl rfl

namespace Arrives

/-- When a script has arrived none of its letters is under way. -/
theorem own (h : Arrives d (s :: t) t' o o' n y y') (ho : Orderly capacity width slots o) :
    y.mailbox.letters.findSome? Letter.own? = none := by
  obtain ⟨first, hseen⟩ := h.seen
  obtain ⟨world, script, hy⟩ := h.onward
  have hreaches : o.scriptReaches ≠ [] := by
    rw [hseen]
    exact fun hnone => absurd (List.append_eq_nil_iff.mp hnone).2 nofun
  rw [hy]
  unfold scriptReaches at hreaches
  split at hreaches
  · exact ho.live.calm.own_of_goOnReaches hreaches
  · exact absurd rfl hreaches

/-- The same comes of runs whose scripts pause for no time, or do not. -/
theorem endsLike_zero (h : Arrives 0 (s :: t) (.wait 0 :: s :: t) o o' n y y')
    (ho : Orderly capacity width slots o) (ho' : Orderly capacity width slots o')
    (hcalm : Undisturbed o) : EndsLike o.scriptTurn o'.scriptTurn := by
  have hown := h.own ho
  have hfollows := h.onward.follows
  have hfollows' := h.onward'.follows
  have hafter : Follows (some .script) y' (y'.proceed n (.wait 0 :: s :: t)) :=
    (Follows.persists _ y').proceed (.refl y') _ _
  have hcalm' : Undisturbed o'.scriptTurn := by
    rw [h.goes']
    exact (h.abreast.undisturbed (hcalm.follows ho.punctual hfollows)).follows
      (ho'.punctual.follows hfollows') hafter
  refine endsLike_of_prospect (d := 0) ho.scriptTurn ho'.scriptTurn
    (hcalm.follows ho.punctual (Follows.scriptTurn o)) hcalm' ?_
  rw [h.goes, h.goes', prospect_proceed hown, prospect_proceed (h.abreast.own.trans hown),
    h.abreast.view_eq h.abreast.agrees, Prospect.play_wait_zero, Prospect.play_later]

end Arrives

/-! ## The moment that ends a wait -/

/-- A script that begins to wait. -/
theorem proceed_wait {ms : Nat} (hms : ms ≠ 0) (n : Nat) (l : List Step) (r : Run) :
    r.proceed (n + 1) (.wait ms :: l) =
      { r with script := { r.script with
        steps := .wait ms :: l
        hold := .moment (r.clock + delay ms) } } := by
  rw [proceed_cons]
  exact if_neg hms

/-- Scripts that begin to wait for different moments. -/
theorem Abreast.proceed_wait (h : Abreast d r r') {ms ms' : Nat} (hms : ms ≠ 0) (hms' : ms' ≠ 0)
    (n : Nat) (l l' : List Step) :
    Abreast d (r.proceed n (.wait ms :: l)) (r'.proceed n (.wait ms' :: l')) := by
  have hpaused := (h.setSteps (.wait ms :: l) (.wait ms' :: l')).hold (.moment (r.clock + delay ms))
    (.moment (r'.clock + delay ms'))
  cases n with
  | zero => exact hpaused.rest
  | succ n =>
    rw [Run.proceed_wait hms, Run.proceed_wait hms']
    exact hpaused

/-- A script that comes to a pause waits for the moment when it is over. -/
theorem script_proceed_wait {ms : Nat} (hms : ms ≠ 0) (n : Nat) (l : List Step) (r : Run) :
    (r.proceed n (.wait ms :: l)).script.hold = .moment (r.clock + delay ms) ∧
      (r.proceed n (.wait ms :: l)).script.steps = .wait ms :: l := by
  cases n with
  | zero => exact ⟨rfl, rfl⟩
  | succ n =>
    rw [Run.proceed_wait hms]
    exact ⟨rfl, rfl⟩

/-- The script goes on when its moment has come. -/
theorem scriptTurn_of_due (hawake : r.turns.scriptAwake = true)
    (hhold : r.script.hold = .moment moment) (hdue : moment ≤ r.clock)
    (hsteps : r.script.steps = s :: t) :
    r.scriptTurn = (({ r with turns := { r.turns with scriptAwake := false } } : Run).record s
      (s.outcome .done) t).proceed (Turns.allowance - 1) t := by
  unfold scriptTurn goOn finishStep
  rw [if_pos hawake]
  dsimp only
  rw [hhold, hsteps]
  exact if_pos hdue

namespace Meets

variable {moment' : Nat} {s' : Step}

/-- Runs that meet are in step. -/
theorem inStep (h : Meets capacity width slots moment moment' r r' u u') : InStep 0 u u' :=
  { h.abreast.toInStep with turns := ⟨h.abreast.turns.queue, h.abreast.turns.resting⟩ }

/-- Their scripts agree. -/
theorem agrees (h : Meets capacity width slots moment moment' r r' u u') :
    u.script.Agrees u'.script := h.abreast.agrees

/-- The same comes of runs whose scripts have waited for the same moment. -/
theorem endsLike (h : Meets capacity width slots moment moment r r' u u')
    (hsteps : r.script.steps = s :: t) (hsteps' : r'.script.steps = s' :: t) : EndsLike u u' := by
  have hclock : u.clock = moment := h.clock.trans (Nat.min_self _)
  have hclock' : u'.clock = moment := h.inStep.clock.trans hclock
  have hgoes := scriptTurn_of_due (h.awake.trans (decide_eq_true hclock.symm))
    (h.script ▸ h.hold) (Nat.le_of_eq hclock.symm) (h.script ▸ hsteps)
  have hgoes' := scriptTurn_of_due (h.awake'.trans (decide_eq_true hclock.symm))
    (h.script' ▸ h.hold') (Nat.le_of_eq hclock'.symm) (h.script' ▸ hsteps')
  have hheard := h.orderly.heardOut_of_moment (h.script ▸ h.hold)
  have hheard' := h.orderly'.heardOut_of_moment (h.script' ▸ h.hold')
  refine EndsLike.of_leads ?_ (leads_scriptTurn hheard) (leads_scriptTurn hheard')
  obtain ⟨rest, hechoes⟩ :=
    (h.abreast.record s s' (s.outcome .done) (s'.outcome .done) t t).proceed_same
      (Turns.allowance - 1) t
  rw [← hgoes, ← hgoes'] at hechoes
  exact hechoes.endsLike h.orderly.scriptTurn h.orderly'.scriptTurn

/-- The same comes of runs whose scripts have waited for the same moment, when one of them pauses
for no time then. -/
theorem endsLike_zero (h : Meets capacity width slots moment moment r r' u u')
    (hsteps : r.script.steps = s :: t) (hsteps' : r'.script.steps = s' :: .wait 0 :: t)
    (hcalm : Undisturbed u) : EndsLike u u' := by
  have hclock : u.clock = moment := h.clock.trans (Nat.min_self _)
  have hclock' : u'.clock = moment := h.inStep.clock.trans hclock
  refine endsLike_of_prospect (d := 0) h.orderly h.orderly' hcalm (h.inStep.undisturbed hcalm) ?_
  rw [prospect_of_due (h.script ▸ h.hold) (Nat.le_of_eq hclock.symm),
    prospect_of_due (h.script' ▸ h.hold') (Nat.le_of_eq hclock'.symm), h.script, h.script', hsteps,
    hsteps', h.inStep.view_eq h.agrees]
  exact (Prospect.play_wait_zero _ _).trans (Prospect.play_later _ _)

/-- The script whose moment has come waits for another one. -/
theorem bides (h : Meets capacity width slots moment moment' r r' u u') (hbefore : moment' < moment)
    {ms : Nat} (hms : ms ≠ 0) (hsteps' : r'.script.steps = s' :: .wait ms :: t) :
    Bides capacity width slots moment (moment' + delay ms) u u'.scriptTurn u u'.scriptTurn ∧
      u'.scriptTurn.script.steps = .wait ms :: t := by
  have hclock : u.clock = moment' := h.clock.trans (by omega)
  have hclock' : u'.clock = moment' := h.inStep.clock.trans hclock
  have hasleep : u.turns.scriptAwake = false := h.awake.trans (decide_eq_false (by omega))
  have ho' := h.orderly'.scriptTurn
  have hgoes' := scriptTurn_of_due (h.awake'.trans (decide_eq_true hclock.symm))
    (h.script' ▸ h.hold') (Nat.le_of_eq hclock'.symm) (h.script' ▸ hsteps')
  rw [show Turns.allowance - 1 = 126 + 1 from rfl, proceed_wait hms] at hgoes'
  have hlater : 0 < delay ms := Nat.pos_of_ne_zero (mt delay_eq_zero.mp hms)
  rw [hgoes'] at ho' ⊢
  refine ⟨⟨⟨{ h.inStep with turns := ?_ }, ⟨?_, h.abreast.script.rests⟩, { h.agrees with }⟩,
    h.orderly, ho', rfl, rfl, .refl u, ⟨h.script ▸ h.hold, by omega⟩, ?_, by omega⟩, rfl⟩
  · exact ⟨h.inStep.turns.queue, h.inStep.turns.resting⟩
  · exact hasleep.symm
  · show Hold.moment (u'.clock + delay ms) = _
    rw [hclock']

/-- The same comes of runs of which one waits for longer, if all timers have fallen due, and none is
for an opening that is awaited. -/
theorem endsLike_of_over (h : Meets capacity width slots moment moment' r r' u u')
    (hdue : moment ≤ u.clock) (hsteps : r.script.steps = s :: t) {later : Nat}
    (hlater : u.clock ≤ later)
    (hstore' : u'.prospect = { u'.view with steps := s' :: t, moment := some later })
    (hover : ∀ t ∈ u.timers, t.deadline ≤ u.clock ∧ ¬ u.Awaits t) : EndsLike u u' := by
  have hcalm : Undisturbed u := fun t ht _ => (hover t ht).2
  have hnone := h.orderly.punctual.view_alarms fun t ht => (hover t ht).1
  rw [h.inStep.view_eq h.agrees] at hstore'
  rcases h.orderly'.settles (h.inStep.undisturbed hcalm) with ⟨hover, -⟩ |
    ⟨q, time, hq, ho, -, hlull, hstays⟩
  · rw [hstore'] at hover
    cases hover
  · rw [hstore', hlull.prospect_eq] at hstays
    obtain ⟨hmute, halarms, hsize, hleft, htime, hreason, hmetrics, hsatellites⟩ :=
      (Prospect.mk.injEq ..).mp hstays
    obtain rfl := Option.some.inj htime
    have hnone' : q.alarms = [] := by
      rw [halarms]
      exact congrArg (List.map (Timer.later 0)) hnone
    obtain ⟨hcomes, howake⟩ := ho.come hlull time hlull.later (Nat.le_refl _)
      fun t ht => absurd (hnone' ▸ ht) List.not_mem_nil
    have htimers : ∀ t, t ∉ (q.comes time).timers := fun t ht => by
      have hmem := mem_timers_comes ht
      rw [hlull.timers, hnone'] at hmem
      cases hmem
    have hview : (q.comes time).view = u.view.later (time - u.clock) := by
      refine (Prospect.mk.injEq ..).mpr ⟨?_, ?_, hsize, rfl, rfl, hreason, hmetrics, hsatellites⟩
      · replace hmute : q.coordinator.mute = u.coordinator.mute.later 0 := hmute
        have hmoved : (q.comes time).coordinator.mute =
            { q.coordinator.mute with clock := time } := rfl
        have htime' : u.coordinator.clock + (time - u.clock) = time := Nat.add_sub_cancel' hlater
        rw [hmoved, hmute]
        refine (Coordinator.mk.injEq ..).mpr ⟨rfl, rfl, rfl, htime'.symm, ?_, rfl⟩
        show u.coordinator.timers.map (Timer.later 0) = u.coordinator.timers.map _
        rw [h.orderly.tidy.timers]
        rfl
      · show (q.comes time).view.alarms = u.view.alarms.map _
        rw [howake.punctual.view_alarms fun t ht => absurd ht (htimers t), hnone]
        rfl
    refine EndsLike.of_leads (endsLike_of_prospect h.orderly howake hcalm
      (fun t ht => absurd ht (htimers t)) (d := time - u.clock) ?_) (.refl u) (hq.trans hcomes)
    have hafter : (q.comes time).prospect = (q.comes time).view.play q.script.steps.tail :=
      prospect_of_due hlull.hold (Nat.le_refl time)
    rw [hafter, hview, hleft, prospect_of_due (h.script ▸ h.hold) hdue, h.script, hsteps]
    exact Prospect.play_later _ _

end Meets

namespace Arrives

/-- The scripts begin to wait. -/
theorem bides {ms ms' : Nat} (h : Arrives 0 (.wait ms :: t) (.wait ms' :: t') o o' n y y')
    (ho : Orderly capacity width slots o) (ho' : Orderly capacity width slots o') (hms : ms ≠ 0)
    (hms' : ms' ≠ 0) :
    Bides capacity width slots (o.clock + delay ms) (o.clock + delay ms') o.scriptTurn o'.scriptTurn
      o.scriptTurn o'.scriptTurn ∧
        o.scriptTurn.script.steps = .wait ms :: t ∧
        o'.scriptTurn.script.steps = .wait ms' :: t' := by
  have hclock : y.clock = o.clock := h.onward.follows.clock
  have hclock' : y'.clock = o.clock := h.abreast.clock.trans hclock
  have hbegins : o.scriptTurn.clock = o.clock := (Follows.scriptTurn o).clock
  have hpos := Nat.pos_of_ne_zero (mt delay_eq_zero.mp hms)
  have hpos' := Nat.pos_of_ne_zero (mt delay_eq_zero.mp hms')
  obtain ⟨hhold, hsteps⟩ := script_proceed_wait hms n t y
  obtain ⟨hhold', hsteps'⟩ := script_proceed_wait hms' n t' y'
  have habreast := h.abreast.proceed_wait hms hms' n t t'
  rw [← h.goes, ← h.goes'] at habreast
  rw [← h.goes, hclock] at hhold
  rw [← h.goes', hclock'] at hhold'
  rw [← h.goes] at hsteps
  rw [← h.goes'] at hsteps'
  exact ⟨⟨habreast, ho.scriptTurn, ho'.scriptTurn, rfl, rfl, .refl _, ⟨hhold, by omega⟩, hhold',
    by omega⟩, hsteps, hsteps'⟩

/-- The same comes of runs whose scripts wait once, or twice for as long in sum. -/
theorem endsLike (h : Arrives 0 (.wait (a + b) :: after) (.wait a :: .wait b :: after) o o' n y y')
    (ho : Orderly capacity width slots o) (ho' : Orderly capacity width slots o')
    (hmiss : o.Misses a) (hmiss' : o.Misses (a + b)) : EndsLike o.scriptTurn o'.scriptTurn := by
  -- a pause of no length is no pause
  rcases Nat.eq_zero_or_pos a with rfl | ha
  · rw [Nat.zero_add] at h
    refine h.endsLike_zero ho ho' fun t ht hdue hawaits => hmiss t ht hawaits ?_
    have hlate := (ho.punctual.timers t ht).1
    have hnow : delay 0 = 0 := rfl
    omega
  obtain ⟨hbides, hsteps, hsteps'⟩ := h.bides ho ho' (by omega) (by omega)
  -- both runs come to the end of the first pause
  obtain ⟨v, v', hv, hv', hmeets⟩ := hbides.meets
  refine EndsLike.of_leads ?_ hv hv'
  have hfades : Fades o v := ho.fades_scriptTurn.trans hmeets.fades
  rcases Nat.eq_zero_or_pos b with rfl | hb
  · have hclock : v.clock = o.clock + delay (a + 0) := hmeets.clock.trans (Nat.min_self _)
    have hboth : Meets capacity width slots (o.clock + delay a) (o.clock + delay a) o.scriptTurn
        o'.scriptTurn v v' := hmeets
    exact hboth.endsLike_zero hsteps hsteps' (hmiss'.undisturbed hmeets.orderly hfades hclock)
  -- no pause lasts longer than the longest delay, so the first may last as long as both
  rcases Nat.lt_or_ge (delay a) (delay (a + b)) with hless | hmore
  · obtain ⟨hbides', hsteps''⟩ := hmeets.bides (by omega) (by omega) hsteps'
    obtain ⟨w, w', hw, hw', hmeets'⟩ := hbides'.meets
    have hheard' := hmeets.orderly'.heardOut_of_moment (hmeets.script' ▸ hmeets.hold')
    refine EndsLike.of_leads ?_ hw ((leads_scriptTurn hheard').trans hw')
    have hleft : v.script.steps = .wait (a + b) :: after := hmeets.script ▸ hsteps
    have hpos := Nat.pos_of_ne_zero (mt delay_eq_zero.mp (Nat.ne_of_gt hb))
    rcases Nat.lt_or_ge longestDelay (a + b) with hlong | hshort
    · have hbefore : delay (a + b) < delay a + delay b := by
        unfold delay at hless ⊢
        omega
      have hclock : w.clock = o.clock + delay (a + b) := hmeets'.clock.trans (by omega)
      have hclock' : w'.clock = w.clock := hmeets'.inStep.clock
      have hstore' : w'.prospect = { w'.view with
          steps := .wait b :: after
          moment := some (o.clock + delay a + delay b) } := by
        rw [prospect_of_later (hmeets'.script' ▸ hmeets'.hold') (by omega), hmeets'.script',
          hsteps'']
      exact hmeets'.endsLike_of_over (Nat.le_of_eq hclock.symm) hleft (by omega) hstore'
        (hmiss'.over hlong ho hmeets'.orderly (hfades.trans hmeets'.fades) hclock)
    · have hsum : o.clock + delay a + delay b = o.clock + delay (a + b) := by
        unfold delay
        omega
      rw [hsum] at hmeets'
      exact hmeets'.endsLike hleft hsteps''
  · have hlong : longestDelay < a + b := by
      unfold delay at hmore
      omega
    have hlongest : delay (a + b) = longestDelay := Nat.min_eq_right (Nat.le_of_lt hlong)
    have hbound : delay a ≤ longestDelay := Nat.min_le_right _ _
    have hclock : v.clock = o.clock + delay (a + b) := hmeets.clock.trans (by omega)
    have hclock' : v'.clock = v.clock := hmeets.inStep.clock
    have hstore' : v'.prospect = { v'.view with
        steps := .wait b :: after
        moment := some (v'.clock + delay b) } := by
      rw [prospect_of_due (hmeets.script' ▸ hmeets.hold') (by omega), hmeets.script', hsteps']
      exact Prospect.play_wait (Nat.ne_of_gt hb) _ _
    exact hmeets.endsLike_of_over (Nat.le_of_eq hclock.symm) hsteps (by omega) hstore'
      (hmiss'.over hlong ho hmeets.orderly hfades hclock)

end Arrives

end Run

/-! ## Well-formed scenarios -/

/-- There is nothing to be demanded of a wait, nor does it make up for anything. -/
theorem Step.wellFormed_wait {past steps : List Step} {ms : Nat} :
    WellFormed past (.wait ms :: steps) ↔ WellFormed past steps := by
  have hmet : ∀ d : Demand, d.Met past (.wait ms) := fun d => by
    cases d with
    | _ => exact nofun
  rw [wellFormed_cons]
  refine ⟨fun h => ?_, fun h => ⟨hmet, h.mono (List.subset_append_left _ _)⟩⟩
  intro earlier s later hsplit d
  have hlater := h.2 earlier s later hsplit d
  cases d with
  | window =>
    intro name hname
    obtain ⟨params, size, hopened⟩ := hlater name hname
    refine ⟨params, size, ?_⟩
    simpa using hopened
  | _ => exact hlater

namespace Scenario

open Step

variable {s s' : Scenario} {settings : Settings}

/-- A run at its end. -/
def ending (settings : Settings) (s : Scenario) : Run :=
  (Run.start settings s none).rounds (Run.bound settings s)

/-- Two scenarios end alike when they are run without interruption. -/
structure EndAlike (settings : Settings) (s s' : Scenario) : Prop where
  /-- The windows with their inboxes are the same, and all that was done, published and counted. -/
  scene : (s'.ending settings).coordinator.scene = (s.ending settings).coordinator.scene
  /-- The reports give the same windows, inboxes and counts, and the same activity if none of the
  listeners has lost any. -/
  reports : ∀ report, s.run settings none = .ok report →
    ∃ report', s'.run settings none = .ok report' ∧ report'.satellites = report.satellites ∧
      report'.metrics = report.metrics ∧
        (Occurrence.lagged (s.log settings) = false → Occurrence.lagged (s'.log settings) = false →
          report'.activities = report.activities)
  /-- If there is no report, there is none for the same reason. -/
  failures : ∀ f, s.run settings none = .error f →
    ∃ f', s'.run settings none = .error f' ∧ f'.reason = f.reason

/-- A scenario on which there is a report has no flaw. -/
theorem flaw?_of_run {report : Report} (h : s.run settings none = .ok report) : s.flaw? = none := by
  cases hrefused : s.flaw? with
  | none => rfl
  | some g =>
    unfold run at h
    rw [hrefused] at h
    cases h

/-- If the same is left of two runs and one gives a report, so does the other. -/
theorem report_of_upshot (hflaw : s'.flaw? = none ↔ s.flaw? = none)
    (hsame : (s'.ending settings).upshot = (s.ending settings).upshot) {report : Report}
    (hreport : s.run settings none = .ok report) :
    ∃ report', s'.run settings none = .ok report' ∧ report'.satellites = report.satellites ∧
      report'.metrics = report.metrics ∧
        (Occurrence.lagged (s.log settings) = false → Occurrence.lagged (s'.log settings) = false →
          report'.activities = report.activities) := by
  obtain ⟨hscene, hreason, hmetrics, hsatellites⟩ := (Upshot.mk.injEq ..).mp hsame
  obtain ⟨hfault, hparts⟩ := report_of_run hreport rfl
  have hfault' : (s'.ending settings).script.fault = none := by
    have hnone : (s.ending settings).script.fault = none := hfault
    rw [hnone] at hreason
    exact Option.map_eq_none_iff.mp hreason
  obtain ⟨report', hreport', -⟩ := run_of_completed (hflaw.mpr (flaw?_of_run hreport)) hfault'
  obtain ⟨-, hparts'⟩ := report_of_run hreport' rfl
  refine ⟨report', hreport', ?_, ?_, fun hheard hheard' => ?_⟩
  · rw [hparts, hparts']
    exact hsatellites
  · rw [hparts, hparts']
    exact congrArg₂ Option.getD hmetrics (congrArg (fun c => c.fleet.metrics) hscene)
  · have hlog := (account_run settings s).logged
    have hlog' := (account_run settings s').logged
    have hread := hlog.collected_all (Run.heardOut_run settings s) hheard
    have hread' := hlog'.collected_all (Run.heardOut_run settings s') hheard'
    rw [← hlog.scene] at hread
    rw [← hlog'.scene] at hread'
    rw [hparts, hparts']
    exact hread'.trans ((congrArg (fun c => c.journal.activities) hscene).trans hread.symm)

/-- If the same is left of two runs and one fails, so does the other, for the same reason. -/
theorem failure_of_upshot (hflaw : s'.flaw? = none ↔ s.flaw? = none)
    (hsame : (s'.ending settings).upshot = (s.ending settings).upshot) {f : RunFault}
    (hf : s.run settings none = .error f) :
    ∃ f', s'.run settings none = .error f' ∧ f'.reason = f.reason := by
  have hreason : (s'.ending settings).script.fault.map RunFault.reason =
      (s.ending settings).script.fault.map RunFault.reason := congrArg Upshot.reason hsame
  cases hrefused : s.flaw? with
  | some g =>
    obtain ⟨g', hrefused'⟩ := Option.ne_none_iff_exists'.mp
      (mt hflaw.mp (by rw [hrefused]; exact nofun))
    unfold run at hf ⊢
    rw [hrefused] at hf
    rw [hrefused']
    obtain rfl := Except.error.inj hf
    exact ⟨_, rfl, rfl⟩
  | none =>
    cases hfault : (s.ending settings).script.fault with
    | none =>
      obtain ⟨report, hreport, -⟩ := run_of_completed hrefused hfault
      rw [hf] at hreport
      cases hreport
    | some g =>
      obtain rfl := Except.error.inj (hf.symm.trans (run_of_fault hrefused hfault))
      rw [hfault] at hreason
      obtain ⟨f', hfault', hsame'⟩ := Option.map_eq_some_iff.mp hreason
      exact ⟨f', run_of_fault (hflaw.mpr hrefused) hfault', hsame'⟩

/-- Scenarios end alike if both are accepted, or neither, and the same is left of their runs. -/
theorem endAlike_of_endsLike (hflaw : s'.flaw? = none ↔ s.flaw? = none)
    (hends : Run.EndsLike (Run.start settings s none) (Run.start settings s' none)) :
    EndAlike settings s s' := by
  obtain ⟨x, hx, hx'⟩ := hends
  have hsame : (s'.ending settings).upshot = (s.ending settings).upshot :=
    (hx'.upshot_eq (Run.heardOut_run settings s')).trans
      (hx.upshot_eq (Run.heardOut_run settings s)).symm
  exact ⟨congrArg Upshot.scene hsame, fun _ => report_of_upshot hflaw hsame,
    fun _ => failure_of_upshot hflaw hsame⟩

/-- A pause among the steps does not matter to whether there is a flaw. -/
theorem flaw?_wait (before : List Step) (ms : Nat) {after : List Step}
    (h : s.steps = before ++ .wait ms :: after) :
    s.flaw? = none ↔ WellFormed [] before ∧ WellFormed before after := by
  have hvalid : s.flaw? = none ↔ s.validate = .ok () :=
    ⟨fun hnone => by unfold validate; rw [hnone], flaw?_of_validate⟩
  rw [hvalid, validate_eq_ok_iff, h, wellFormed_append, List.nil_append, wellFormed_wait]
  simp

/-- Waiting is additive: two scenarios end alike if one waits once where the other waits twice, for
as long in sum. At the moment when the script begins to wait, no opening that is awaited may have to
be given up just when the first wait or the whole is over; any number of others may fall due in
either of the waits. -/
theorem wait_add (settings : Settings) (s : Scenario) (before after : List Step) (a b : Nat)
    (hmisses : ∀ x r,
      (occasions settings { s with steps := before ++ .wait (a + b) :: after })[before.length]? =
        some (x, r) → r.Misses a ∧ r.Misses (a + b)) :
    EndAlike settings { s with steps := before ++ .wait (a + b) :: after }
      { s with steps := before ++ .wait a :: .wait b :: after } := by
  refine endAlike_of_endsLike ?_ ?_
  · rw [flaw?_wait before a rfl, flaw?_wait before (a + b) rfl, wellFormed_wait]
  · have hechoes : Run.Echoes 0 (before ++ .wait (a + b) :: after)
        (before ++ .wait a :: .wait b :: after)
        (Run.start settings { s with steps := before ++ .wait (a + b) :: after } none)
        (Run.start settings { s with steps := before ++ .wait a :: .wait b :: after } none) :=
      ⟨⟨⟨rfl, rfl, ⟨rfl, rfl⟩, rfl, rfl, rfl, rfl⟩, ⟨rfl, Iff.rfl⟩, ⟨rfl, rfl, rfl, rfl⟩⟩, rfl, rfl,
        rfl⟩
    rcases (Run.Nears.fresh before hechoes rfl rfl).arrives (Run.orderly_start settings _)
      (Run.orderly_start settings { s with steps := before ++ .wait a :: .wait b :: after })
      (Run.heardOut_run settings _) with hends |
        ⟨o, o', m, y, y', hr, hr', ho, ho', hheard, harrives, hseen⟩
    · exact hends
    · obtain ⟨hmiss, hmiss'⟩ := hmisses _ _ hseen
      have hheard' : o'.heardOut = false := by
        obtain ⟨_, _, hy⟩ := harrives.onward
        obtain ⟨_, _, hy'⟩ := harrives.onward'
        have hsame := harrives.abreast.heardOut
        rw [hy, hy'] at hsame
        exact hsame.trans hheard
      exact (harrives.endsLike ho ho' hmiss hmiss').of_leads
        (hr.trans (Run.leads_scriptTurn hheard)) (hr'.trans (Run.leads_scriptTurn hheard'))

/-- What goes before a wait during which three timers fall due: the first and the last are for
openings that nobody answers, the one between for an opening that was answered. -/
def restlessSteps : List Step :=
  [.openSatellite "note" none none, .wait 500, .openSatellite "chart" none none, .register "chart",
    .flush "chart", .wait 500, .openSatellite "map" none none]

/-- The wait is split just when the timer of the answered opening falls due. -/
theorem wait_add_restlessSteps :
    let settings : Settings := { coordinator := { openTimeoutSecs := some 5 } }
    let session (waits : List Step) : Scenario :=
      { name := "restless", steps := restlessSteps ++ waits ++ [.register "map"] }
    ((occasions settings (session [.wait 6000]))[7]?.map fun o =>
        (o.2.clock, o.2.timers.map fun t => (t.deadline, decide (o.2.Awaits t)))) =
      some (1000, [(5000, true), (5500, false), (6000, true)]) ∧
    EndAlike settings (session [.wait 6000]) (session [.wait 4500, .wait 1500]) ∧
    ∃ report, (session [.wait 6000]).run settings none = .ok report ∧
      report.metrics.tally.openTimeouts = 2 := by
  intro settings session
  have hclear : (occasions settings (session [.wait 6000]))[7]?.all (fun o =>
      decide (o.2.Misses 4500 ∧ o.2.Misses 6000)) = true := by decide +kernel
  have hcounts : ((session [.wait 6000]).run settings none).map (fun report =>
      report.metrics.tally.openTimeouts) = .ok 2 := by decide +kernel
  refine ⟨by decide +kernel,
    wait_add settings (session []) restlessSteps [.register "map"] 4500 1500 fun x r hr => ?_, ?_⟩
  · have hr' : (occasions settings (session [.wait 6000]))[7]? = some (x, r) := hr
    rw [hr'] at hclear
    exact of_decide_eq_true hclear
  · cases hrun : (session [.wait 6000]).run settings none with
    | error f =>
      rw [hrun] at hcounts
      cases hcounts
    | ok report =>
      rw [hrun] at hcounts
      exact ⟨report, rfl, Except.ok.inj hcounts⟩

end Scenario

end SatelliteWindows
