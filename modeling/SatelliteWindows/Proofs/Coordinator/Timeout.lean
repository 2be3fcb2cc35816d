import SatelliteWindows.Proofs.Coordinator.GivenUp
import SatelliteWindows.Simulation

/-!
# The open timeout

The request to open a satellite sets a timer. If nothing settles the opening before that timer goes
off, the opening is given up then, exactly once, and what had been held back for the satellite is
dropped and counted; in every other case the opening is never given up. A satellite that was forced
open again is in every other case: no timer is set for it.
-/

namespace SatelliteWindows.Coordinator

variable {σ : Type} [Desktop σ]

/-! ## Steps and openings that stand -/

namespace Recorded

variable {s t : Scene σ} {xs front back : List (Step σ)} {x : Step σ} {name : String} {g : Nat}

/-- Openings that stand no longer are not given up. -/
theorem not_expired (h : Recorded s xs t) (hpast : s.handshake.Past name g) :
    ∀ y ∈ xs, ∀ j ≤ g, y.happening ≠ .expired name j := by
  induction h with
  | nil => exact fun y hy => by cases hy
  | @cons x _ _ _ ih =>
    have hturn := x.turn
    obtain ⟨hafter, hx⟩ := hturn.past hpast
    intro y hy
    rcases List.mem_cons.mp hy with rfl | hy
    · exact hx
    · exact ih hafter y hy

/-- Once an opening is settled or given up, none that there was before is given up. -/
theorem not_expired_of_settles (h : Recorded s (front ++ x :: back) t)
    (hg : g ≤ s.fleet.generation)
    (hx : x.happening.settles name = true ∨ ∃ j, x.happening = .expired name j) :
    ∀ y ∈ back, ∀ j ≤ g, y.happening ≠ .expired name j := by
  obtain ⟨hfront, hback⟩ := h.split
  have hknown := Nat.le_trans hg (generation_of_recorded hfront)
  exact hback.not_expired (x.turn.past_of_settles hknown hx)

/-- Before an opening is given up, nothing settles it, and no other opening of the satellite is
given up. -/
theorem unsettled_of_expired (h : Recorded s (front ++ x :: back) t)
    (hg : g ≤ s.fleet.generation) (hx : x.happening = .expired name g) :
    ∀ y ∈ front, y.happening.settles name = false ∧ ∀ j, y.happening ≠ .expired name j := by
  intro y hy
  obtain ⟨first, rest, rfl⟩ := List.append_of_mem hy
  have hsplit : Recorded s (first ++ y :: (rest ++ x :: back)) t := by
    rw [List.append_assoc, List.cons_append] at h
    exact h
  have hnot : ¬ (y.happening.settles name = true ∨ ∃ j, y.happening = .expired name j) :=
    fun hy => hsplit.not_expired_of_settles hg hy x (by simp) g (Nat.le_refl _) hx
  obtain ⟨hsettles, hexpired⟩ := not_or.mp hnot
  exact ⟨by simpa using hsettles, fun j hj => hexpired ⟨j, hj⟩⟩

/-- An opening stands until a step settles it or gives it up. -/
theorem standing (h : Recorded s xs t) (hstanding : s.handshake.Standing name g)
    (hxs : ∀ y ∈ xs, y.happening.settles name = false ∧ y.happening ≠ .expired name g) :
    t.handshake.Standing name g := by
  induction h with
  | nil => exact hstanding
  | @cons x _ _ _ ih =>
    have hturn := x.turn
    obtain ⟨hsettles, hexpired⟩ := hxs x List.mem_cons_self
    exact ih (hturn.standing hstanding hsettles hexpired)
      fun y hy => hxs y (List.mem_cons_of_mem x hy)

end Recorded

/-- A step gives up an opening that stands if it is to do so. -/
theorem expired_of_standing {x : Step σ} {name : String} {g : Nat}
    (hmove : x.move = .request (.expire name g)) (h : x.before.handshake.Standing name g) :
    x.happening = .expired name g := by
  have hexpire : (x.before.expire name g).1 = true := (Scene.expire_fst name g x.before).mpr h
  rw [happening_expire hmove, if_pos hexpire]

/-! ## Timers and openings that stand -/

/-- Nothing settles a satellite before some moment. -/
def Unsettled (name : String) (moment : Nat) (steps : List (Step σ)) : Prop :=
  ∀ y ∈ steps, y.moment < moment → y.happening.settles name = false

variable {span : Nat} (hpos : 0 < span) (acts : List (Act σ)) {c : Coordinator σ}
  (h : Timed span c)

include hpos h

/-- An opening that there was before is given up by the timer that was set for it. -/
theorem Timed.timer_of_expired {name : String} {g : Nat} (hg : g ≤ c.scene.fleet.generation)
    {y : Step σ} (hy : y ∈ c.steps acts) (hexpired : y.happening = .expired name g) :
    ∃ t ∈ c.timers, t.name = name ∧ t.generation = g ∧ y.moment = t.deadline := by
  rcases h.of_expired hpos acts hy hexpired with htimer | ⟨z, hz, -, hopened, -⟩
  · exact htimer
  · have hnew := (recorded_steps acts c).openedAs_pairwise.2 g
      (List.mem_filterMap.mpr ⟨z, hz, by rw [hopened]; rfl⟩)
    omega

/-- An opening that stands is given up when its timer goes off, if nothing settles it before. -/
theorem Timed.exists_expired (hrunning : c.running = true) {t : Timer} (ht : t ∈ c.timers)
    (hstanding : c.scene.handshake.Standing t.name t.generation)
    (hdue : t.deadline ≤ (c.run acts).clock)
    (hunsettled : Unsettled t.name t.deadline (c.steps acts)) :
    ∃ y ∈ c.steps acts, y.happening = .expired t.name t.generation := by
  rcases h.exists_ring hpos acts hrunning ht hdue with ⟨y, hy, hbefore, hclosed⟩ |
    ⟨front, x, back, hsplit, -, hmove, hfront⟩
  · have hsettles := hunsettled y hy hbefore
    rw [hclosed] at hsettles
    cases hsettles
  · by_cases hearly : ∃ y ∈ front, y.happening = .expired t.name t.generation
    · obtain ⟨y, hy, hexpired⟩ := hearly
      refine ⟨y, ?_, hexpired⟩
      rw [hsplit]
      exact List.mem_append_left _ hy
    · have hrecorded := recorded_steps acts c
      rw [hsplit] at hrecorded
      have hbefore : x.before.handshake.Standing t.name t.generation := by
        refine hrecorded.split.1.standing hstanding fun y hy => ⟨?_, fun e => hearly ⟨y, hy, e⟩⟩
        rcases hfront y hy with hlt | ⟨n, k, hmove⟩
        · exact hunsettled y (by rw [hsplit]; exact List.mem_append_left _ hy) hlt
        · rcases happening_of_expire hmove with hexpired | hother
          · rw [hexpired]
            rfl
          · rw [hother]
            rfl
      refine ⟨x, ?_, expired_of_standing hmove hbefore⟩
      rw [hsplit]
      exact List.mem_append_right _ List.mem_cons_self

/-- An opening that is given up when its timer goes off was not settled before. -/
theorem Timed.unsettled_of_expired {t : Timer} (hg : t.generation ≤ c.scene.fleet.generation)
    {front back : List (Step σ)} {x : Step σ} (hsplit : c.steps acts = front ++ x :: back)
    (hx : x.happening = .expired t.name t.generation) (hmoment : x.moment = t.deadline) :
    t.deadline ≤ (c.run acts).clock ∧ Unsettled t.name t.deadline (c.steps acts) := by
  have hrecorded := recorded_steps acts c
  have hmoments := h.moments_pairwise hpos acts
  have hmem : x ∈ c.steps acts := by
    rw [hsplit]
    exact List.mem_append_right _ List.mem_cons_self
  have hclock := ((h.le_moment_steps hpos acts).2 x hmem).2
  rw [hsplit] at hrecorded hmoments
  refine ⟨by omega, fun y hy hlt => ?_⟩
  rw [hsplit] at hy
  rcases List.mem_append.mp hy with hfront | hrest
  · exact (hrecorded.unsettled_of_expired hg hx y hfront).1
  · rcases List.mem_cons.mp hrest with rfl | hback
    · omega
    · have hle := (List.pairwise_cons.mp (List.pairwise_append.mp hmoments).2.1).1 y hback
      omega

/-- As long as openings are waited for, an opening that nothing settles is the only one of its
satellite that is given up. -/
theorem Timed.expired_once {name : String} {g : Nat} (hg : c.scene.fleet.generation = g)
    {front back : List (Step σ)} {x : Step σ} (hsplit : c.steps acts = front ++ x :: back)
    (hx : x.happening = .expired name g)
    (hunsettled : Unsettled name (c.clock + span) (c.steps acts)) :
    ∀ y ∈ front ++ back, y.moment ≤ c.clock + span → ∀ j, y.happening ≠ .expired name j := by
  have hrecorded := recorded_steps acts c
  rw [hsplit] at hrecorded
  intro y hy hmoment j hexpired
  rcases List.mem_append.mp hy with hfront | hback
  · exact (hrecorded.unsettled_of_expired (Nat.le_of_eq hg.symm) hx y hfront).2 j hexpired
  · have hlate : g < j := by
      by_contra hle
      exact hrecorded.not_expired_of_settles (Nat.le_of_eq hg.symm) (.inr ⟨g, hx⟩) y hback j
        (by omega) hexpired
    have hmem : y ∈ c.steps acts := by
      rw [hsplit]
      exact List.mem_append_right _ (List.mem_cons_of_mem x hback)
    rcases h.of_expired hpos acts hmem hexpired with ⟨t, ht, -, rfl, -⟩ | ⟨z, hz, -, hopened, hago⟩
    · have hknown := h.known t ht
      omega
    · have hsettles := hunsettled z hz (by omega)
      rw [hopened] at hsettles
      simp [Happening.settles] at hsettles

/-! ## Right after an opening -/

/-- A coordinator that has just made an opening. A timer is set for it if it was asked for. -/
structure JustOpened (span : Nat) (name : String) (g : Nat) (asked : Bool) (c : Coordinator σ) :
    Prop extends Timed span c where
  /-- The coordinator is at work. -/
  running : c.running = true
  /-- The opening stands. -/
  standing : c.scene.handshake.Standing name g
  /-- There was none after it. -/
  latest : c.scene.fleet.generation = g
  /-- Its timer is the only one of its number. -/
  timer : ∀ t, (t ∈ c.timers ∧ t.generation = g) ↔
    (asked = true ∧ t = ⟨c.clock + span, name, g⟩)

omit hpos acts

/-- A request that is carried out and means an opening sets a timer for it if it asks for it. -/
theorem Timed.timers_of_opened (hrunning : c.running = true) {r : Request} {name : String} {g : Nat}
    (hopened : Step.happening ⟨c.clock, c.scene, .request r⟩ = .opened name g) :
    (c.serve r).2.timers = c.timers ++
      if Step.asksToOpen ⟨c.clock, c.scene, .request r⟩ then [⟨c.clock + span, name, g⟩]
      else [] := by
  rw [timers_serve hrunning h.timeout r]
  unfold Step.timer?
  rw [hopened]
  cases Step.asksToOpen ⟨c.clock, c.scene, .request r⟩ with
  | false => exact (List.append_nil _).symm
  | true => exact insertTimer_of_le (t := ⟨c.clock + span, name, g⟩) h.within

/-- A request that is carried out and means an opening leaves a coordinator that has just made
it. -/
theorem Timed.justOpened_act (hpos : 0 < span) (hrunning : c.running = true) {r : Request}
    (allowed : r.givesUp = false) {o : Step σ} (ho : o = ⟨c.clock, c.scene, .request r⟩)
    {name : String} {g : Nat} (hopened : o.happening = .opened name g) :
    (c.act (.ask r allowed)).clock = o.moment ∧
      JustOpened span name g o.asksToOpen (c.act (.ask r allowed)) := by
  obtain ⟨hscene, hclock, hrunning', -⟩ := serve_of_running hrunning r
  have hafter : (c.serve r).2.scene = o.after := by
    rw [hscene, ho]
    rfl
  have hturn := o.turn
  rw [hopened] at hturn
  obtain ⟨hg, hlatest⟩ := hturn.generation_opened
  subst ho
  refine ⟨hclock, h.act hpos (.ask r allowed), hrunning', ?_, ?_, fun t => ?_⟩
  · show (c.serve r).2.scene.handshake.Standing name g
    rw [hafter]
    exact hturn.standing_of_opened
  · show (c.serve r).2.scene.fleet.generation = g
    rw [hafter]
    exact hlatest
  · have hold : ∀ u ∈ c.timers, u.generation ≠ g := by
      intro u hu e
      have hknown := h.known u hu
      have hnew : g = c.scene.fleet.generation + 1 := hg
      omega
    show (t ∈ (c.serve r).2.timers ∧ t.generation = g) ↔
      (_ ∧ t = ⟨(c.serve r).2.clock + span, name, g⟩)
    rw [h.timers_of_opened hrunning hopened, hclock]
    constructor
    · rintro ⟨ht, e⟩
      rcases List.mem_append.mp ht with ht | ht
      · exact absurd e (hold t ht)
      · split at ht
        · next hasks => exact ⟨hasks, List.mem_singleton.mp ht⟩
        · cases ht
    · rintro ⟨hasks, rfl⟩
      rw [if_pos hasks]
      exact ⟨List.mem_append_right _ (List.mem_singleton.mpr rfl), rfl⟩

omit h

namespace JustOpened

variable {name : String} {g : Nat} {asked : Bool} {c : Coordinator σ}

/-- An opening is given up only if it was asked for and nothing settles it for as long as openings
are waited for, and then only when that time is over. -/
theorem unsettled_of_expired (h : JustOpened span name g asked c) (hpos : 0 < span)
    (acts : List (Act σ)) {x : Step σ} (hx : x ∈ c.steps acts)
    (hexpired : x.happening = .expired name g) :
    asked = true ∧ x.moment = c.clock + span ∧ c.clock + span ≤ (c.run acts).clock ∧
      Unsettled name (c.clock + span) (c.steps acts) := by
  obtain ⟨t, ht, -, hg, hmoment⟩ :=
    h.toTimed.timer_of_expired hpos acts (Nat.le_of_eq h.latest.symm) hx hexpired
  obtain ⟨hasked, rfl⟩ := (h.timer t).mp ⟨ht, hg⟩
  obtain ⟨front, back, hsplit⟩ := List.append_of_mem hx
  obtain ⟨hclock, hunsettled⟩ := h.toTimed.unsettled_of_expired hpos acts
    (t := ⟨c.clock + span, name, g⟩) (Nat.le_of_eq h.latest.symm) hsplit hexpired hmoment
  exact ⟨hasked, hmoment, hclock, hunsettled⟩

/-- An opening that was asked for is given up if nothing settles it for as long as openings are
waited for, and until then no other of its satellite is. -/
theorem exists_expired (h : JustOpened span name g true c) (hpos : 0 < span)
    (acts : List (Act σ)) (hdue : c.clock + span ≤ (c.run acts).clock)
    (hunsettled : Unsettled name (c.clock + span) (c.steps acts)) :
    ∃ front x back, c.steps acts = front ++ x :: back ∧ x.happening = .expired name g ∧
      x.moment = c.clock + span ∧
      ∀ y ∈ front ++ back, y.moment ≤ c.clock + span → ∀ j, y.happening ≠ .expired name j := by
  have ht := ((h.timer ⟨c.clock + span, name, g⟩).mpr ⟨rfl, rfl⟩).1
  obtain ⟨x, hx, hexpired⟩ :=
    h.toTimed.exists_expired hpos acts h.running ht h.standing hdue hunsettled
  have hmoment := (h.unsettled_of_expired hpos acts hx hexpired).2.1
  obtain ⟨front, back, hsplit⟩ := List.append_of_mem hx
  exact ⟨front, x, back, hsplit, hexpired, hmoment,
    h.toTimed.expired_once hpos acts h.latest hsplit hexpired hunsettled⟩

end JustOpened

/-! ## What is reported -/

/-- A step reports an opening exactly if it gives it up. -/
theorem timeouts_cases {a : Act σ} {c : Coordinator σ} {y : Step σ} (hy : y ∈ c.stepsOf a) :
    (∃ name g, y.move = .request (.expire name g) ∧ y.happening = .expired name g ∧
      y.timeouts = [(name, y.before.fleet.backlog.count name)]) ∨
    ((∀ name g, y.happening ≠ .expired name g) ∧ y.timeouts = []) := by
  cases a with
  | ask r allowed =>
    obtain ⟨-, rfl⟩ := mem_served hy
    exact .inr ⟨happening_ne_expired allowed c.clock c.scene,
      Step.timeouts_eq_nil (Scene.patient_perform allowed c.scene)⟩
  | wait ms =>
    obtain ⟨t, -, -, hmove⟩ := mem_rings hy
    have htimeouts : y.timeouts = if (y.before.expire t.name t.generation).1 then
        [(t.name, y.before.fleet.backlog.count t.name)] else [] := by
      rw [← Step.timeouts_expire y.moment y.before, ← hmove]
    cases hexpire : (y.before.expire t.name t.generation).1 with
    | true =>
      rw [hexpire] at htimeouts
      exact .inl ⟨t.name, t.generation, hmove,
        expired_of_standing hmove ((Scene.expire_fst t.name t.generation y.before).mp hexpire),
        htimeouts⟩
    | false =>
      rw [hexpire] at htimeouts
      refine .inr ⟨fun name g hexpired => ?_, htimeouts⟩
      rw [happening_expire hmove, hexpire] at hexpired
      cases hexpired
  | shutdown =>
    obtain ⟨-, rfl⟩ := mem_served hy
    exact .inr ⟨happening_ne_expired (r := .mainWindowClosed) rfl c.clock c.scene,
      Step.timeouts_eq_nil (Scene.patient_perform (r := .mainWindowClosed) rfl c.scene)⟩
  | shift change =>
    rw [List.mem_singleton.mp hy]
    refine .inr ⟨fun name g h => ?_, ?_⟩
    · cases h
    · show Journal.timeouts (c.scene.journal.drop c.scene.journal.length) = []
      rw [List.drop_length]
      rfl

/-- Every step of a run is one of an act. -/
theorem exists_act_of_mem_steps {acts : List (Act σ)} {c : Coordinator σ} {y : Step σ}
    (hy : y ∈ c.steps acts) : ∃ a d, y ∈ stepsOf a d := by
  induction acts generalizing c with
  | nil => cases hy
  | cons a rest ih =>
    rcases List.mem_append.mp hy with hfirst | hrest
    · exact ⟨a, c, hfirst⟩
    · exact ih hrest

/-- The queues follow what steps mean. -/
theorem Recorded.follows {s t : Scene σ} {xs : List (Step σ)} (h : Recorded s xs t)
    (hempty : s.fleet.backlog = Backlog.empty) (name : String) :
    Happening.Follows name (xs.map Step.happening) (t.fleet.backlog.queue? name) := by
  have hcourse := Course.of_run (xs.map Step.move) s
  rw [h.run_eq, h.history_eq] at hcourse
  exact hcourse.follows hempty name

/-- A step gives up an opening of a satellite at some moment. It comes after some steps, and reports
how many events were dispatched since events are held back for the satellite; it stops that, and
counts itself. None of the other steps until then reports the satellite. -/
structure GivesUp (name : String) (g moment : Nat) (earlier : List (Step σ)) (x : Step σ)
    (others : List (Step σ)) : Prop where
  /-- The opening is given up. -/
  happening : x.happening = .expired name g
  /-- At that moment. -/
  moment_eq : x.moment = moment
  /-- The events that are dropped are reported. -/
  reported : ∃ q, Happening.Since name (earlier.map Step.happening) q ∧
    x.timeouts = [(name, q.length)]
  /-- Nothing is held back any more. -/
  released : x.after.fleet.isHolding name = false
  /-- It is counted. -/
  counted : x.after.fleet.tally.openTimeouts = x.before.fleet.tally.openTimeouts + 1
  /-- It is the only report. -/
  once : ∀ y ∈ others, y.moment ≤ moment → ∀ n, (name, n) ∉ y.timeouts

/-- A step that gives up an opening reports what is held back, stops that, and counts itself. -/
theorem fields_of_expired {a : Act σ} {d : Coordinator σ} {x : Step σ} (hx : x ∈ stepsOf a d)
    {name : String} {g : Nat} (hexpired : x.happening = .expired name g) :
    x.timeouts = [(name, x.before.fleet.backlog.count name)] ∧
      x.after.fleet.isHolding name = false ∧
      x.after.fleet.tally.openTimeouts = x.before.fleet.tally.openTimeouts + 1 := by
  rcases timeouts_cases hx with ⟨n, j, hmove, hhappening, htimeouts⟩ | ⟨hnot, -⟩
  · rw [hexpired] at hhappening
    cases hhappening
    have hturn := x.turn
    rw [hexpired] at hturn
    have hafter : x.after = (x.before.expire name g).2 := by
      unfold Step.after
      rw [hmove]
      rfl
    obtain ⟨-, -, htally⟩ := Scene.expire_of_awaited
      ((Scene.expire_fst name g x.before).mpr hturn.standing_of_expired)
    refine ⟨htimeouts, ?_, ?_⟩
    · have hholding := hturn.isHolding_eq name
      have hstops : Happening.stops name (.expired name g) = true := beq_self_eq_true name
      rw [hstops] at hholding
      exact hholding
    · rw [hafter, htally]
  · exact absurd hexpired (hnot name g)

/-- A step that gives up no opening of a satellite does not report the satellite. -/
theorem not_mem_timeouts {a : Act σ} {d : Coordinator σ} {y : Step σ} (hy : y ∈ stepsOf a d)
    {name : String} (hnot : ∀ g, y.happening ≠ .expired name g) (n : Nat) :
    (name, n) ∉ y.timeouts := by
  intro hreport
  rcases timeouts_cases hy with ⟨other, g, -, hhappening, htimeouts⟩ | ⟨-, hnone⟩
  · rw [htimeouts] at hreport
    have hname : (name, n) = (other, y.before.fleet.backlog.count other) :=
      List.mem_singleton.mp hreport
    cases hname
    exact hnot g hhappening
  · rw [hnone] at hreport
    cases hreport

/-- What a step that gives up an opening does, if no other of the satellite is given up until
then. -/
theorem givesUp_of_expired {acts : List (Act σ)} {c : Coordinator σ} {name : String} {g : Nat}
    {front back : List (Step σ)} {x : Step σ} {s : Scene σ} {earlier : List (Step σ)}
    (hempty : s.fleet.backlog = Backlog.empty) (hearlier : Recorded s earlier x.before)
    (hsplit : c.steps acts = front ++ x :: back) (hexpired : x.happening = .expired name g)
    (honce : ∀ y ∈ front ++ back, y.moment ≤ x.moment → ∀ j, y.happening ≠ .expired name j) :
    GivesUp name g x.moment earlier x (front ++ back) := by
  have hmem : ∀ y ∈ front ++ x :: back, ∃ a d, y ∈ stepsOf (σ := σ) a d := by
    intro y hy
    rw [← hsplit] at hy
    exact exists_act_of_mem_steps hy
  obtain ⟨a, d, hx⟩ := hmem x (List.mem_append_right _ List.mem_cons_self)
  obtain ⟨htimeouts, hreleased, hcounted⟩ := fields_of_expired hx hexpired
  have hturn := x.turn
  rw [hexpired] at hturn
  obtain ⟨q, hq⟩ := Option.isSome_iff_exists.mp hturn.standing_of_expired.2
  have hqueue : x.before.fleet.backlog.queue? name = some q := hq
  have hcount : x.before.fleet.backlog.count name = q.length := by
    rw [Backlog.count, Backlog.held, hqueue]
    rfl
  refine ⟨hexpired, rfl, ⟨q, ((hearlier.follows hempty name).2 q).mp hqueue, ?_⟩, hreleased,
    hcounted, fun y hy hmoment => ?_⟩
  · rw [htimeouts, hcount]
  · have hother : y ∈ front ++ x :: back := by
      rcases List.mem_append.mp hy with hfront | hback
      · exact List.mem_append_left _ hfront
      · exact List.mem_append_right _ (List.mem_cons_of_mem x hback)
    obtain ⟨b, e, hyb⟩ := hmem y hother
    exact not_mem_timeouts hyb (honce y hy hmoment)

/-! ## Openings that are waited for in vain -/

/-- An opening is overdue if a request to open asked for it and nothing settles it for as long as
openings are waited for. -/
def Overdue (span clock : Nat) (name : String) (o : Step σ) (later : List (Step σ)) : Prop :=
  o.asksToOpen = true ∧ o.moment + span ≤ clock ∧ Unsettled name (o.moment + span) later

/-- On every run of a coordinator that gives up openings after some span of time, an opening that is
overdue is given up when that time is over, and one that is not is never given up. Nothing else is
reported as given up, and openings are given up in the order in which they were made. -/
theorem overdue_openings_given_up (settings : CoordinatorSettings) (platform : Platform)
    (session : Payload) (world : σ) {span : Nat}
    (hspan : (start settings platform session world).timeout = some span) (acts : List (Act σ)) :
    let c := start settings platform session world
    (∀ earlier o later name g, c.steps acts = earlier ++ o :: later →
      o.happening = .opened name g →
      (Overdue span (c.run acts).clock name o later →
        ∃ front x back, later = front ++ x :: back ∧
          GivesUp name g (o.moment + span) (earlier ++ o :: front) x (front ++ back)) ∧
      (¬ Overdue span (c.run acts).clock name o later →
        ∀ x ∈ later, x.happening ≠ .expired name g)) ∧
    (∀ x ∈ c.steps acts,
      (∃ name g n, x.happening = .expired name g ∧ x.timeouts = [(name, n)] ∧
        ∃ o ∈ c.steps acts, o.asksToOpen = true ∧ o.happening = .opened name g ∧
          o.moment + span = x.moment) ∨
      (∀ name g, x.happening ≠ .expired name g) ∧ x.timeouts = []) ∧
    ((c.steps acts).filterMap fun y => y.happening.openedAs?).Pairwise (· < ·) ∧
    ((c.steps acts).filterMap fun y => y.happening.givenUp?).Pairwise (· < ·) := by
  intro c
  have hpos := span_pos hspan
  have htimed : Timed span c := timed_start hspan
  refine ⟨fun earlier o later name g hsplit hopened => ?_, fun x hx => ?_,
    (recorded_steps acts c).openedAs_pairwise.1, htimed.givenUp_pairwise hpos acts⟩
  · obtain ⟨first, r, allowed, rest, rfl, rfl, hrunning, ho, rfl⟩ :=
      exists_ask_of_opened hsplit hopened
    obtain ⟨hclock, hjust⟩ :=
      (htimed.run hpos first).justOpened_act hpos hrunning allowed ho hopened
    have hrun : c.run (first ++ .ask r allowed :: rest) =
        ((c.run first).act (.ask r allowed)).run rest := run_append first _ c
    unfold Overdue
    rw [hrun, ← hclock]
    constructor
    -- only an opening that was asked for sets a timer, which is the one that goes off
    · rintro ⟨hasks, hdue, hunsettled⟩
      rw [hasks] at hjust
      obtain ⟨front, x, back, hrest, hexpired, hmoment, honce⟩ :=
        hjust.exists_expired hpos rest hdue hunsettled
      refine ⟨front, x, back, hrest, ?_⟩
      have hrecorded := recorded_steps (first ++ .ask r allowed :: rest) c
      rw [hsplit, hrest, ← List.cons_append, ← List.append_assoc] at hrecorded
      rw [← hmoment] at honce ⊢
      exact givesUp_of_expired rfl hrecorded.split.1 hrest hexpired honce
    · intro hnot x hx hexpired
      obtain ⟨hasks, -, hdue, hunsettled⟩ := hjust.unsettled_of_expired hpos rest hx hexpired
      exact hnot ⟨hasks, hdue, hunsettled⟩
  · obtain ⟨a, d, hact⟩ := exists_act_of_mem_steps hx
    rcases timeouts_cases hact with ⟨name, g, -, hexpired, htimeouts⟩ | hnone
    · refine .inl ⟨name, g, _, hexpired, htimeouts, ?_⟩
      rcases htimed.of_expired hpos acts hx hexpired with ⟨t, ht, -⟩ | hopening
      · cases ht
      · exact hopening
    · exact .inr hnone

/-- A coordinator that gives up openings after one second. -/
def impatient : Coordinator Simulation :=
  start { openTimeoutSecs := some 1 } .nativeShell .null { screen := ⟨1280, 800⟩ }

/-- A satellite is opened, and nobody answers for more than a second. -/
def unanswered : List (Act Simulation) :=
  [.ask (.openSatellite "chart" none ⟨400, 300⟩) rfl, .ask (.dispatchEvent ⟨"tick", .int 1⟩) rfl,
    .wait 1500]

/-- The opening that nobody answers is given up after a second. -/
theorem unanswered_opening_given_up : impatient.timeout = some 1000 ∧
    ∃ o later, impatient.steps unanswered = o :: later ∧ o.happening = .opened "chart" 1 ∧
      ∃ front x back, later = front ++ x :: back ∧
        GivesUp "chart" 1 1000 (o :: front) x (front ++ back) := by
  have hspan : impatient.timeout = some 1000 := rfl
  obtain ⟨hopenings, -⟩ := overdue_openings_given_up { openTimeoutSecs := some 1 } .nativeShell
    .null ({ screen := ⟨1280, 800⟩ } : Simulation) hspan unanswered
  have hopened : Step.happening ⟨0, impatient.scene,
      .request (.openSatellite "chart" none ⟨400, 300⟩)⟩ = .opened "chart" 1 := by decide +kernel
  refine ⟨hspan, _, _, rfl, hopened, (hopenings [] _ _ "chart" 1 rfl hopened).1 ⟨rfl, ?_, ?_⟩⟩
  · decide +kernel
  · show ∀ y ∈ (impatient.steps unanswered).tail,
      y.moment < 0 + 1000 → y.happening.settles "chart" = false
    decide +kernel

/-- A satellite that was answered is forced open again, and nobody answers that for more than a
second. -/
def reopened : List (Act Simulation) :=
  [.ask (.openSatellite "chart" none ⟨400, 300⟩) rfl, .ask (.register "chart" 0) rfl,
    .ask (.flush "chart") rfl, .ask (.forceReopen "chart" none) rfl,
    .ask (.dispatchEvent ⟨"tick", .int 1⟩) rfl, .wait 1500]

/-- An opening that was forced is not given up although nothing has settled it in time: nothing is
reported, and events are held back on. -/
theorem forced_opening_not_given_up : impatient.timeout = some 1000 ∧
    ∃ earlier o later, impatient.steps reopened = earlier ++ o :: later ∧
      o.happening = .opened "chart" 2 ∧ o.moment + 1000 ≤ (impatient.run reopened).clock ∧
      Unsettled "chart" (o.moment + 1000) later ∧ (∀ y ∈ later, y.timeouts = []) ∧
      (impatient.run reopened).scene.fleet.isHolding "chart" = true ∧
      (impatient.run reopened).scene.fleet.tally.openTimeouts = 0 := by
  refine ⟨rfl, (impatient.steps reopened).take 3, ⟨0, (impatient.run (reopened.take 3)).scene,
    .request (.forceReopen "chart" none)⟩, (impatient.steps reopened).drop 4, rfl, ?_, ?_, ?_, ?_,
    ?_, ?_⟩
  · decide +kernel
  · decide +kernel
  · show ∀ y ∈ (impatient.steps reopened).drop 4,
      y.moment < 0 + 1000 → y.happening.settles "chart" = false
    decide +kernel
  · decide +kernel
  · decide +kernel
  · decide +kernel

end SatelliteWindows.Coordinator
