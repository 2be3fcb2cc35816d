import Mathlib.Data.List.TakeWhile
import SatelliteWindows.Proofs.Coordinator.Steps
import SatelliteWindows.Proofs.Standing

/-!
# Timers

Timers are set in the order of the openings, each for the same time, so they are also due in that
order, and none is missed. Steps are made in the order of their moments, and openings are numbered
in the order in which they are made.
-/

namespace SatelliteWindows

/-! ## Numbers of openings -/

namespace Happening

/-- The number of the opening. -/
def openedAs? : Happening → Option Nat
  | opened _ g => some g
  | _ => none

/-- Only an opening takes a number. -/
theorem openedAs?_eq_some {x : Happening} {g : Nat} (h : x.openedAs? = some g) :
    ∃ name, x = .opened name g := by
  cases x with
  | opened name k =>
    cases h
    exact ⟨name, rfl⟩
  | _ => cases h

end Happening

namespace Coordinator

/-! ## Timers in order -/

/-- A timer that is due last is put last. -/
theorem insertTimer_of_le {t : Timer} {l : List Timer} (h : ∀ u ∈ l, u.deadline ≤ t.deadline) :
    insertTimer t l = l ++ [t] := by
  induction l with
  | nil => rfl
  | cons u rest ih =>
    have hu : ¬ t.deadline < u.deadline := by
      have hle := h u List.mem_cons_self
      omega
    unfold insertTimer
    rw [if_neg hu, ih fun v hv => h v (List.mem_cons_of_mem u hv)]
    rfl

/-- Timers in the order of their deadlines that do not go off until some moment are due later. -/
theorem lt_deadline_of_mem_dropWhile {l : List Timer} {moment : Nat}
    (hsorted : l.Pairwise fun t u => t.deadline ≤ u.deadline) :
    ∀ u ∈ l.dropWhile (fun t => t.deadline ≤ moment), moment < u.deadline := by
  induction l with
  | nil => exact fun u hu => by cases hu
  | cons t rest ih =>
    obtain ⟨hfirst, hrest⟩ := List.pairwise_cons.mp hsorted
    intro u hu
    by_cases ht : t.deadline ≤ moment
    · rw [List.dropWhile_cons_of_pos (by simpa using ht)] at hu
      exact ih hrest u hu
    · rw [List.dropWhile_cons_of_neg (by simpa using ht)] at hu
      rcases List.mem_cons.mp hu with rfl | hu
      · omega
      · have hle := hfirst u hu
        omega

variable {σ : Type}

/-- The timers that go off until some moment come before those that are left. -/
theorem due_append_unset (moment : Nat) (c : Coordinator σ) :
    c.due moment ++ (c.unset moment).timers = c.timers := List.takeWhile_append_dropWhile

/-- A timer that is due is set, and its time has come. -/
theorem mem_due {moment : Nat} {c : Coordinator σ} {t : Timer} (h : t ∈ c.due moment) :
    t ∈ c.timers ∧ t.deadline ≤ moment :=
  ⟨(List.takeWhile_sublist _).subset h, by simpa using List.mem_takeWhile_imp h⟩

/-- The timers of a coordinator that gives up openings after some span of time. -/
structure Timed (span : Nat) (c : Coordinator σ) : Prop where
  /-- Openings are given up after that time. -/
  timeout : c.timeout = some span
  /-- Timers are in the order of their deadlines. -/
  sorted : c.timers.Pairwise fun t u => t.deadline ≤ u.deadline
  /-- They are in the order of the openings. -/
  numbered : c.timers.Pairwise fun t u => t.generation < u.generation
  /-- None has been missed. -/
  ahead : ∀ t ∈ c.timers, c.clock < t.deadline
  /-- None is set for longer than that time. -/
  within : ∀ t ∈ c.timers, t.deadline ≤ c.clock + span
  /-- They are for openings that there were. -/
  known : ∀ t ∈ c.timers, t.generation ≤ c.scene.fleet.generation

/-- Before anything was asked no timer is set. -/
theorem timed_start {settings : CoordinatorSettings} {platform : Platform} {session : Payload}
    {world : σ} {span : Nat} (h : (start settings platform session world).timeout = some span) :
    Timed span (start settings platform session world) where
  timeout := h
  sorted := .nil
  numbered := .nil
  ahead t ht := by cases ht
  within t ht := by cases ht
  known t ht := by cases ht

/-- No opening is given up at once. -/
theorem span_pos {settings : CoordinatorSettings} {platform : Platform} {session : Payload}
    {world : σ} {span : Nat} (h : (start settings platform session world).timeout = some span) :
    0 < span := by
  have hsettings : settings.openTimeout.map (fun seconds => delay (1000 * seconds)) =
      some span := h
  unfold CoordinatorSettings.openTimeout at hsettings
  cases hsecs : settings.openTimeoutSecs with
  | none =>
    rw [hsecs] at hsettings
    cases hsettings
  | some secs =>
    rw [hsecs] at hsettings
    dsimp only at hsettings
    split at hsettings
    · cases hsettings
    · next hne =>
      have hpos : 0 < secs.toNat := by
        have hnat : secs.toNat ≠ 0 := fun hz => hne (UInt64.toNat_inj.mp hz)
        omega
      have hspan : delay (1000 * secs.toNat) = span := by simpa using hsettings
      unfold delay longestDelay at hspan
      omega

/-- Timers stay in order as long as nothing happens to them. -/
theorem Timed.keep {span : Nat} {c d : Coordinator σ} (h : Timed span c)
    (htimeout : d.timeout = c.timeout) (hclock : d.clock = c.clock) (htimers : d.timers = c.timers)
    (hgeneration : c.scene.fleet.generation ≤ d.scene.fleet.generation) : Timed span d := by
  refine ⟨htimeout.trans h.timeout, ?_, ?_, ?_, ?_, ?_⟩
  · rw [htimers]
    exact h.sorted
  · rw [htimers]
    exact h.numbered
  · rw [htimers, hclock]
    exact h.ahead
  · rw [htimers, hclock]
    exact h.within
  · intro t ht
    rw [htimers] at ht
    exact Nat.le_trans (h.known t ht) hgeneration

/-- Timers stay in order when one is set for a new opening. -/
theorem Timed.push {span : Nat} (hpos : 0 < span) {c d : Coordinator σ} {u : Timer}
    (h : Timed span c) (htimeout : d.timeout = c.timeout) (hclock : d.clock = c.clock)
    (htimers : d.timers = c.timers ++ [u]) (hdeadline : u.deadline = c.clock + span)
    (hnew : c.scene.fleet.generation < u.generation)
    (hknown : u.generation ≤ d.scene.fleet.generation) : Timed span d := by
  have hmem : ∀ t ∈ d.timers, t ∈ c.timers ∨ t = u := by
    intro t ht
    rw [htimers] at ht
    rcases List.mem_append.mp ht with ht | ht
    · exact .inl ht
    · exact .inr (List.mem_singleton.mp ht)
  refine ⟨htimeout.trans h.timeout, ?_, ?_, fun t ht => ?_, fun t ht => ?_, fun t ht => ?_⟩
  · rw [htimers]
    refine List.pairwise_append.mpr ⟨h.sorted, List.pairwise_singleton _ _, fun v hv w hw => ?_⟩
    have hle := h.within v hv
    rw [List.mem_singleton.mp hw]
    omega
  · rw [htimers]
    refine List.pairwise_append.mpr ⟨h.numbered, List.pairwise_singleton _ _, fun v hv w hw => ?_⟩
    have hle := h.known v hv
    rw [List.mem_singleton.mp hw]
    omega
  · rcases hmem t ht with hold | rfl
    · rw [hclock]
      exact h.ahead t hold
    · omega
  · rcases hmem t ht with hold | rfl
    · rw [hclock]
      exact h.within t hold
    · omega
  · rcases hmem t ht with hold | rfl
    · have hle := h.known t hold
      omega
    · exact hknown

/-- Timers stay in order when time passes and those that are due go off. -/
theorem Timed.pass {span : Nat} {c d : Coordinator σ} (h : Timed span c)
    (htimeout : d.timeout = c.timeout) (hclock : c.clock ≤ d.clock)
    (htimers : d.timers = c.timers.dropWhile fun t => t.deadline ≤ d.clock)
    (hgeneration : c.scene.fleet.generation ≤ d.scene.fleet.generation) : Timed span d := by
  have hsublist : d.timers.Sublist c.timers := by
    rw [htimers]
    exact List.dropWhile_sublist _
  refine ⟨htimeout.trans h.timeout, h.sorted.sublist hsublist, h.numbered.sublist hsublist,
    fun t ht => ?_, fun t ht => ?_, fun t ht => ?_⟩
  · rw [htimers] at ht
    exact lt_deadline_of_mem_dropWhile h.sorted t ht
  · have hle := h.within t (hsublist.subset ht)
    omega
  · exact Nat.le_trans (h.known t (hsublist.subset ht)) hgeneration

/-! ## What acts do to timers -/

variable [Desktop σ]

/-- Numbers of openings only grow. -/
theorem generation_of_recorded {s t : Scene σ} {xs : List (Step σ)} (h : Recorded s xs t) :
    s.fleet.generation ≤ t.fleet.generation := by
  induction h with
  | nil => exact Nat.le_refl _
  | @cons x _ _ _ ih =>
    have hturn : x.before.fleet.generation ≤ x.after.fleet.generation := x.turn.generation_le
    omega

/-- A step that opens a satellite anew takes the next number. -/
theorem generation_of_opened {x : Step σ} {name : String} {g : Nat}
    (h : x.happening = .opened name g) :
    g = x.before.fleet.generation + 1 ∧ x.after.fleet.generation = g := by
  have hturn := x.turn
  rw [h] at hturn
  exact hturn.generation_opened

/-- What an act can do to clock and timers: nothing; or it sets a timer for the opening that it
makes; or time passes and the timers that are due go off. -/
theorem Timed.act_cases {span : Nat} {c : Coordinator σ} (h : Timed span c) (a : Act σ) :
    (c.act a).timeout = c.timeout ∧
      (((c.act a).clock = c.clock ∧ (c.act a).timers = c.timers) ∨
        (∃ t, (c.act a).clock = c.clock ∧ (c.act a).timers = c.timers ++ [t] ∧
          t.deadline = c.clock + span ∧ c.scene.fleet.generation < t.generation ∧
          t.generation ≤ (c.act a).scene.fleet.generation ∧
          ∃ y ∈ c.stepsOf a, y.moment = c.clock ∧ y.asksToOpen = true ∧
            y.happening = .opened t.name t.generation) ∨
        c.clock ≤ (c.act a).clock ∧
          (c.act a).timers = c.timers.dropWhile fun t => t.deadline ≤ (c.act a).clock) := by
  cases a with
  | ask r allowed =>
    cases hrunning : c.running with
    | false =>
      have hsame : c.act (.ask r allowed) = c := serve_of_not_running hrunning r
      exact ⟨congrArg Coordinator.timeout hsame,
        .inl ⟨congrArg Coordinator.clock hsame, congrArg Coordinator.timers hsame⟩⟩
    | true =>
      obtain ⟨hscene, hclock, -, htimeout⟩ := serve_of_running hrunning r
      have htimers := timers_serve hrunning h.timeout r
      refine ⟨htimeout, ?_⟩
      cases ht : Step.timer? span ⟨c.clock, c.scene, .request r⟩ with
      | none =>
        rw [ht] at htimers
        exact .inl ⟨hclock, htimers⟩
      | some t =>
        rw [ht] at htimers
        obtain ⟨hasks, name, g, hopened, rfl⟩ := Step.timer?_eq_some ht
        -- all timers have the same span, so the new one is the last
        have hlast := insertTimer_of_le (t := ⟨c.clock + span, name, g⟩) h.within
        obtain ⟨hg, hafter⟩ := generation_of_opened hopened
        have hnew : g = c.scene.fleet.generation + 1 := hg
        have hlatest : (c.serve r).2.scene.fleet.generation = g := by
          rw [hscene]
          exact hafter
        refine .inr (.inl ⟨_, hclock, htimers.trans hlast, rfl, ?_, ?_, _, ?_, rfl, hasks, hopened⟩)
        · show c.scene.fleet.generation < g
          omega
        · show g ≤ (c.serve r).2.scene.fleet.generation
          omega
        · show _ ∈ c.served r
          rw [served, if_pos hrunning]
          exact List.mem_singleton.mpr rfl
  | wait ms =>
    obtain ⟨hclock, -, htimeout, htimers⟩ := c.wait_fields ms
    refine ⟨htimeout, .inr (.inr ⟨?_, ?_⟩)⟩
    · show c.clock ≤ (c.wait ms).clock
      omega
    · show (c.wait ms).timers = c.timers.dropWhile fun t => t.deadline ≤ (c.wait ms).clock
      rw [hclock]
      exact htimers
  | shutdown =>
    cases hrunning : c.running with
    | false =>
      have hsame : c.act .shutdown = c := shutdown_of_not_running hrunning
      exact ⟨congrArg Coordinator.timeout hsame,
        .inl ⟨congrArg Coordinator.clock hsame, congrArg Coordinator.timers hsame⟩⟩
    | true =>
      obtain ⟨-, hclock, -, htimeout, htimers⟩ := shutdown_of_running hrunning
      exact ⟨htimeout, .inl ⟨hclock, htimers⟩⟩
  | shift change => exact ⟨rfl, .inl ⟨rfl, rfl⟩⟩

/-- Every act keeps the timers in order. -/
theorem Timed.act {span : Nat} (hpos : 0 < span) {c : Coordinator σ} (h : Timed span c)
    (a : Act σ) : Timed span (c.act a) := by
  have hgeneration := generation_of_recorded (recorded_stepsOf a c)
  obtain ⟨htimeout, ⟨hclock, htimers⟩ | ⟨u, hclock, htimers, hdeadline, hnew, hknown, -⟩ |
    ⟨hclock, htimers⟩⟩ := h.act_cases a
  · exact h.keep htimeout hclock htimers hgeneration
  · exact h.push hpos htimeout hclock htimers hdeadline hnew hknown
  · exact h.pass htimeout hclock htimers hgeneration

/-! ## The order of steps -/

/-- Time does not run backwards. -/
theorem Timed.clock_le {span : Nat} {c : Coordinator σ} (h : Timed span c) (a : Act σ) :
    c.clock ≤ (c.act a).clock := by
  obtain ⟨-, ⟨hclock, -⟩ | ⟨u, hclock, -⟩ | ⟨hclock, -⟩⟩ := h.act_cases a
  · omega
  · omega
  · exact hclock

/-- Steps are made at their time. -/
theorem Timed.le_moment {span : Nat} {c : Coordinator σ} (h : Timed span c) {a : Act σ}
    {y : Step σ} (hy : y ∈ c.stepsOf a) :
    c.clock ≤ y.moment ∧ y.moment ≤ (c.act a).clock := by
  have hle := h.clock_le a
  cases a with
  | ask r allowed =>
    obtain ⟨-, rfl⟩ := mem_served hy
    exact ⟨Nat.le_refl _, hle⟩
  | wait ms =>
    obtain ⟨t, ht, hmoment, -⟩ := mem_rings hy
    obtain ⟨hmem, hdue⟩ := mem_due ht
    have hahead := h.ahead t hmem
    have hclock := (c.wait_fields ms).1
    refine ⟨by omega, ?_⟩
    show y.moment ≤ (c.wait ms).clock
    omega
  | shutdown =>
    obtain ⟨-, rfl⟩ := mem_served hy
    exact ⟨Nat.le_refl _, hle⟩
  | shift change =>
    rw [List.mem_singleton.mp hy]
    exact ⟨Nat.le_refl c.clock, hle⟩

/-- Timers that go off in the order of their deadlines make their steps in that order. -/
theorem moments_rings {due : List Timer}
    (hsorted : due.Pairwise fun t u => t.deadline ≤ u.deadline) (c : Coordinator σ) :
    (rings due c).Pairwise fun y z => y.moment ≤ z.moment := by
  induction due generalizing c with
  | nil => exact .nil
  | cons t rest ih =>
    obtain ⟨hfirst, hrest⟩ := List.pairwise_cons.mp hsorted
    refine List.pairwise_append.mpr ⟨?_, ih hrest (c.ring t), fun y hy z hz => ?_⟩
    · unfold served
      split
      · exact List.pairwise_singleton _ _
      · exact .nil
    · obtain ⟨-, rfl⟩ := mem_served hy
      obtain ⟨u, hu, hmoment, -⟩ := mem_rings hz
      have hle := hfirst u hu
      show t.deadline ≤ z.moment
      omega

/-- The steps of an act are made in the order of their moments. -/
theorem Timed.moments_stepsOf {span : Nat} {c : Coordinator σ} (h : Timed span c) (a : Act σ) :
    (c.stepsOf a).Pairwise fun y z => y.moment ≤ z.moment := by
  have hserved : ∀ r, (c.served r).Pairwise fun y z => y.moment ≤ z.moment := by
    intro r
    unfold served
    split
    · exact List.pairwise_singleton _ _
    · exact .nil
  cases a with
  | ask r allowed => exact hserved r
  | wait ms => exact moments_rings (h.sorted.sublist (List.takeWhile_sublist _)) _
  | shutdown => exact hserved .mainWindowClosed
  | shift change => exact List.pairwise_singleton _ _

variable {span : Nat} (hpos : 0 < span)

include hpos

/-- On a whole run, time does not run backwards, and steps are made at their time. -/
theorem Timed.le_moment_steps (acts : List (Act σ)) {c : Coordinator σ} (h : Timed span c) :
    c.clock ≤ (c.run acts).clock ∧
      ∀ y ∈ c.steps acts, c.clock ≤ y.moment ∧ y.moment ≤ (c.run acts).clock := by
  induction acts generalizing c with
  | nil => exact ⟨Nat.le_refl _, fun y hy => by cases hy⟩
  | cons a rest ih =>
    have hle := h.clock_le a
    obtain ⟨hclock, hsteps⟩ := ih (h.act hpos a)
    refine ⟨Nat.le_trans hle hclock, fun y hy => ?_⟩
    rcases List.mem_append.mp hy with hfirst | hrest
    · obtain ⟨hlow, hhigh⟩ := h.le_moment hfirst
      exact ⟨hlow, Nat.le_trans hhigh hclock⟩
    · obtain ⟨hlow, hhigh⟩ := hsteps y hrest
      exact ⟨Nat.le_trans hle hlow, hhigh⟩

/-- The steps of a run are made in the order of their moments. -/
theorem Timed.moments_pairwise (acts : List (Act σ)) {c : Coordinator σ} (h : Timed span c) :
    (c.steps acts).Pairwise fun y z => y.moment ≤ z.moment := by
  induction acts generalizing c with
  | nil => exact .nil
  | cons a rest ih =>
    refine List.pairwise_append.mpr ⟨h.moments_stepsOf a, ih (h.act hpos a), fun y hy z hz => ?_⟩
    have hfirst := (h.le_moment hy).2
    have hrest := (((h.act hpos a).le_moment_steps hpos rest).2 z hz).1
    omega

/-- The run of a coordinator keeps its timers in order. -/
theorem Timed.run (acts : List (Act σ)) {c : Coordinator σ} (h : Timed span c) :
    Timed span (c.run acts) := by
  induction acts generalizing c with
  | nil => exact h
  | cons a rest ih => exact ih (h.act hpos a)

omit hpos

/-- Openings are numbered in their order. -/
theorem Recorded.openedAs_pairwise {s t : Scene σ} {xs : List (Step σ)} (h : Recorded s xs t) :
    (xs.filterMap fun y => y.happening.openedAs?).Pairwise (· < ·) ∧
      ∀ g ∈ xs.filterMap fun y => y.happening.openedAs?, s.fleet.generation < g := by
  induction h with
  | nil => exact ⟨.nil, fun g hg => by cases hg⟩
  | @cons x xs t rest ih =>
    obtain ⟨hpairwise, hlater⟩ := ih
    have hturn : x.before.fleet.generation ≤ x.after.fleet.generation := x.turn.generation_le
    rw [List.filterMap_cons]
    cases hx : x.happening.openedAs? with
    | none =>
      refine ⟨hpairwise, fun g hg => ?_⟩
      have hlt := hlater g hg
      omega
    | some k =>
      obtain ⟨name, hopened⟩ := Happening.openedAs?_eq_some hx
      obtain ⟨hk, hafter⟩ := generation_of_opened hopened
      refine ⟨List.pairwise_cons.mpr ⟨fun g hg => ?_, hpairwise⟩, fun g hg => ?_⟩
      · have hlt := hlater g hg
        omega
      · rcases List.mem_cons.mp hg with rfl | hg
        · omega
        · have hlt := hlater g hg
          omega

end Coordinator

end SatelliteWindows
