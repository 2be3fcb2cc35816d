import Mathlib.Tactic.Common
import SatelliteWindows.Scenario.Validation

/-!
# What is demanded of scenarios

Five demands are made on every step, and they are looked at in a fixed order. This module states
each of them without regard to how it is checked, and proves that the check of a scenario accepts
what meets all demands, and that it otherwise blames the first step that does not, for the first
demand that this step does not meet. What is accepted stays so when it is cut short or when another
accepted scenario follows.
-/

namespace SatelliteWindows

/-- The step does something to the window of a satellite. -/
inductive Step.Handles : Step → String → Prop where
  /-- The window registers. -/
  | register (name : String) : Handles (.register name) name
  /-- The window is closed. -/
  | kill (name : String) : Handles (.kill name) name
  /-- The window starts to refuse messages, or stops to. -/
  | failDeliveries (name : String) (failing : Bool) : Handles (.failDeliveries name failing) name
  /-- The window is moved. -/
  | move (name : String) (size : Size) (position : Point) : Handles (.move name size position) name

/-- Something that is demanded of every step. -/
inductive Demand where
  /-- The name of a satellite can be seen. -/
  | name
  /-- What is opened with a size can be seen. -/
  | size
  /-- An event has a type. -/
  | eventType
  /-- A command has a name. -/
  | command
  /-- A window is handled behind an opening of its satellite. -/
  | window
  deriving DecidableEq

namespace Demand

/-- The demands, in the order in which they are looked at. -/
def all : List Demand := [name, size, eventType, command, window]

/-- Whether a step meets a demand behind other steps. -/
def Met (earlier : List Step) (s : Step) : Demand → Prop
  | name => ∀ n, s.target? = some n → ∃ c ∈ n.toList, Text.isBlankChar c = false
  | size => ∀ n params z, s = .openSatellite n params (some z) → z.width ≠ 0 ∧ z.height ≠ 0
  | eventType => ∀ t data, s = .dispatchEvent t data → t ≠ ""
  | command => ∀ id, s = .dispatchCommand id → id ≠ ""
  | window => ∀ n, s.Handles n → ∃ params z, .openSatellite n params z ∈ earlier

/-- What is reported of a step that does not meet a demand. -/
def flaw (index : Nat) (s : Step) : Demand → Flaw
  | name => .blankName index s.action
  | size => .degenerateSize index (s.target?.getD "")
  | eventType => .noEventType index
  | command => .noCommand index
  | window => .neverOpened index s.action (s.target?.getD "")

/-- There is no other demand. -/
theorem mem_all (d : Demand) : d ∈ all := by
  cases d <;> decide

/-- A demand that is met is met behind more steps as well. -/
theorem Met.mono {d : Demand} {earlier more : List Step} {s : Step} (h : d.Met earlier s)
    (hsub : earlier ⊆ more) : d.Met more s := by
  cases d with
  | window =>
    intro n hn
    obtain ⟨params, z, hopened⟩ := h n hn
    exact ⟨params, z, hsub hopened⟩
  | name | size | eventType | command => exact h

/-- A flaw that a step is blamed for: that of the first demand which it does not meet. -/
def Blames (index : Nat) (earlier : List Step) (s : Step) (f : Flaw) : Prop :=
  ∃ before d after, all = before ++ d :: after ∧ (∀ e ∈ before, e.Met earlier s) ∧
    ¬ d.Met earlier s ∧ f = d.flaw index s

end Demand

namespace Step

/-- Behind some steps, every one of these steps meets all demands behind those before it. -/
def WellFormed (past steps : List Step) : Prop :=
  ∀ earlier s later, steps = earlier ++ s :: later → ∀ d : Demand, d.Met (past ++ earlier) s

/-- The satellites among some are those that steps have opened. -/
def Records (opened : List String) (past : List Step) : Prop :=
  ∀ n, n ∈ opened ↔ ∃ params z, .openSatellite n params z ∈ past

variable {opened : List String} {past : List Step}

/-- What is known to be opened is so after another step. -/
theorem Records.opening (h : Records opened past) (s : Step) :
    Records (s.opening opened) (past ++ [s]) := by
  intro n
  have hpast := h n
  cases s with
  | openSatellite name params size =>
    simp only [Step.opening, List.mem_cons, List.mem_append, hpast, List.not_mem_nil, or_false,
      openSatellite.injEq]
    constructor
    · rintro (rfl | ⟨p, z, hmem⟩)
      · exact ⟨params, size, .inr ⟨rfl, rfl, rfl⟩⟩
      · exact ⟨p, z, .inl hmem⟩
    · rintro ⟨p, z, hmem | ⟨rfl, -, -⟩⟩
      · exact .inr ⟨p, z, hmem⟩
      · exact .inl rfl
  | _ => simpa [Step.opening] using hpast

/-! ## One step -/

open Classical in
/-- What there is to say against a step on account of one demand. -/
noncomputable def objection (index : Nat) (earlier : List Step) (s : Step) (d : Demand) :
    Option Flaw :=
  if d.Met earlier s then none else some (d.flaw index s)

/-- A demand that is met is no objection. -/
theorem objection_of_met {index : Nat} {earlier : List Step} {s : Step} {d : Demand}
    (h : d.Met earlier s) : s.objection index earlier d = none := if_pos h

/-- A demand that is not met is one, with its flaw. -/
theorem objection_of_not_met {index : Nat} {earlier : List Step} {s : Step} {d : Demand}
    (h : ¬ d.Met earlier s) : s.objection index earlier d = some (d.flaw index s) := if_neg h

/-- There is no objection exactly if the demand is met. -/
theorem objection_eq_none_iff {index : Nat} {earlier : List Step} {s : Step} {d : Demand} :
    s.objection index earlier d = none ↔ d.Met earlier s := by
  simp [objection]

/-- There is an objection exactly if the demand is not met. -/
theorem objection_eq_some_iff {index : Nat} {earlier : List Step} {s : Step} {d : Demand}
    {f : Flaw} :
    s.objection index earlier d = some f ↔ ¬ d.Met earlier s ∧ f = d.flaw index s := by
  by_cases h : d.Met earlier s
  · simp [objection_of_met h, h]
  · simp [objection_of_not_met h, h, eq_comm]

/-- A name is blank if no character of it can be seen. -/
theorem nameFlaw?_eq (index : Nat) (earlier : List Step) (s : Step) :
    s.nameFlaw? index = s.objection index earlier .name := by
  unfold nameFlaw?
  cases htarget : s.target? with
  | none =>
    have hmet : Demand.name.Met earlier s := fun n hn => by
      rw [htarget] at hn
      cases hn
    exact (objection_of_met hmet).symm
  | some n =>
    dsimp only
    cases hblank : Text.isBlank n with
    | true =>
      have hnot : ¬ Demand.name.Met earlier s := fun hmet => by
        obtain ⟨c, hc, hvisible⟩ := hmet n htarget
        have hall := List.all_eq_true.mp hblank c hc
        rw [hvisible] at hall
        cases hall
      exact (objection_of_not_met hnot).symm
    | false =>
      have hmet : Demand.name.Met earlier s := fun m hm => by
        rw [htarget] at hm
        cases hm
        exact List.all_eq_false.mp hblank |>.imp fun c hc => ⟨hc.1, by simpa using hc.2⟩
      exact (objection_of_met hmet).symm

/-- At most one of these demands says something about a step. -/
theorem detailFlaw?_eq (index : Nat) (earlier : List Step) (s : Step) :
    s.detailFlaw? index = (s.objection index earlier .size <|>
      s.objection index earlier .eventType <|> s.objection index earlier .command) := by
  cases s with
  | openSatellite n params size =>
    cases size with
    | none => simp [detailFlaw?, objection, Demand.Met]
    | some z =>
      by_cases hw : z.width = 0 <;> by_cases hh : z.height = 0 <;>
        simp [detailFlaw?, objection, Demand.Met, Demand.flaw, Size.isDegenerate, target?, hw, hh]
  | dispatchEvent t data =>
    by_cases ht : t = "" <;> simp [detailFlaw?, objection, Demand.Met, Demand.flaw, ht]
  | dispatchCommand id =>
    by_cases hid : id = "" <;> simp [detailFlaw?, objection, Demand.Met, Demand.flaw, hid]
  | _ => simp [detailFlaw?, objection, Demand.Met]

/-- A window can be handled if its satellite was opened before. -/
theorem windowFlaw?_eq (h : Records opened past) (index : Nat) (s : Step) :
    s.windowFlaw? index (s.opening opened) = s.objection index past .window := by
  have hhandled : ∀ n, s.target? = some n → s.needsWindow = true → s.opening opened = opened →
      s.Handles n → (∀ m, s.Handles m → m = n) →
      s.windowFlaw? index (s.opening opened) = s.objection index past .window := by
    intro n htarget hneeds hsame hhandles hother
    unfold windowFlaw?
    rw [htarget, hneeds, hsame]
    by_cases hn : n ∈ opened
    · have hmet : Demand.window.Met past s := fun m hm => hother m hm ▸ (h n).mp hn
      simp [hn, objection_of_met hmet]
    · have hnot : ¬ Demand.window.Met past s := fun hmet => hn ((h n).mpr (hmet n hhandles))
      simp [hn, objection_of_not_met hnot, Demand.flaw, htarget]
  have hquiet : s.needsWindow = false → (∀ n, ¬ s.Handles n) →
      s.windowFlaw? index (s.opening opened) = s.objection index past .window := by
    intro hneeds hnot
    have hmet : Demand.window.Met past s := fun n hn => absurd hn (hnot n)
    unfold windowFlaw?
    rw [objection_of_met hmet, hneeds]
    cases s.target? <;> rfl
  cases s with
  | register n => exact hhandled n rfl rfl rfl (.register n) fun m hm => by cases hm; rfl
  | kill n => exact hhandled n rfl rfl rfl (.kill n) fun m hm => by cases hm; rfl
  | failDeliveries n failing =>
    exact hhandled n rfl rfl rfl (.failDeliveries n failing) fun m hm => by cases hm; rfl
  | move n size position =>
    exact hhandled n rfl rfl rfl (.move n size position) fun m hm => by cases hm; rfl
  | _ => exact hquiet rfl fun n hn => by cases hn

/-- The flaw of a step is the first that there is to say against it. -/
theorem flaw?_eq (h : Records opened past) (index : Nat) (s : Step) :
    s.flaw? index opened = Demand.all.findSome? (s.objection index past) := by
  unfold flaw?
  rw [nameFlaw?_eq index past, detailFlaw?_eq index past, windowFlaw?_eq h]
  simp only [Demand.all, List.findSome?_cons, List.findSome?_nil]
  cases s.objection index past .name <;> cases s.objection index past .size <;>
    cases s.objection index past .eventType <;> cases s.objection index past .command <;>
      cases s.objection index past .window <;> rfl

/-- A step has no flaw exactly if it meets all demands. -/
theorem flaw?_eq_none_iff (h : Records opened past) {index : Nat} {s : Step} :
    s.flaw? index opened = none ↔ ∀ d : Demand, d.Met past s := by
  rw [flaw?_eq h, List.findSome?_eq_none_iff]
  constructor
  · exact fun hnone d => objection_eq_none_iff.mp (hnone d d.mem_all)
  · exact fun hmet d _ => objection_of_met (hmet d)

/-- Its flaw is that of the first demand that it does not meet. -/
theorem flaw?_eq_some_iff (h : Records opened past) {index : Nat} {s : Step} {f : Flaw} :
    s.flaw? index opened = some f ↔ Demand.Blames index past s f := by
  rw [flaw?_eq h, List.findSome?_eq_some_iff]
  simp only [objection_eq_none_iff, objection_eq_some_iff]
  constructor
  · rintro ⟨before, d, after, hall, ⟨hnot, hflaw⟩, hbefore⟩
    exact ⟨before, d, after, hall, hbefore, hnot, hflaw⟩
  · rintro ⟨before, d, after, hall, hbefore, hnot, hflaw⟩
    exact ⟨before, d, after, hall, ⟨hnot, hflaw⟩, hbefore⟩

/-- A step that is blamed for something does not meet all demands. -/
theorem not_met_of_blames {index : Nat} {s : Step} {f : Flaw}
    (h : Demand.Blames index past s f) : ¬ ∀ d : Demand, d.Met past s := by
  obtain ⟨-, d, -, -, -, hnot, -⟩ := h
  exact fun hmet => hnot (hmet d)

/-! ## All steps -/

/-- Where there are no steps all are well formed. -/
theorem wellFormed_nil (past : List Step) : WellFormed past [] :=
  fun earlier _ _ hsplit => by
    cases earlier <;> cases hsplit

/-- Steps are well formed if the first one meets all demands and the others are well formed behind
it. -/
theorem wellFormed_cons {s : Step} {rest : List Step} :
    WellFormed past (s :: rest) ↔ (∀ d : Demand, d.Met past s) ∧ WellFormed (past ++ [s]) rest := by
  constructor
  · intro h
    refine ⟨fun d => ?_, fun earlier x later hsplit d => ?_⟩
    · have hfirst := h [] s rest rfl d
      rwa [List.append_nil] at hfirst
    · have hlater := h (s :: earlier) x later (congrArg (s :: ·) hsplit) d
      rwa [List.append_cons] at hlater
  · rintro ⟨hfirst, hrest⟩ earlier x later hsplit d
    cases earlier with
    | nil =>
      cases hsplit
      rw [List.append_nil]
      exact hfirst d
    | cons y earlier =>
      rw [List.cons_append, List.cons.injEq] at hsplit
      obtain ⟨rfl, hsplit⟩ := hsplit
      have hlater := hrest earlier x later hsplit d
      rwa [List.append_assoc] at hlater

/-- Steps are well formed if the first ones are and the others are behind them. -/
theorem wellFormed_append {steps more : List Step} :
    WellFormed past (steps ++ more) ↔ WellFormed past steps ∧ WellFormed (past ++ steps) more := by
  induction steps generalizing past with
  | nil => simp [wellFormed_nil]
  | cons s rest ih =>
    rw [List.cons_append, wellFormed_cons, ih, wellFormed_cons, ← List.append_cons, and_assoc]

/-- Steps that are well formed are so behind more steps. -/
theorem WellFormed.mono {more steps : List Step} (h : WellFormed past steps)
    (hsub : past ⊆ more) : WellFormed more steps := by
  intro earlier s later hsplit d
  refine (h earlier s later hsplit d).mono ?_
  exact List.append_subset.mpr
    ⟨List.subset_append_of_subset_left _ hsub, List.subset_append_right _ _⟩

end Step

namespace Scenario

open Step

variable {opened : List String} {past : List Step}

/-- Steps have no flaw exactly if they are well formed. -/
theorem stepsFlaw?_eq_none_iff (h : Records opened past) (index : Nat) (steps : List Step) :
    stepsFlaw? index opened steps = none ↔ WellFormed past steps := by
  induction steps generalizing index opened past with
  | nil => simp [stepsFlaw?, wellFormed_nil]
  | cons s rest ih =>
    have hfirst : s.flaw? index opened = none ↔ ∀ d : Demand, d.Met past s := flaw?_eq_none_iff h
    rw [wellFormed_cons, ← ih (h.opening s) (index + 1), ← hfirst]
    simp [stepsFlaw?]

/-- The flaw of steps is that of the first one that does not meet all demands. -/
theorem stepsFlaw?_eq_some_iff (h : Records opened past) (index : Nat) (steps : List Step)
    (f : Flaw) :
    stepsFlaw? index opened steps = some f ↔ ∃ earlier s later, steps = earlier ++ s :: later ∧
      WellFormed past earlier ∧ Demand.Blames (index + earlier.length) (past ++ earlier) s f := by
  induction steps generalizing index opened past with
  | nil => simp [stepsFlaw?]
  | cons s rest ih =>
    rw [stepsFlaw?]
    cases hflaw : s.flaw? index opened with
    | some g =>
      -- this step is the first to be blamed, since nothing comes before it
      have hblames := (flaw?_eq_some_iff h).mp hflaw
      constructor
      · intro hg
        have hsame : g = f := by simpa using hg
        subst hsame
        exact ⟨[], s, rest, rfl, wellFormed_nil past, by rwa [List.append_nil]⟩
      · rintro ⟨earlier, x, later, hsplit, hearlier, hx⟩
        cases earlier with
        | nil =>
          cases hsplit
          rw [List.append_nil] at hx
          have hf : s.flaw? index opened = some f := (flaw?_eq_some_iff h).mpr hx
          rw [hflaw] at hf
          exact hf
        | cons y earlier =>
          rw [List.cons_append, List.cons.injEq] at hsplit
          obtain ⟨rfl, -⟩ := hsplit
          exact absurd (wellFormed_cons.mp hearlier).1 (not_met_of_blames hblames)
    | none =>
      have hmet := (flaw?_eq_none_iff h).mp hflaw
      have hshift : (none <|> stepsFlaw? (index + 1) (s.opening opened) rest) =
          stepsFlaw? (index + 1) (s.opening opened) rest := rfl
      rw [hshift, ih (h.opening s)]
      constructor
      · rintro ⟨earlier, x, later, rfl, hearlier, hx⟩
        refine ⟨s :: earlier, x, later, rfl, wellFormed_cons.mpr ⟨hmet, hearlier⟩, ?_⟩
        rw [List.length_cons, List.append_cons, Nat.add_comm earlier.length, ← Nat.add_assoc]
        exact hx
      · rintro ⟨earlier, x, later, hsplit, hearlier, hx⟩
        cases earlier with
        | nil =>
          cases hsplit
          rw [List.append_nil] at hx
          exact absurd hmet (not_met_of_blames hx)
        | cons y earlier =>
          rw [List.cons_append, List.cons.injEq] at hsplit
          obtain ⟨rfl, hsplit⟩ := hsplit
          refine ⟨earlier, x, later, hsplit, (wellFormed_cons.mp hearlier).2, ?_⟩
          rw [List.length_cons, List.append_cons, Nat.add_comm earlier.length,
            ← Nat.add_assoc] at hx
          exact hx

/-- Before any step nothing is opened. -/
theorem records_nil : Records [] [] := fun n => by simp

/-- A scenario is accepted if it has steps and all of them meet all demands. -/
theorem validate_eq_ok_iff (s : Scenario) :
    s.validate = .ok () ↔ s.steps ≠ [] ∧ WellFormed [] s.steps := by
  rw [← stepsFlaw?_eq_none_iff records_nil 1]
  unfold validate flaw?
  cases s.steps with
  | nil => simp
  | cons step rest =>
    rw [if_neg (by simp)]
    cases stepsFlaw? 1 [] (step :: rest) <;> simp

/-- A scenario without steps is refused for that, and any other for the first step that does not
meet all demands. -/
theorem validate_eq_error_iff (s : Scenario) (f : Flaw) :
    s.validate = .error f ↔ (s.steps = [] ∧ f = .noSteps s.name) ∨
      ∃ earlier step later, s.steps = earlier ++ step :: later ∧ WellFormed [] earlier ∧
        Demand.Blames (earlier.length + 1) earlier step f := by
  have hflaw := stepsFlaw?_eq_some_iff records_nil 1 s.steps f
  simp only [List.nil_append, Nat.add_comm 1] at hflaw
  rw [← hflaw]
  unfold validate flaw?
  cases s.steps with
  | nil => simp [stepsFlaw?, eq_comm]
  | cons step rest =>
    rw [if_neg (by simp)]
    cases stepsFlaw? 1 [] (step :: rest) <;> simp

/-- A scenario is accepted exactly if it has steps and each of them meets all demands: the name of
its satellite can be seen, what is opened with a size can be seen, an event has a type, a command
has a name, and a window is handled behind an opening of its satellite. Otherwise the first step is
blamed that does not meet all of them, by its number, and for the first one that it does not meet.
So what is left of an accepted scenario at its beginning is accepted, and so is one accepted
scenario behind another. -/
theorem validate_first_flaw (s : Scenario) :
    (s.validate = .ok () ↔ s.steps ≠ [] ∧ WellFormed [] s.steps) ∧
    (∀ f, s.validate = .error f ↔ (s.steps = [] ∧ f = .noSteps s.name) ∨
      ∃ earlier step later, s.steps = earlier ++ step :: later ∧ WellFormed [] earlier ∧
        Demand.Blames (earlier.length + 1) earlier step f) ∧
    (∀ t : Scenario, s.validate = .ok () → t.steps <+: s.steps → t.steps ≠ [] →
      t.validate = .ok ()) ∧
    (∀ t u : Scenario, s.validate = .ok () → t.validate = .ok () →
      u.steps = s.steps ++ t.steps → u.validate = .ok ()) := by
  refine ⟨validate_eq_ok_iff s, validate_eq_error_iff s, ?_, ?_⟩
  · rintro t hs ⟨cut, hcut⟩ hsteps
    have hwell := ((validate_eq_ok_iff s).mp hs).2
    rw [← hcut] at hwell
    exact (validate_eq_ok_iff t).mpr ⟨hsteps, (wellFormed_append.mp hwell).1⟩
  · intro t u hs ht hu
    obtain ⟨hsteps, hwell⟩ := (validate_eq_ok_iff s).mp hs
    obtain ⟨-, hmore⟩ := (validate_eq_ok_iff t).mp ht
    refine (validate_eq_ok_iff u).mpr ⟨?_, ?_⟩
    · rw [hu]
      exact List.append_ne_nil_of_left_ne_nil hsteps _
    · rw [hu]
      exact wellFormed_append.mpr ⟨hwell, hmore.mono (List.nil_subset _)⟩

/-- A chart is opened and registered, and then the session starts all over again. -/
theorem accepted_chart_again :
    let s : Scenario := {
      name := "chart"
      steps := [.openSatellite "chart" none (some ⟨400, 300⟩), .register "chart",
        .dispatchEvent "tick" .null] }
    let t : Scenario := { name := "start", steps := s.steps.take 1 }
    let u : Scenario := { name := "again", steps := s.steps ++ t.steps }
    s.validate = .ok () ∧ t.steps <+: s.steps ∧ t.steps ≠ [] ∧ t.validate = .ok () ∧
      u.validate = .ok () := by
  intro s t u
  have hs : s.validate = .ok () := by decide +kernel
  have hprefix : t.steps <+: s.steps := List.take_prefix 1 s.steps
  have hsteps : t.steps ≠ [] := List.cons_ne_nil _ _
  obtain ⟨-, -, hcut, hjoined⟩ := validate_first_flaw s
  have ht := hcut t hs hprefix hsteps
  exact ⟨hs, hprefix, hsteps, ht, hjoined t u hs ht rfl⟩

-- the second step is blamed for its window, not the third for its name
example : validate { name := "late", steps := [.openSatellite "chart" none none, .register "map",
      .dispatchCommand ""] } = .error (.neverOpened 2 "register" "map") := by
  decide +kernel

end Scenario

end SatelliteWindows
