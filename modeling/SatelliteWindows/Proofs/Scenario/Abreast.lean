import SatelliteWindows.Proofs.Scenario.Encounters
import SatelliteWindows.Proofs.Scenario.InStep

/-!
# Scripts abreast

Two scripts that have the same steps to do go on in step as well. When their steps differ from some
point on, they do so until both have come to that point.

The runs are without interruption.
-/

namespace SatelliteWindows.Run

variable {d : Nat} {l l' t t' : List Step} {r r' : Run}

/-! ## What a script does in its turn -/

/-- Runs that are abreast remain so whatever their scripts wait for. -/
theorem Abreast.hold (h : Abreast d r r') (hold hold' : Hold) :
    Abreast d (r.hold hold) (r'.hold hold') :=
  { h with toInStep := { h.toInStep with }, agrees := { h.agrees with } }

/-- They remain so whichever steps are left. -/
theorem Abreast.setSteps (h : Abreast d r r') (l l' : List Step) :
    Abreast d { r with script := { r.script with steps := l } }
      { r' with script := { r'.script with steps := l' } } :=
  { h with toInStep := { h.toInStep with }, agrees := { h.agrees with } }

/-- They remain so whatever is written down of their steps. -/
theorem Abreast.record (h : Abreast d r r') (s s' : Step) (outcome outcome' : String)
    (l l' : List Step) : Abreast d (r.record s outcome l) (r'.record s' outcome' l') :=
  { h with toInStep := { h.toInStep with }, agrees := { h.agrees with } }

/-- They remain so if the same step fails in both for the same reason. -/
theorem Abreast.fail (h : Abreast d r r') (s : Step) (cause : StepFault) :
    Abreast d (r.fail s cause) (r'.fail s cause) :=
  { h with toInStep := { h.toInStep with }, agrees := { h.agrees with fault := rfl } }

/-- They remain so if the same is done to both desktops. -/
theorem Abreast.alterDesktop (h : Abreast d r r') (f : Simulation → Simulation) :
    Abreast d (r.alterDesktop f) (r'.alterDesktop f) := by
  refine { h with toInStep := { h.toInStep with coordinator := ?_ } }
  unfold Run.alterDesktop
  dsimp only
  rw [h.coordinator]
  rfl

/-- They remain so if both scripts rest. -/
theorem Abreast.rest (h : Abreast d r r') : Abreast d (r.rest .script) (r'.rest .script) := by
  refine { h with toInStep := { h.toInStep with turns := ⟨h.turns.queue, ?_⟩ }, script := ?_ }
  · show ((r'.turns.rest .script).resting.filter _) =
        ((r.turns.rest .script).resting.filter _).map _
    rw [Turns.resting_rest_script, Turns.resting_rest_script, h.turns.resting]
  · exact ⟨h.script.awake, by simp [Run.rest, Turns.rest]⟩

/-- Both scripts find a place for a letter of theirs, or neither does. -/
theorem Abreast.send (h : Abreast d r r') (letter : Letter) (hletter : letter.later d = letter) :
    ∃ placed u u', r.send .script letter = (placed, u) ∧ r'.send .script letter = (placed, u') ∧
      Abreast d u u' ∧ u.script = r.script ∧ u'.script = r'.script := by
  obtain ⟨hsent, hstep⟩ := h.toInStep.send .script letter
  rw [hletter] at hsent hstep
  refine ⟨(r.send .script letter).1, (r.send .script letter).2, (r'.send .script letter).2, rfl,
    Prod.ext hsent rfl, ⟨hstep, ?_, ?_⟩, script_send _ _ r, script_send _ _ r'⟩
  · exact (sameScript_send _ _ r).symm.trans (h.script.trans (sameScript_send _ _ r'))
  · rw [script_send, script_send]
    exact h.agrees

/-- Both scripts wait for the same, and their steps are as they are. -/
theorem Abreast.echoes (h : Abreast d r r') (hold : Hold) (hhold : r.script.hold = hold)
    (hhold' : r'.script.hold = hold.later d) (steps : r.script.steps = l)
    (steps' : r'.script.steps = l') : Echoes d l l' r r' :=
  ⟨h, by rw [hhold', hhold], steps, steps'⟩

/-- Scripts that make the same request wait for the same. -/
theorem Abreast.request (h : Abreast d r r') (req : Request) (n : Nat) (steps : r.script.steps = l)
    (steps' : r'.script.steps = l') :
    Echoes d l l' (r.request req n) (r'.request req n) ∧ (r.request req n).script.hold ≠ .free := by
  cases n with
  | zero => exact ⟨(h.hold _ _).rest.echoes (.place req) rfl rfl steps steps', (Hold.noConfusion ·)⟩
  | succ n =>
    obtain ⟨placed, u, u', hsend, hsend', hstep, hu, hu'⟩ := h.send (.request .script req)
      rfl
    rw [← hu] at steps
    rw [← hu'] at steps'
    simp only [Run.request, hsend, hsend']
    cases placed with
    | false =>
      exact ⟨(hstep.hold _ _).echoes (.place req) rfl rfl steps steps', (Hold.noConfusion ·)⟩
    | true =>
      have hasked := hstep.hold (.answer none) (.answer none)
      dsimp only
      split
      · exact ⟨hasked.rest.echoes (.answer none) rfl rfl steps steps', (Hold.noConfusion ·)⟩
      · exact ⟨hasked.echoes (.answer none) rfl rfl steps steps', (Hold.noConfusion ·)⟩

/-- Scripts that send their last letter wait for the same. -/
theorem Abreast.leave (h : Abreast d r r') (steps : r.script.steps = l)
    (steps' : r'.script.steps = l') : Echoes d l l' r.leave r'.leave := by
  obtain ⟨placed, u, u', hsend, hsend', hstep, hu, hu'⟩ := h.send .farewell rfl
  rw [← hu] at steps
  rw [← hu'] at steps'
  simp only [Run.leave, hsend, hsend']
  cases placed with
  | false => exact (hstep.hold _ _).echoes .farewell rfl rfl steps steps'
  | true => exact (hstep.hold _ _).echoes .ending rfl rfl steps steps'

/-- So do scripts that leave. -/
theorem Abreast.part (h : Abreast d r r') (steps : r.script.steps = l)
    (steps' : r'.script.steps = l') : Echoes d l l' r.part r'.part := by
  unfold Run.part
  rw [h.watcher]
  split
  · exact h.leave steps steps'
  · exact (h.hold _ _).echoes .watcher rfl rfl steps steps'

/-- So do scripts that dismiss the watcher. -/
theorem Abreast.dismiss (h : Abreast d r r') (steps : r.script.steps = l)
    (steps' : r'.script.steps = l') : Echoes d l l' r.dismiss.part r'.dismiss.part := by
  unfold Run.dismiss
  rw [h.watcher]
  split
  · exact h.part steps steps'
  · have hdismissed : Abreast d
        ({ r with watcher := { r.watcher with dismissed := true } }.wake .watcher)
        ({ r' with watcher := { r.watcher with dismissed := true } }.wake .watcher) :=
      { h with
        toInStep := { h.toInStep with watcher := rfl, turns := h.turns.wake .watcher }
        script := h.script.wake .watcher }
    exact hdismissed.part steps steps'

/-- Scripts that look at the windows find the same. -/
theorem Abreast.conclude (h : Abreast d r r') (m : Metrics) :
    Abreast d (r.conclude m) (r'.conclude m) := by
  have hdesktop : r'.desktop = r.desktop := by
    unfold desktop
    rw [h.coordinator]
    rfl
  refine { h with
    toInStep := { h.toInStep with }
    agrees := { h.agrees with metrics := rfl, satellites := ?_ } }
  unfold Run.conclude
  dsimp only
  rw [hdesktop]

/-- A run goes on as far as the script, by what it does of its own accord. -/
def Onward (r y : Run) : Prop :=
  ∃ world script, y = { r with
    coordinator := { r.coordinator with scene := { r.coordinator.scene with world := world } }
    script := script }

/-- A script that has not moved is where it was. -/
theorem Onward.refl (r : Run) : Onward r r := ⟨_, _, rfl⟩

/-- A script that has gone on twice has gone on. -/
theorem Onward.trans {x y : Run} (h : Onward r x) (h' : Onward x y) : Onward r y := by
  obtain ⟨_, _, rfl⟩ := h
  obtain ⟨_, _, rfl⟩ := h'
  exact ⟨_, _, rfl⟩

/-- What comes of the turns of two scripts that are at the same as long as steps of a list remain,
`ahead` of which were not reached yet. -/
inductive Passage (d : Nat) (t t' : List Step) (ahead : Nat) (r r' : Run) (seen : List Encounter)
    (u u' : Run) : Prop where
  /-- They are at one of these steps. -/
  | stays (s : Step) (rest : List Step) (echoes : Echoes d (s :: rest ++ t) (s :: rest ++ t') u u')
      (hold : u.script.hold ≠ .free) (reached : seen.length + rest.length = ahead)
  /-- One of the steps has failed, or there were no others. -/
  | ended (echoes : Echoes d [] [] u u')
  /-- They come to the steps behind. -/
  | comes (n : Nat) (y y' : Run) (first : List Encounter) (goes : u = y.proceed n t)
      (goes' : u' = y'.proceed n t') (abreast : Abreast d y y') (onward : Onward r y)
      (onward' : Onward r' y') (seen : seen = first ++ y.proceedReaches n t)
      (reached : first.length = ahead)

/-- A passage that others have led to is a passage from there. -/
theorem Passage.later {ahead : Nat} {seen : List Encounter} {x x' u u' : Run}
    (h : Passage d t t' ahead x x' seen u u') (hr : Onward r x) (hr' : Onward r' x')
    (reached : List Encounter) :
    Passage d t t' (reached.length + ahead) r r' (reached ++ seen) u u' := by
  cases h with
  | stays s rest echoes hold count =>
    exact .stays s rest echoes hold (by rw [List.length_append, Nat.add_assoc, count])
  | ended echoes => exact .ended echoes
  | comes n y y' first goes goes' abreast onward onward' hseen count =>
    exact .comes n y y' (reached ++ first) goes goes' abreast (hr.trans onward) (hr'.trans onward')
      (by rw [hseen, List.append_assoc]) (by rw [List.length_append, count])

/-- The script at a step. -/
theorem proceed_cons (n : Nat) (s : Step) (rest : List Step) (r : Run) :
    r.proceed n (s :: rest) =
      let begun : Run := { r with script := { r.script with steps := s :: rest } }
      match s.deed r.script.defaultSize r.desktop with
      | .error cause => (begun.fail s cause).request .metrics n
      | .ok (.ask req) => begun.request req n
      | .ok (.change f) =>
        ((begun.alterDesktop f).record s (s.outcome .done) rest).proceed n rest
      | .ok (.pause ms) =>
        let paused := begun.hold (.moment (r.clock + delay ms))
        match n with
        | 0 => paused.rest .script
        | n + 1 =>
          if ms = 0 then (paused.record s (s.outcome .done) rest).proceed n rest else paused := rfl

/-- Scripts that take the same steps come to wait for the same, or they come to the steps behind. -/
theorem Abreast.proceed (h : Abreast d r r') (n : Nat) (l t t' : List Step) :
    Passage d t t' l.length r r' (r.proceedReaches n (l ++ t)) (r.proceed n (l ++ t))
      (r'.proceed n (l ++ t')) := by
  induction l generalizing n r r' with
  | nil => exact .comes n r r' [] rfl rfl h (.refl r) (.refl r') rfl rfl
  | cons s rest ih =>
    have hbegun := h.setSteps (s :: (rest ++ t)) (s :: (rest ++ t'))
    have hdeed : s.deed r'.script.defaultSize r'.desktop =
        s.deed r.script.defaultSize r.desktop := by
      rw [h.agrees.defaultSize, desktop, h.coordinator]
      rfl
    have hgone : ∀ {x x' : Run} (m : Nat), Abreast d x x' → Onward r x → Onward r' x' →
        Passage d t t' (rest.length + 1) r r'
          ((s, r.desktop) :: x.proceedReaches m (rest ++ t)) (x.proceed m (rest ++ t))
          (x'.proceed m (rest ++ t')) := fun m hx hr hr' => by
      have hrest := (ih hx m).later hr hr' [(s, r.desktop)]
      rwa [List.length_singleton, Nat.add_comm] at hrest
    have hstays : ∀ {u u' : Run}, Echoes d (s :: (rest ++ t)) (s :: (rest ++ t')) u u' →
        u.script.hold ≠ .free →
          Passage d t t' (rest.length + 1) r r' [(s, r.desktop)] u u' := fun he hhold =>
      .stays s rest he hhold (Nat.add_comm _ _)
    rw [List.cons_append, List.cons_append, proceed_cons, proceed_cons, hdeed, proceedReaches,
      List.length_cons]
    dsimp only
    -- a step ends both runs, stays with both, or is done in both and leaves the rest of `l`
    cases s.deed r.script.defaultSize r.desktop with
    | error cause =>
      exact .ended ((hbegun.fail s cause).request .metrics n rfl rfl).1
    | ok deed =>
      cases deed with
      | ask req =>
        obtain ⟨hechoes, hhold⟩ := hbegun.request req n rfl rfl
        exact hstays hechoes hhold
      | change f =>
        exact hgone n ((hbegun.alterDesktop f).record s s _ _ _ _) ⟨_, _, rfl⟩ ⟨_, _, rfl⟩
      | pause ms =>
        have hpaused := hbegun.hold (.moment (r.clock + delay ms)) (.moment (r'.clock + delay ms))
        have hmoment : Hold.moment (r'.clock + delay ms) =
            (Hold.moment (r.clock + delay ms)).later d := by
          rw [h.clock, Hold.later, Nat.add_right_comm]
        cases n with
        | zero =>
          exact hstays (hpaused.rest.echoes (.moment (r.clock + delay ms)) rfl hmoment rfl rfl)
            nofun
        | succ n =>
          dsimp only
          by_cases hms : ms = 0
          · rw [if_pos hms, if_pos hms, if_pos hms]
            exact hgone n (hpaused.record s s _ _ _ _) ⟨_, _, rfl⟩ ⟨_, _, rfl⟩
          · rw [if_neg hms, if_neg hms, if_neg hms]
            exact hstays (hpaused.echoes (.moment (r.clock + delay ms)) rfl hmoment rfl rfl)
              nofun

/-- When the step at work is finished in both runs, the steps that both have pass in both. -/
theorem Echoes.finishStep {s : Step} {rest : List Step}
    (h : Echoes d (s :: (rest ++ t)) (s :: (rest ++ t')) r r') (answer : Answer) :
    Passage d t t' rest.length r r' (r.finishReaches answer) (r.finishStep answer)
      (r'.finishStep answer) := by
  unfold Run.finishStep finishReaches
  rw [h.steps, h.steps']
  have hrecorded := h.toAbreast.record s s (s.outcome answer) (s.outcome answer) (rest ++ t)
    (rest ++ t')
  have hpassage :=
    (hrecorded.proceed (Turns.allowance - 1) rest t t').later ⟨_, _, rfl⟩ ⟨_, _, rfl⟩ []
  rwa [List.length_nil, Nat.zero_add, List.nil_append] at hpassage

/-- When the script leaves, it has begun. -/
theorem hold_part_ne_free (r : Run) : r.part.script.hold ≠ .free := by
  obtain ⟨letters, hold, hhalts, hwhich⟩ := halts_part r
  rw [hhalts.script]
  rcases hwhich with ⟨-, rfl | rfl⟩ | ⟨-, rfl⟩ <;> exact nofun

/-- A script that sends its last letter waits for something. -/
theorem hold_leave_ne_free (r : Run) : r.leave.script.hold ≠ .free := by
  obtain ⟨letters, hold, hhalts, hwhich⟩ := halts_leave r
  rw [hhalts.script]
  rcases hwhich with ⟨-, rfl⟩ | ⟨-, rfl⟩ <;> exact nofun

/-- Scripts that have not begun come to the first step. -/
theorem Echoes.goOn_of_free (h : Echoes d (l ++ t) (l ++ t') r r') (hfree : r.script.hold = .free) :
    Passage d t t' l.length r r' r.goOnReaches r.goOn r'.goOn := by
  have hfree' : r'.script.hold = .free := by rw [h.hold, hfree]; rfl
  unfold goOnReaches Run.goOn
  rw [hfree, hfree', h.steps, h.steps']
  exact h.toAbreast.proceed _ l t t'

/-- Scripts that are at the same step go on in step. -/
theorem Echoes.goOn_of_begun {s : Step} {rest : List Step}
    (h : Echoes d (s :: (rest ++ t)) (s :: (rest ++ t')) r r') (hbegun : r.script.hold ≠ .free) :
    Passage d t t' rest.length r r' r.goOnReaches r.goOn r'.goOn := by
  have hstays : ∀ {u u' : Run}, Echoes d (s :: (rest ++ t)) (s :: (rest ++ t')) u u' →
      u.script.hold ≠ .free → Passage d t t' rest.length r r' [] u u' := fun he hhold =>
    .stays s rest he hhold (Nat.zero_add _)
  have hhold' := h.hold
  unfold goOnReaches Run.goOn
  cases hhold : r.script.hold with
  | free => exact absurd hhold hbegun
  | place req =>
    rw [hhold] at hhold'
    rw [hhold']
    obtain ⟨hechoes, hwaits⟩ := h.toAbreast.request req Turns.allowance h.steps h.steps'
    exact hstays hechoes hwaits
  | answer given =>
    rw [hhold] at hhold'
    rw [hhold']
    cases given with
    | none => exact hstays h hbegun
    | some answer =>
      dsimp only [Hold.later]
      unfold Run.resume
      rw [h.steps, h.steps']
      cases answer with
      | ok a => exact h.finishStep a
      | error f =>
        exact .ended ((h.toAbreast.fail s (.refused f)).request .metrics _ rfl rfl).1
  | moment time =>
    rw [hhold] at hhold'
    rw [hhold', h.clock]
    dsimp only [Hold.later]
    by_cases htime : time ≤ r.clock
    · rw [if_pos htime, if_pos htime, if_pos (Nat.add_le_add_right htime d)]
      exact h.finishStep .done
    · rw [if_neg htime, if_neg htime, if_neg (by omega)]
      exact hstays h hbegun
  | watcher =>
    rw [hhold] at hhold'
    rw [hhold']
    exact hstays (h.toAbreast.part h.steps h.steps') (hold_part_ne_free r)
  | farewell =>
    rw [hhold] at hhold'
    rw [hhold']
    exact hstays (h.toAbreast.leave h.steps h.steps') (hold_leave_ne_free r)
  | ending =>
    rw [hhold] at hhold'
    rw [hhold']
    exact hstays h hbegun

/-- Scripts that have no steps left go on in step. -/
theorem Echoes.goOn_of_over (h : Echoes d [] [] r r') : Echoes d [] [] r.goOn r'.goOn := by
  have hhold' := h.hold
  unfold Run.goOn
  cases hhold : r.script.hold with
  | free =>
    rw [hhold] at hhold'
    rw [hhold', h.steps, h.steps']
    exact ((h.toAbreast.setSteps [] []).request .metrics Turns.allowance rfl rfl).1
  | place req =>
    rw [hhold] at hhold'
    rw [hhold']
    exact (h.toAbreast.request req Turns.allowance h.steps h.steps').1
  | answer given =>
    rw [hhold] at hhold'
    rw [hhold']
    cases given with
    | none => exact h
    | some answer =>
      dsimp only [Hold.later]
      unfold Run.resume
      rw [h.steps, h.steps']
      split
      · exact (h.toAbreast.conclude _).dismiss h.steps h.steps'
      · exact h.toAbreast.dismiss h.steps h.steps'
      · next heq => cases heq
      · next heq => cases heq
  | moment time =>
    rw [hhold] at hhold'
    have hstill : ∀ {x : Run}, x.script.steps = [] → x.finishStep .done = x := fun hx => by
      unfold Run.finishStep
      rw [hx]
    rw [hhold', hstill h.steps, hstill h.steps']
    dsimp only [Hold.later]
    rw [ite_self, ite_self]
    exact h
  | watcher =>
    rw [hhold] at hhold'
    rw [hhold']
    exact h.toAbreast.part h.steps h.steps'
  | farewell =>
    rw [hhold] at hhold'
    rw [hhold']
    exact h.toAbreast.leave h.steps h.steps'
  | ending =>
    rw [hhold] at hhold'
    rw [hhold']
    exact h

/-- Scripts behind a passage echo each other. -/
theorem Passage.echoes {ahead : Nat} {u u' : Run} {seen : List Encounter}
    (h : Passage d [] [] ahead r r' seen u u') : ∃ rest, Echoes d rest rest u u' := by
  cases h with
  | stays s rest echoes => exact ⟨_, echoes⟩
  | ended echoes => exact ⟨_, echoes⟩
  | comes n y y' first goes goes' abreast =>
    rw [goes, goes']
    exact ⟨_, ((abreast.setSteps [] []).request .metrics n rfl rfl).1⟩

/-- Scripts that take the same steps go on in step. -/
theorem Abreast.proceed_same (h : Abreast d r r') (n : Nat) (l : List Step) :
    ∃ rest, Echoes d rest rest (r.proceed n l) (r'.proceed n l) := by
  have hpassage := (h.proceed n l [] []).echoes
  rwa [List.append_nil] at hpassage

/-- Scripts that have the same steps to do go on in step. -/
theorem Echoes.goOn_same (h : Echoes d l l r r') : ∃ rest, Echoes d rest rest r.goOn r'.goOn := by
  have hnil : Echoes d (l ++ []) (l ++ []) r r' := by rwa [List.append_nil]
  by_cases hfree : r.script.hold = .free
  · exact (hnil.goOn_of_free hfree).echoes
  · cases l with
    | nil => exact ⟨[], h.goOn_of_over⟩
    | cons s rest => exact (hnil.goOn_of_begun hfree).echoes

end SatelliteWindows.Run
