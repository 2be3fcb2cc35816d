import SatelliteWindows.Proofs.Scenario.Lockstep

/-!
# On what occasion a step is reached

A step is reached in a turn of the script, at the beginning of a round. Two runs whose steps differ
from some point on go on in step until both reach that point, on the same occasion; or else the same
comes of them, since the steps before it were never finished.

The runs are without interruption.
-/

namespace SatelliteWindows

/-- A step that was reached, and the run as it was at the beginning of that round. -/
abbrev Occasion : Type := Step × Run

namespace Run

/-- The occasions on which steps are reached in rounds. -/
def roundsOccasions : Nat → Run → List Occasion
  | 0, _ => []
  | n + 1, r =>
    if r.heardOut then [] else (r.roundReaches.map fun x => (x.1, r)) ++ roundsOccasions n r.round

end Run

/-- The occasions on which a run reaches its steps. -/
def Scenario.occasions (settings : Settings) (s : Scenario) : List Occasion :=
  (Run.start settings s none).roundsOccasions (Run.bound settings s)

namespace Run

variable {capacity width slots d ahead : Nat} {t t' : List Step} {r r' : Run}

/-- Two scripts are at the same as long as steps of a list remain, of which some were not reached
yet. -/
inductive Nears (d : Nat) (t t' : List Step) (ahead : Nat) (r r' : Run) : Prop where
  /-- They have not begun. -/
  | fresh (l : List Step) (echoes : Echoes d (l ++ t) (l ++ t') r r') (hold : r.script.hold = .free)
      (count : l.length = ahead)
  /-- They are at one of these steps. -/
  | begun (s : Step) (rest : List Step)
      (echoes : Echoes d (s :: (rest ++ t)) (s :: (rest ++ t')) r r')
      (hold : r.script.hold ≠ .free) (count : rest.length = ahead)

namespace Nears

/-- What does not concern the scripts leaves them where they are. -/
theorem keep {u u' : Run} (h : Nears d t t' ahead r r')
    (hkeeps : ∀ l l', Echoes d l l' r r' → Echoes d l l' u u')
    (hold : u.script.hold = .free ↔ r.script.hold = .free) : Nears d t t' ahead u u' := by
  cases h with
  | fresh l echoes hfree count => exact .fresh l (hkeeps _ _ echoes) (hold.mpr hfree) count
  | begun s rest echoes hbegun count =>
    exact .begun s rest (hkeeps _ _ echoes) (mt hold.mp hbegun) count

/-- Runs that near the same steps are abreast. -/
theorem abreast (h : Nears d t t' ahead r r') : Abreast d r r' := by
  cases h with
  | fresh l echoes => exact echoes.toAbreast
  | begun s rest echoes => exact echoes.toAbreast

/-- What comes of the scripts' turns. -/
theorem goOn (h : Nears d t t' ahead r r') :
    Passage d t t' ahead r r' r.goOnReaches r.goOn r'.goOn := by
  cases h with
  | fresh l echoes hfree count => exact count ▸ echoes.goOn_of_free hfree
  | begun s rest echoes hbegun count => exact count ▸ echoes.goOn_of_begun hbegun

end Nears

/-- The steps that are reached in the script's turn, if it is awake. -/
def scriptReaches (r : Run) : List Encounter :=
  if r.turns.scriptAwake then
    { r with turns := { r.turns with scriptAwake := false } }.goOnReaches
  else []

/-- Others reach no steps. -/
theorem Orderly.takeTurnsReaches_eq_nil (h : Orderly capacity width slots r) (n : Nat) :
    r.takeTurnsReaches n = [] := by
  induction n generalizing r with
  | zero => rfl
  | succ n ih =>
    unfold takeTurnsReaches
    cases hqueue : r.turns.queue with
    | nil => rfl
    | cons p rest =>
      have hp : p ≠ .script := fun hp => h.punctual.queue (by
        rw [hqueue, hp]
        exact List.mem_cons_self)
      have hnone : ∀ u : Run, u.turnReaches p = [] := fun u => by
        cases p with
        | script => exact absurd rfl hp
        | _ => rfl
      dsimp only
      rw [hnone, ih (h.turn hqueue).2]
      rfl

/-- In a round steps are taken in the script's turn only. -/
theorem Orderly.roundReaches_eq (h : Orderly capacity width slots r) :
    r.roundReaches = r.scriptReaches := by
  unfold roundReaches
  rw [h.scriptTurn.takeTurnsReaches_eq_nil]
  exact List.append_nil _

/-- The script has begun, or it has not; others have no part in it. -/
theorem Orderly.free_takeTurns (h : Orderly capacity width slots r) (n : Nat) :
    (r.takeTurns n).script.hold = .free ↔ r.script.hold = .free := by
  refine h.takeTurns_induction (motive := fun u => u.script.hold = .free ↔ r.script.hold = .free)
    (fun ho hqueue hu => ?_) Iff.rfl n
  rcases ho.script_turn hqueue with hsame | ⟨answer, hasked, hanswered⟩
  · rw [hsame]
    exact hu
  · rw [hasked] at hu
    rw [hanswered]
    exact ⟨nofun, fun hfree => absurd (hu.mpr hfree) nofun⟩

/-- Two scripts have come to the steps behind a list: this is the occasion, and this is how far
their turns have come. -/
structure Arrives (d : Nat) (t t' : List Step) (o o' : Run) (n : Nat) (y y' : Run) : Prop where
  /-- The script of the one takes its steps. -/
  goes : o.scriptTurn = y.proceed n t
  /-- So does that of the other. -/
  goes' : o'.scriptTurn = y'.proceed n t'
  /-- The runs are abreast. -/
  abreast : Abreast d y y'
  /-- Since the beginning of the round, the one script has changed the desktop at most. -/
  onward : Onward { o with turns := { o.turns with scriptAwake := false } } y
  /-- The other has not done more. -/
  onward' : Onward { o' with turns := { o'.turns with scriptAwake := false } } y'
  /-- Before these steps, it may have reached some of the list. -/
  seen : ∃ first, o.scriptReaches = first ++ y.proceedReaches n t

/-- What comes of a round: the scripts near the steps behind, or they are over, or they arrive. -/
theorem Nears.scriptTurn (h : Nears d t t' ahead r r') :
    (∃ ahead', Nears d t t' ahead' r.scriptTurn r'.scriptTurn ∧
        r.scriptReaches.length + ahead' = ahead) ∨
      Echoes d [] [] r.scriptTurn r'.scriptTurn ∨
      ∃ n y y' first, Arrives d t t' r r' n y y' ∧
        r.scriptReaches = first ++ y.proceedReaches n t ∧ first.length = ahead := by
  unfold Run.scriptTurn scriptReaches
  rw [h.abreast.script.awake]
  by_cases hawake : r.turns.scriptAwake = true
  · rw [if_pos hawake, if_pos hawake, if_pos hawake]
    have hcalm : Nears d t t' ahead { r with turns := { r.turns with scriptAwake := false } }
        { r' with turns := { r'.turns with scriptAwake := false } } := by
      refine h.keep (fun l l' he => he.keep { he.toInStep with turns := ?_ } rfl rfl ?_) Iff.rfl
      · exact ⟨he.turns.queue, he.turns.resting⟩
      · exact ⟨rfl, he.script.rests⟩
    cases hcalm.goOn with
    | stays s rest echoes hold reached =>
      exact .inl ⟨rest.length, .begun s rest echoes hold rfl, reached⟩
    | ended echoes => exact .inr (.inl echoes)
    | comes n y y' first goes goes' abreast onward onward' seen reached =>
      refine .inr (.inr ⟨n, y, y', first, ⟨?_, ?_, abreast, onward, onward', first, ?_⟩, seen,
        reached⟩)
      · unfold Run.scriptTurn
        rw [if_pos hawake]
        exact goes
      · unfold Run.scriptTurn
        rw [if_pos (h.abreast.script.awake.trans hawake)]
        exact goes'
      · unfold scriptReaches
        rw [if_pos hawake]
        exact seen
  · rw [if_neg hawake, if_neg hawake, if_neg hawake]
    exact .inl ⟨ahead, h, Nat.zero_add _⟩

/-- Behind the script's turn, a round is the others' affair. -/
theorem Nears.round (h : Nears d t t' ahead r.scriptTurn r'.scriptTurn)
    (ho : Orderly capacity width slots r) (ho' : Orderly capacity width slots r') :
    (r.round.heardOut = true ∧ r'.round.heardOut = true ∧ r'.round.upshot = r.round.upshot) ∨
      Nears d t t' ahead r.round r'.round := by
  have hturns := (h.abreast.toInStep.takeTurns ho.scriptTurn ho'.scriptTurn Turns.perRound).echoes
  have hnears := h.keep hturns (ho.scriptTurn.free_takeTurns Turns.perRound)
  rcases hnears.abreast.round_cases rfl rfl with
    hover | ⟨hlull, hheard, hround, hround'⟩ | ⟨hround, hround'⟩
  · exact .inl hover
  · rw [hround, hround']
    have hmid := ho.scriptTurn.takeTurns Turns.perRound
    refine .inr (hnears.keep (fun l l' he => he.passTime hmid
      (ho'.scriptTurn.takeTurns Turns.perRound) hlull hheard) ?_)
    obtain ⟨moment, hlull'⟩ := hmid.lull hlull hheard
    obtain ⟨time, hpass, -⟩ := hlull'.passTime hmid.punctual.sleeping
    rw [hpass]
    exact Iff.rfl
  · rw [hround, hround']
    exact .inr (hnears.keep (fun l l' he => he.toInStep.wakeResting.echoes _ _ he) Iff.rfl)

/-- The same comes of runs with different steps behind some, unless they come to these steps. -/
theorem Nears.arrives {s : Step} (h : Nears d (s :: t) t' ahead r r')
    (ho : Orderly capacity width slots r) (ho' : Orderly capacity width slots r') {n : Nat}
    (hn : (r.rounds n).heardOut = true) : EndsLike r r' ∨
      ∃ o o' m y y', Leads r o ∧ Leads r' o' ∧ Orderly capacity width slots o ∧
        Orderly capacity width slots o' ∧ o.heardOut = false ∧
        Arrives d (s :: t) t' o o' m y y' ∧ (r.roundsOccasions n)[ahead]? = some (s, o) := by
  induction n generalizing ahead r r' with
  | zero => exact .inl ⟨r.upshot, comesTo_of_heardOut hn,
      h.abreast.upshot_eq ▸ comesTo_of_heardOut (h.abreast.heardOut.trans hn)⟩
  | succ n ih =>
    cases hheard : r.heardOut with
    | true => exact .inl ⟨r.upshot, comesTo_of_heardOut hheard,
        h.abreast.upshot_eq ▸ comesTo_of_heardOut (h.abreast.heardOut.trans hheard)⟩
    | false =>
      have hheard' := h.abreast.heardOut.trans hheard
      have hleads := leads_of_round hheard rfl
      have hleads' := leads_of_round hheard' rfl
      have hoccasions : r.roundsOccasions (n + 1) =
          (r.scriptReaches.map fun x => (x.1, r)) ++ r.round.roundsOccasions n := by
        rw [← ho.roundReaches_eq, roundsOccasions]
        exact if_neg (by rw [hheard]; exact Bool.false_ne_true)
      rw [rounds_succ hheard] at hn
      -- the steps are come to in the script's turn of this round, in a later round or not at all
      rcases h.scriptTurn with ⟨ahead', hscript, hcount⟩ | hover |
          ⟨m, y, y', first, harrives, hseen, hcount⟩
      · rcases hscript.round ho ho' with ⟨hover, hover', hupshot⟩ | hround
        · exact .inl (EndsLike.of_leads ⟨_, comesTo_of_heardOut hover,
            hupshot ▸ comesTo_of_heardOut hover'⟩ hleads hleads')
        · rcases ho.round with hover | hround'
          · exact .inl (EndsLike.of_leads ⟨_, comesTo_of_heardOut hover, hround.abreast.upshot_eq ▸
              comesTo_of_heardOut (hround.abreast.heardOut.trans hover)⟩ hleads hleads')
          · rcases ho'.round with hover | hround''
            · exact .inl (EndsLike.of_leads
                ⟨_, comesTo_of_heardOut (hround.abreast.heardOut.symm.trans hover),
                  hround.abreast.upshot_eq ▸ comesTo_of_heardOut hover⟩ hleads hleads')
            · rcases ih hround hround' hround'' hn with hends |
                ⟨o, o', m, y, y', hr, hr', hoo, hoo', ho_heard, harrives, hmem⟩
              · exact .inl (hends.of_leads hleads hleads')
              · refine .inr ⟨o, o', m, y, y', hleads.trans hr, hleads'.trans hr', hoo, hoo',
                  ho_heard, harrives, ?_⟩
                -- what this round has passed is no longer ahead of the later ones
                rw [hoccasions, List.getElem?_append_right (by rw [List.length_map]; omega),
                  List.length_map]
                have hindex : ahead - r.scriptReaches.length = ahead' := by omega
                rw [hindex]
                exact hmem
      · refine .inl (EndsLike.of_leads (hover.endsLike ho.scriptTurn ho'.scriptTurn)
          (leads_scriptTurn hheard) (leads_scriptTurn hheard'))
      · refine .inr ⟨r, r', m, y, y', .refl r, .refl r', ho, ho', hheard, harrives, ?_⟩
        have hfirst : (r.scriptReaches.map fun x => (x.1, r))[ahead]? = some (s, r) := by
          rw [List.getElem?_map, hseen, List.getElem?_append_right (by omega), hcount, Nat.sub_self]
          rfl
        rw [hoccasions, List.getElem?_append_left, hfirst]
        exact (List.getElem?_eq_some_iff.mp hfirst).1

end Run

end SatelliteWindows
