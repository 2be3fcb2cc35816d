import Mathlib.Data.List.Basic
import SatelliteWindows.Proofs.Books.Metrics
import SatelliteWindows.Proofs.Household
import SatelliteWindows.Proofs.Office.Conduct

/-!
# The books of an office

Nobody can foretell who has the next turn in an office. Some things do not depend on it. What is
counted has been reported, as often as it is counted. And if nothing else is done to a simulated
desktop but that its windows are dealt with, then these are in order: the dead ones stay dead, only
the latest one of a satellite can be alive, and content was loaded as often as it was asked for.

All of that holds of every scene that is the work of some moves, and what a coordinator does in its
office can be played again as moves.
-/

namespace SatelliteWindows

namespace Office

variable {ρ σ : Type}

/-! ## Counts -/

section Counts

variable [DecidableEq ρ] [Desktop σ]

/-- Whoever has turns in whatever order: what a coordinator has counted was reported. -/
theorem reports_run (capacity : Nat) (orders : ρ → List Order) (isPatient : ρ → Bool)
    {c : Coordinator σ} (hu : c.scene.fleet.roster.Unique) (journal : c.scene.journal = [])
    (tally : c.scene.fleet.tally = {}) (acts : List (Act ρ σ)) :
    let o := (assemble capacity orders isPatient c).run acts
    o.coordinator.scene.journal.Reports o.coordinator.scene.fleet.tally := by
  intro o
  have hscene : o.coordinator.scene = c.scene.run (moves o.incidents) :=
    (conduct_run capacity orders isPatient c acts).scene
  rw [hscene]
  exact Scene.reports_run hu journal tally _

end Counts

/-! ## Windows -/

/-- If the desktop changes, then because something was done to a window, or to the desktop's ways of
answering. -/
def Act.IsDealing : Act ρ Simulation → Prop
  | .shift change => ∃ p : Dealing, p.move = .shift change
  | _ => True

/-- Posting a letter does nothing to the scene yet. -/
theorem moves_post [DecidableEq ρ] (l : Letter ρ) (o : Office ρ σ) :
    moves (o.post l).2.incidents = moves o.incidents := by
  unfold post
  split
  · show moves (o.incidents ++ .posted l :: l.receipt) = _
    rw [moves_append]
    show moves o.incidents ++ moves (l.receipt (σ := σ)) = _
    rw [moves_receipt, List.append_nil]
  · rfl

/-- Nor does a client's turn. -/
theorem moves_send [DecidableEq ρ] (p : ρ) (o : Office ρ σ) :
    moves (o.send p).incidents = moves o.incidents := by
  unfold send
  cases o.orders p with
  | nil => rfl
  | cons order rest =>
    have hpost := moves_post ⟨.client p, order⟩ o
    dsimp only
    split
    · exact (moves_append _ _).trans (List.append_nil _)
    · split
      · split <;> next heq => exact (congrArg (fun x => moves x.2.incidents) heq).symm.trans hpost
      · rfl

/-- Nor does an alarm's. -/
theorem moves_ring [DecidableEq ρ] (t : Timer) (o : Office ρ σ) :
    moves (o.ring t).incidents = moves o.incidents := by
  have hpost := moves_post (.ofAlarm t) o
  unfold ring
  split
  · split
    · rfl
    · split <;> next heq => exact (congrArg (fun x => moves x.2.incidents) heq).symm.trans hpost
  · rfl

/-- The coordinator carries out a request at most in a turn of its own. -/
theorem moves_work [Desktop σ] (o : Office ρ σ) :
    ∃ requests : List Request, moves o.work.incidents =
      moves o.incidents ++ requests.map Move.request := by
  unfold work
  split
  · split
    · exact ⟨[], (List.append_nil _).symm⟩
    · next l mailbox _ =>
      obtain ⟨sender, order⟩ := l
      cases order with
      | request r =>
        refine ⟨[r], (moves_append _ _).trans (congrArg (moves o.incidents ++ ·) ?_)⟩
        show Move.request r :: moves (Letter.answer _ ⟨sender, .request r⟩) = _
        rw [moves_answer]
        rfl
      | shutdown => exact ⟨[.mainWindowClosed], moves_append _ _⟩
  · split
    · exact ⟨[], (List.append_nil _).symm⟩
    · refine ⟨[], (moves_append _ _).trans (congrArg (moves o.incidents ++ ·) ?_)⟩
      exact moves_answers _ _

variable [DecidableEq ρ] {c : Coordinator Simulation}

/-- What a turn does to the scene is something that is dealt. -/
theorem moves_act {a : Act ρ Simulation} (h : a.IsDealing) (o : Office ρ Simulation) :
    ∃ ps : List Dealing, moves (o.act a).incidents = moves o.incidents ++ ps.map Dealing.move := by
  cases a with
  | send p => exact ⟨[], (moves_send p o).trans (List.append_nil _).symm⟩
  | ring t => exact ⟨[], (moves_ring t o).trans (List.append_nil _).symm⟩
  | pass ms => exact ⟨[], (List.append_nil _).symm⟩
  | work =>
    obtain ⟨requests, hmoves⟩ := moves_work o
    refine ⟨requests.map Dealing.ask, hmoves.trans ?_⟩
    rw [List.map_map]
    rfl
  | shift change =>
    obtain ⟨p, hp⟩ := h
    refine ⟨[p], (moves_append _ _).trans (congrArg (moves o.incidents ++ ·) ?_)⟩
    rw [List.map_singleton, hp]
    rfl

/-- Whoever has turns, all that is done to the scene is dealt. -/
theorem moves_run {acts : List (Act ρ Simulation)} (h : ∀ a ∈ acts, a.IsDealing)
    (o : Office ρ Simulation) :
    ∃ ps : List Dealing, moves (o.run acts).incidents =
      moves o.incidents ++ ps.map Dealing.move := by
  induction acts generalizing o with
  | nil => exact ⟨[], (List.append_nil _).symm⟩
  | cons a rest ih =>
    obtain ⟨first, hfirst⟩ := moves_act (h a List.mem_cons_self) o
    obtain ⟨later, hlater⟩ := ih (fun b hb => h b (List.mem_cons_of_mem a hb)) (o.act a)
    refine ⟨first ++ later, hlater.trans ?_⟩
    rw [hfirst, List.map_append, List.append_assoc]

/-- Whoever has turns in whatever order: if the desktop was empty at first and nothing else is done
to it than is dealt, its windows are in order from some moment to another. -/
theorem inOrder_run (capacity : Nat) (orders : ρ → List Order) (isPatient : ρ → Bool)
    (hempty : c.scene.world.Household [] []) {earlier later : List (Act ρ Simulation)}
    (hearlier : ∀ a ∈ earlier, a.IsDealing) (hlater : ∀ a ∈ later, a.IsDealing) :
    let o := (assemble capacity orders isPatient c).run earlier
    ∃ ps : List Dealing, moves o.incidents = ps.map Dealing.move ∧
      Scene.InOrder (c.scene.madeIn ps) (c.scene.heededIn ps) o.coordinator.scene
        (o.run later).coordinator.scene := by
  intro o
  obtain ⟨ps, hps⟩ := moves_run hearlier (assemble capacity orders isPatient c)
  obtain ⟨qs, hqs⟩ := moves_run hlater o
  have hconduct : Conduct c o := conduct_run capacity orders isPatient c earlier
  have hscene : o.coordinator.scene = c.scene.dealings ps := by
    rw [hconduct.scene, hps]
    rfl
  have hend : (o.run later).coordinator.scene = o.coordinator.scene.dealings qs := by
    rw [(hconduct.run later).scene, hqs, Scene.run_append, ← hconduct.scene]
    rfl
  refine ⟨ps, hps, ?_⟩
  rw [hend, hscene]
  exact Scene.inOrder_dealings (Scene.household_dealings ps c.scene hempty) qs

end Office

end SatelliteWindows
