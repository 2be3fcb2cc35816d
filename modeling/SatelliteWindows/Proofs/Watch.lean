import SatelliteWindows.Proofs.Delivery
import SatelliteWindows.Proofs.View

/-!
# Watching a window

To say that a window stays alive and takes every message throughout a run, the desktop is watched:
it remembers whether the window was ever found dead and whether it ever refused a message, at every
single step of the desktop. A watched run is seen as the run that nobody watches, and means the same
for the handshake.
-/

namespace SatelliteWindows

/-! ## Histories of runs that are seen as others -/

/-- A happening with its event seen as another one. -/
def Happening.seen (f : Event → Event) : Happening → Happening
  | dispatched e => dispatched (f e)
  | x => x

/-- A happening with the same event is the same. -/
@[simp] theorem Happening.seen_id (x : Happening) : x.seen id = x := by
  cases x <;> rfl

/-- The requests for windows have nothing to do with events. -/
theorem Journal.openRequests_seen (f : Event → Event) (j : Journal) :
    (j.seen f).openRequests = j.openRequests := by
  unfold Journal.openRequests Journal.seen
  rw [List.filterMap_map]
  refine List.filterMap_congr fun e _ => ?_
  cases e <;> rfl

namespace Scene

variable {σ τ : Type} [Desktop σ] [Desktop τ] (v : Desktop.View σ τ)

/-- The same windows are asked for. -/
theorem asked_seen (r : Request) (s : Scene σ) :
    (s.seen v).asked (r.seen v.event) = s.asked r := by
  have hafter : ((s.seen v).perform (r.seen v.event)).2 = (s.perform r).2.seen v :=
    congrArg Prod.snd (seen_perform v r s)
  unfold asked
  rw [hafter]
  show Journal.openRequests (((s.perform r).2.journal.map _).drop (s.journal.map _).length) = _
  rw [List.length_map, ← List.map_drop]
  exact Journal.openRequests_seen v.event _

/-- Openings mean the same. -/
theorem meaningOfOpening_seen (r : Request) (s : Scene σ) :
    (s.seen v).meaningOfOpening (r.seen v.event) = (s.meaningOfOpening r).seen v.event := by
  have hafter : ((s.seen v).perform (r.seen v.event)).2 = (s.perform r).2.seen v :=
    congrArg Prod.snd (seen_perform v r s)
  unfold meaningOfOpening
  rw [asked_seen, hafter]
  cases s.asked r <;> rfl

/-- A move means for the scene that is seen what it means for the scene itself. -/
theorem happening_seen {m : Move σ} {m' : Move τ} (h : m.SeenAs v m') (s : Scene σ) :
    (s.seen v).happening m' = (s.happening m).seen v.event := by
  cases h with
  | shift change change' agree => rfl
  | request r =>
    show (s.seen v).meaning (r.seen v.event) = (s.meaning r).seen v.event
    cases r with
    | openSatellite name params preferred =>
      exact meaningOfOpening_seen v (.openSatellite name params preferred) s
    | forceReopen name params => exact meaningOfOpening_seen v (.forceReopen name params) s
    | expire name generation =>
      unfold meaning
      dsimp only [Request.seen]
      rw [seen_expire]
      dsimp only [Prod.map_fst, id_eq]
      split <;> rfl
    | invoke operation caller =>
      have hcalls : (s.seen v).fleet.calls = s.fleet.calls := rfl
      unfold meaning
      dsimp only [Request.seen]
      rw [hcalls]
      split <;> rfl
    | _ => rfl

/-- The history of a run that is seen is that of the run itself. -/
theorem history_seen {moves : List (Move σ)} {moves' : List (Move τ)}
    (h : List.Forall₂ (Move.SeenAs v) moves moves') (s : Scene σ) :
    (s.seen v).history moves' = (s.history moves).map (Happening.seen v.event) := by
  induction h generalizing s with
  | nil => rfl
  | @cons m m' rest rest' hm _ ih =>
    unfold history
    rw [happening_seen v hm, ← seen_move v hm, ih, List.map_cons]

end Scene

/-! ## Watched desktops -/

/-- A desktop on which a window is watched. -/
structure Watched (σ : Type) [Desktop σ] (w : WindowId) where
  /-- The desktop. -/
  world : σ
  /-- Whether the window was alive and took every message until now. -/
  steady : Bool
  /-- A steady window is alive. -/
  alive : steady = true → Desktop.isAlive world w = true

namespace Watched

variable {σ : Type} [Desktop σ] {w : WindowId}

/-- Begin to watch a window. -/
def watch (w : WindowId) (world : σ) : Watched σ w := ⟨world, Desktop.isAlive world w, id⟩

/-- The desktop has come into another state, and it is known whether the window has failed at it. -/
def next (a : Watched σ w) (failed : Bool) (world : σ) : Watched σ w where
  world := world
  steady := a.steady && !failed && Desktop.isAlive world w
  alive h := by simp_all

instance : Desktop (Watched σ w) where
  isAlive a := Desktop.isAlive a.world
  geometry a := Desktop.geometry a.world
  screen a := Desktop.screen a.world
  deliver v m a := (Desktop.deliver v m a.world).map id
    (a.next (v == w && (Desktop.deliver v m a.world).1.isSome))
  focus v a := (Desktop.focus v a.world).map id (a.next false)
  close v a := (Desktop.close v a.world).map id (a.next false)
  openWindow r a := (Desktop.openWindow r a.world).map id (a.next false)
  raise windowName a := (Desktop.raise windowName a.world).map id (a.next false)
  elapse a := a.next false (Desktop.elapse a.world)

/-- A watched desktop is seen as the desktop that nobody watches. -/
def view : Desktop.View (Watched σ w) σ where
  world := world
  event := id
  isAlive _ _ := rfl
  geometry _ _ := rfl
  screen _ := rfl
  deliver _ m _ := by rw [Message.seen_id]; rfl
  focus _ _ := rfl
  close _ _ := rfl
  openWindow _ _ := rfl
  raise _ _ := rfl
  elapse _ := rfl

/-- A window that is steady after something happened was so before. -/
theorem steady_of_next {a : Watched σ w} {failed : Bool} {world : σ}
    (h : (a.next failed world).steady = true) : a.steady = true := by
  have hsteady : (a.steady && !failed && Desktop.isAlive world w) = true := h
  simp only [Bool.and_eq_true] at hsteady
  exact hsteady.1.1

/-- A window that is steady was so before. -/
theorem steady_of_reaches {a b : Watched σ w} (h : Desktop.Reaches a b)
    (hb : b.steady = true) : a.steady = true := by
  induction h with
  | refl => exact hb
  | deliver _ _ _ ih => exact ih (steady_of_next hb)
  | focus _ _ ih => exact ih (steady_of_next hb)
  | close _ _ ih => exact ih (steady_of_next hb)
  | openWindow _ _ ih => exact ih (steady_of_next hb)
  | raise _ _ ih => exact ih (steady_of_next hb)
  | elapse _ ih => exact ih (steady_of_next hb)

end Watched

/-- A move on a watched desktop. -/
def Move.watched {σ : Type} [Desktop σ] (w : WindowId) : Move σ → Move (Watched σ w)
  | request r => request r
  | shift change => shift fun a => a.next false (change a.world)

/-- Moves on a watched desktop are seen as the moves on the desktop. -/
theorem Move.watched_seenAs {σ : Type} [Desktop σ] (w : WindowId) (moves : List (Move σ)) :
    List.Forall₂ (SeenAs Watched.view) (moves.map (watched w)) moves := by
  induction moves with
  | nil => exact .nil
  | cons m rest ih =>
    refine .cons ?_ ih
    cases m with
    | request r =>
      have hrequest : SeenAs (Watched.view (w := w)) (.request r)
          (.request (r.seen id) : Move σ) := .request r
      rwa [Request.seen_id] at hrequest
    | shift change => exact .shift _ _ fun _ => rfl

namespace Scene

variable {σ : Type} [Desktop σ] {w : WindowId}

/-- A scene from which on a window is watched. -/
def watch (w : WindowId) (s : Scene σ) : Scene (Watched σ w) :=
  ⟨s.fleet, Watched.watch w s.world, s.journal⟩

/-- Whether a window stays alive and takes every message throughout a run. -/
def keepsSteady (w : WindowId) (moves : List (Move σ)) (s : Scene σ) : Bool :=
  ((s.watch w).run (moves.map (Move.watched w))).world.steady

/-- A scene that is watched is seen as that scene. -/
theorem seen_watch (s : Scene σ) : (s.watch w).seen Watched.view = s := by
  show Scene.mk (s.fleet.seen id) s.world (Journal.seen id s.journal) = s
  rw [Fleet.seen_id, Journal.seen_id]

/-- In a watched run the same is remembered and done as in the run that nobody watches. -/
theorem watched_run (moves : List (Move σ)) (s : Scene σ) :
    ((s.watch w).run (moves.map (Move.watched w))).fleet = (s.run moves).fleet ∧
      ((s.watch w).run (moves.map (Move.watched w))).journal = (s.run moves).journal := by
  have hseen := seen_run Watched.view (Move.watched_seenAs w moves) (s.watch w)
  rw [seen_watch] at hseen
  rw [← hseen]
  exact ⟨(Fleet.seen_id _).symm, (Journal.seen_id _).symm⟩

/-- Watching changes nothing about the history. -/
theorem history_watched (moves : List (Move σ)) (s : Scene σ) :
    (s.watch w).history (moves.map (Move.watched w)) = s.history moves := by
  have hseen := history_seen Watched.view (Move.watched_seenAs w moves) (s.watch w)
  have hid : Happening.seen (Watched.view (σ := σ) (w := w)).event = id :=
    funext Happening.seen_id
  rw [hid, List.map_id, seen_watch] at hseen
  exact hseen.symm

/-- A window that is steady after a run was so before. -/
theorem steady_of_run (moves : List (Move σ)) {s : Scene (Watched σ w)}
    (h : (s.run (moves.map (Move.watched w))).world.steady = true) : s.world.steady = true := by
  induction moves generalizing s with
  | nil => exact h
  | cons m rest ih =>
    have hmove : (s.move (m.watched w)).world.steady = true := ih h
    cases m with
    | request r => exact Watched.steady_of_reaches (leads_perform r s).world hmove
    | shift change => exact Watched.steady_of_next hmove

/-- A steady window was never found dead. -/
theorem not_foundDead_of_steady {s : Scene (Watched σ w)} (h : s.world.steady = true) :
    ¬ s.FoundDead w := by
  rintro ⟨b, hreaches, hdead⟩
  have halive : Desktop.isAlive b w = true := b.alive (Watched.steady_of_reaches hreaches h)
  rw [halive] at hdead
  cases hdead

/-- A steady window took every message. -/
theorem fault_eq_none_of_steady {s : Scene (Watched σ w)} (h : s.world.steady = true)
    {a : Attempt} (ha : s.Answered a) (hw : a.window = w) : a.fault = none := by
  obtain ⟨b, hreaches, hfault⟩ := ha
  have hafter : (b.next (a.window == w && (Desktop.deliver a.window a.message b.world).1.isSome)
      (Desktop.deliver a.window a.message b.world).2).steady = true :=
    Watched.steady_of_reaches hreaches h
  have hsame : a.fault = (Desktop.deliver a.window a.message b.world).1 := hfault
  unfold Watched.next at hafter
  simp only [Bool.and_eq_true, hw, beq_self_eq_true, Bool.true_and, Bool.not_eq_true',
    Option.isSome_eq_false_iff, Option.isNone_iff_eq_none] at hafter
  rw [hsame, hw]
  exact hafter.1.2

end Scene

end SatelliteWindows
