import SatelliteWindows.Proofs.Household.Windows
import SatelliteWindows.Proofs.Isolation.Seat
import SatelliteWindows.Proofs.Opening

/-!
# Windows that are put back where they were

A forced reopening closes the live window of a satellite and asks for another one of the same size
in the same place. It goes through the opening that everybody uses, which would bring a live window
to the front or fit the size to the screen. Neither happens once the window is dead: no satellite is
registered twice, so there is no other window to be brought to the front, and a size that is to be
restored is left as it is.
-/

namespace SatelliteWindows.Scene

open Journal

variable {σ : Type} [Desktop σ]

/-- What is written down when the window of a satellite is told that it is about to be opened again,
and then closed. -/
def parting (name : String) (w : WindowId) (s : Scene σ) : Journal :=
  s.handing name w .pendingReactivate ++
    [.close w (Desktop.close w (s.deliver name w .pendingReactivate).world).1]

/-- A window that makes room is told so and closed. -/
theorem told_vacate (name : String) (w : WindowId) (s : Scene σ) :
    Told (s.parting name w) s (s.vacate name w) :=
  (told_deliver name w .pendingReactivate s).trans (told_record rfl _ _)

/-- A satellite has no live window once its live window was closed and is dead. -/
theorem find?_vacate {name : String} {w : WindowId} {s : Scene σ} (hu : s.fleet.roster.Unique)
    (hfind : s.find? name = some w) (hdead : (s.vacate name w).isAlive w = false) :
    (s.vacate name w).find? name = none := by
  have hroster : (s.vacate name w).fleet.roster = s.fleet.roster := by
    rw [(told_vacate name w s).fleet]
  have hseat : s.fleet.roster.seat? name = some w :=
    (Roster.seat?_eq_some hu).mpr ((Roster.find?_eq_some hu).mp hfind).1
  unfold find?
  rw [hroster, Roster.find?_eq_filter hu, hseat, Option.filter_some, hdead]
  rfl

/-- The request for a window in the place of another one. -/
def restoring (name : String) (g : Geometry) : OpenRequest where
  name := name
  windowName := WindowName.ofSatellite name
  size := g.size
  position := some g.position

/-- A satellite has no window that can be replaced if its live window, should it have one, does not
say where it is. -/
theorem replaceable?_eq_none {name : String} {s : Scene σ}
    (h : ∀ w, s.find? name = some w → ∃ f, Desktop.geometry s.world w = .error f) :
    s.replaceable? name = none := by
  unfold replaceable?
  cases hfind : s.find? name with
  | none => rfl
  | some w =>
    obtain ⟨f, hf⟩ := h w hfind
    rw [Option.bind_some, hf]

/-- A window that can be replaced and is dead when it has been closed is replaced. -/
theorem perform_forceReopen_of_dead {name : String} {w : WindowId} {g : Geometry} {s : Scene σ}
    (hrole : s.fleet.role = .main) (hu : s.fleet.roster.Unique) (hfind : s.find? name = some w)
    (hplace : Desktop.geometry s.world w = .ok g)
    (hdead : (s.vacate name w).isAlive w = false) (params : Option Payload) :
    (s.perform (.forceReopen name params)).1 = .ok .done ∧
      AskedAnew name params (restoring name g) (s.parting name w) (s.vacate name w).world s
        (s.perform (.forceReopen name params)).2 := by
  have hreplaceable : s.replaceable? name = some (w, g) := by
    unfold replaceable?
    rw [hfind, Option.bind_some, hplace]
  have hnone := find?_vacate hu hfind hdead
  have hvacant : (s.vacate name w).fleet.role = .main :=
    (surroundings_vacate name w s).1.trans hrole
  have hnobody : (s.vacate name w).forewarn name = s.vacate name w := by
    unfold forewarn
    rw [hnone]
    rfl
  dsimp only [perform]
  rw [forceReopen_of_some hreplaceable, openPlaced_anew hvacant (.inl hnone), hnobody]
  exact ⟨rfl, (askedAnew_openAnew (told_vacate name w s) name params (.restore g)).2⟩

/-- On a simulated desktop that makes windows and has no other live window for the satellite,
another window comes up for it, and it is where the one before was. -/
theorem window?_forceReopen {name : String} {w : WindowId} {g : Geometry} {s t : Scene Simulation}
    {params : Option Payload} {notice : Journal}
    (hasked : AskedAnew name params (restoring name g) notice (s.vacate name w).world s t)
    (hplace : s.world.geometry w = .ok g) (hdead : (s.vacate name w).isAlive w = false)
    (hdenying : s.world.denying = false) (hfailing : s.world.failingOpens = false)
    (hothers : ∀ v, s.world.latest? name = some v → v ≠ w → s.world.isAlive v = false) :
    ∃ v, t.world.latest? name = some v ∧ v ≠ w ∧ s.world.window? v = none ∧
      t.world.window? v = some { name := name, geometry := g } := by
  have htended : s.world.Tended (s.vacate name w).world := by
    have hdelivered : (s.deliver name w .pendingReactivate).world =
        (s.world.deliver w .pendingReactivate).2 := world_deliver name w .pendingReactivate s
    have hclosed : (s.vacate name w).world =
        (Simulation.close w (s.deliver name w .pendingReactivate).world).2 := rfl
    rw [hclosed, hdelivered]
    exact (Simulation.tended_deliver w .pendingReactivate s.world).trans
      (Simulation.tended_close w _)
  have hgone : ∀ v, (s.vacate name w).world.latest? name = some v →
      (s.vacate name w).world.isAlive v = false := by
    intro v hv
    by_cases hself : v = w
    · exact hself ▸ hdead
    · exact htended.isAlive_eq_false (hothers v ((htended.latest?_eq name).symm.trans hv) hself)
  obtain ⟨hlatest, hwindow⟩ := Simulation.window?_openWindow (restoring name g)
    (htended.denying.trans hdenying) (htended.failingOpens.trans hfailing) hgone
  have hfresh : s.world.window? (s.vacate name w).world.windows.length = none :=
    List.getElem?_eq_none (Nat.le_of_eq htended.length.symm)
  refine ⟨(s.vacate name w).world.windows.length, ?_, fun hsame => ?_, hfresh, ?_⟩
  · rw [hasked.world]
    exact hlatest
  · rw [hsame] at hfresh
    simp [Simulation.geometry, hfresh] at hplace
  · rw [hasked.world]
    exact hwindow

/-- On a run of the main window satellites can be opened, and none is registered twice. -/
theorem main_run (platform : Platform) (session : Payload) (world : σ) (moves : List (Move σ)) :
    let s := (start .main platform session world).run moves
    s.fleet.role = .main ∧ s.fleet.roster.Unique :=
  ⟨congrArg Prod.fst (station_run moves (start .main platform session world)),
    unique_run .main platform session world moves⟩

/-- On every run of the main window and on every platform, a forced reopening changes nothing unless
the satellite has a live window that says where it is. If it has one and the window is dead when it
has been closed, it is told so before it is closed, and a window of the same size in the same place
is asked for under a new number, whatever fails. A simulated desktop that makes windows and has no
other live window for the satellite then makes another one, and it is where the one before was. -/
theorem forced_reopening_restores :
    (∀ {σ : Type} [Desktop σ] (platform : Platform) (session : Payload) (world : σ)
      (moves : List (Move σ)) (name : String) (params : Option Payload),
      let s := (start .main platform session world).run moves
      let r : Request := .forceReopen name params
      ((∀ w, s.find? name = some w → ∃ f, Desktop.geometry s.world w = .error f) →
        s.perform r = (.ok .done, s)) ∧
      ∀ w g, s.find? name = some w → Desktop.geometry s.world w = .ok g →
        (s.vacate name w).isAlive w = false →
          (s.perform r).1 = .ok .done ∧
          AskedAnew name params ⟨name, WindowName.ofSatellite name, g.size, some g.position⟩
            (s.parting name w) (s.vacate name w).world s (s.perform r).2) ∧
    ∀ (platform : Platform) (session : Payload) (world : Simulation)
      (moves : List (Move Simulation)) (name : String) (params : Option Payload),
      let s := (start .main platform session world).run moves
      let t := (s.perform (.forceReopen name params)).2
      ∀ w g, s.find? name = some w → Desktop.geometry s.world w = .ok g →
        (s.vacate name w).isAlive w = false →
        s.world.denying = false → s.world.failingOpens = false →
        (∀ v, s.world.latest? name = some v → v ≠ w → s.world.isAlive v = false) →
          ∃ v, t.world.latest? name = some v ∧ v ≠ w ∧ s.world.window? v = none ∧
            t.world.window? v = some { name := name, geometry := g } := by
  refine ⟨fun platform session world moves name params => ⟨fun hunplaced => ?_,
    fun w g hfind hplace hdead => ?_⟩, fun platform session world moves name params w g hfind
      hplace hdead hdenying hfailing hothers => ?_⟩
  · dsimp only [perform]
    rw [forceReopen_of_none (replaceable?_eq_none hunplaced)]
    rfl
  · obtain ⟨hrole, hu⟩ := main_run platform session world moves
    exact perform_forceReopen_of_dead hrole hu hfind hplace hdead params
  · obtain ⟨hrole, hu⟩ := main_run platform session world moves
    obtain ⟨-, hasked⟩ := perform_forceReopen_of_dead hrole hu hfind hplace hdead params
    exact window?_forceReopen hasked hplace hdead hdenying hfailing hothers

/-- A satellite whose window has registered and is then made larger than the screen and moved out of
it. -/
def movedOut : List (Move Simulation) :=
  [.request (.openSatellite "chart" none ⟨400, 300⟩), .request (.register "chart" 0),
    .shift fun d => d.modify 0 fun window => { window with geometry := ⟨⟨4000, 3000⟩, ⟨-10, 20⟩⟩ }]

/-- The window that comes up in a forced reopening is as large, and where it was. A satellite
without a window is not reopened. -/
theorem restoring_of_movedOut :
    let s := (start .main .nativeShell .null ({ screen := ⟨1280, 800⟩ } : Simulation)).run movedOut
    let r : Request := .forceReopen "chart" none
    (s.perform r).1 = .ok .done ∧
      AskedAnew "chart" none ⟨"chart", "_satellite_chart", ⟨4000, 3000⟩, some ⟨-10, 20⟩⟩
        [.delivery "chart" 0 .pendingReactivate none, .close 0 none] (s.vacate "chart" 0).world s
        (s.perform r).2 ∧
      (∃ v, (s.perform r).2.world.latest? "chart" = some v ∧ v ≠ 0 ∧ s.world.window? v = none ∧
        (s.perform r).2.world.window? v =
          some { name := "chart", geometry := ⟨⟨4000, 3000⟩, ⟨-10, 20⟩⟩ }) ∧
      s.perform (.forceReopen "table" none) = (.ok .done, s) := by
  intro s r
  obtain ⟨hall, hsimulated⟩ := forced_reopening_restores
  have hfind : s.find? "chart" = some 0 := by decide +kernel
  have hplace : Desktop.geometry s.world 0 = .ok ⟨⟨4000, 3000⟩, ⟨-10, 20⟩⟩ := by decide +kernel
  have hdead : (s.vacate "chart" 0).isAlive 0 = false := by decide +kernel
  have hparting : s.parting "chart" 0 =
      [.delivery "chart" 0 .pendingReactivate none, .close 0 none] := by decide +kernel
  have hlatest : s.world.latest? "chart" = some 0 := by decide +kernel
  obtain ⟨hanswer, hasked⟩ := (hall .nativeShell .null ({ screen := ⟨1280, 800⟩ } : Simulation)
    movedOut "chart" none).2 0 _ hfind hplace hdead
  refine ⟨hanswer, hparting ▸ hasked, ?_, ?_⟩
  · refine hsimulated .nativeShell .null ({ screen := ⟨1280, 800⟩ } : Simulation) movedOut "chart"
      none 0 _ hfind hplace hdead (by decide +kernel) (by decide +kernel) fun v hv hother => ?_
    exact absurd (Option.some.inj (hv.symm.trans hlatest)) hother
  · refine (hall .nativeShell .null ({ screen := ⟨1280, 800⟩ } : Simulation) movedOut "table"
      none).1 fun w hw => ?_
    have hnone : s.find? "table" = none := by decide +kernel
    cases hnone.symm.trans hw

end SatelliteWindows.Scene
