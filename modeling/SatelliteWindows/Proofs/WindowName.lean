import SatelliteWindows.Proofs.Reopening

/-!
# Window names identify satellites

A satellite's name is put behind the marker and taken from behind it again, and neither loses
anything, whatever the name is: one that begins with the marker keeps it. The desktop is handed
window names by a few operations only, and each of them hands over the window name of the satellite
that it was called for. So whoever reports that the window of such a name went away tells which
satellite's it was.
-/

namespace SatelliteWindows

namespace WindowName

/-- A window name that carries the marker is the marker and the name of the satellite. -/
theorem toList_of_isSatellite {windowName : String} (h : isSatellite windowName = true) :
    windowName.toList = marker.toList ++ (satellite windowName).toList := by
  obtain ⟨rest, hrest⟩ := List.isPrefixOf_iff_prefix.mp h
  rw [satellite, if_pos h, String.toList_ofList, ← hrest, List.drop_left]

/-- A window name is recovered from the satellite's exactly if it carries the marker. -/
theorem ofSatellite_satellite {windowName : String} :
    ofSatellite (satellite windowName) = windowName ↔ isSatellite windowName = true := by
  constructor
  · intro h
    rw [← h]
    exact isSatellite_ofSatellite _
  · intro h
    refine String.toList_inj.mp ?_
    rw [toList_of_isSatellite h, ofSatellite, String.toList_append]

/-- Different satellites have different window names. -/
theorem ofSatellite_inj {name other : String} :
    ofSatellite name = ofSatellite other ↔ name = other :=
  ⟨fun h => by rw [← satellite_ofSatellite name, h, satellite_ofSatellite], congrArg ofSatellite⟩

/-- One marker is taken away, and what stands behind it is left alone, be it a marker too. -/
theorem satellite_of_twice (name : String) :
    satellite (marker ++ (marker ++ name)) = marker ++ name :=
  satellite_ofSatellite (marker ++ name)

end WindowName

/-- The satellite that a request wants a window of, if it wants one of the desktop. -/
def Request.wants? : Request → Option String
  | openSatellite name .. | forceReopen name _ | activate name => some name
  | _ => none

/-- The satellite that a move wants a window of. -/
def Move.wants? {σ : Type} : Move σ → Option String
  | request r => r.wants?
  | shift _ => none

/-- The window name that an effect hands to the desktop. -/
def Effect.windowName? : Effect → Option String
  | openRequest q _ => some q.windowName
  | raise windowName _ => some windowName
  | _ => none

/-- An effect hands no window name to the desktop but that of a satellite, and asks for a window of
no other. -/
def Effect.IsFor (wanted : Option String) : Effect → Prop
  | openRequest q _ => wanted = some q.name ∧ q.windowName = WindowName.ofSatellite q.name
  | raise windowName _ => ∃ name, wanted = some name ∧ windowName = WindowName.ofSatellite name
  | _ => True

/-- The window names that a journal hands to the desktop. -/
def Journal.windowNames (j : Journal) : List String := j.filterMap Effect.windowName?

/-- What an opening may write down is for its satellite. -/
theorem Effect.OfOpening.isFor {name : String} {e : Effect} (h : e.OfOpening name) :
    e.IsFor (some name) := by
  cases e with
  | openRequest q fault =>
    obtain ⟨rfl, hname⟩ := h
    exact ⟨rfl, hname⟩
  | raise windowName fault => exact ⟨name, rfl, h⟩
  | delivery | focus | close | report => trivial

/-- What a request may write down is for the satellite that it wants a window of. -/
theorem Request.MayWrite.isFor {r : Request} {e : Effect} (h : r.MayWrite e) :
    e.IsFor r.wants? := by
  cases r with
  | openSatellite | forceReopen | activate => exact Effect.OfOpening.isFor h
  | _ =>
    -- no other request may ask for a window or for one to be brought to the front
    cases e with
    | openRequest | raise => cases h
    | delivery | focus | close | report => trivial

namespace Scene

open Journal

variable {σ : Type} {wanted : Option String}

/-! ## What is handed to the desktop -/

/-- From one scene to another no window name but that of a satellite was handed to the desktop. -/
def Hands (wanted : Option String) (s t : Scene σ) : Prop :=
  ∃ news : Journal, t.journal = s.journal ++ news ∧ ∀ e ∈ news, e.IsFor wanted

variable [Desktop σ]

/-- A move hands the desktop the window name of the satellite that it wants a window of, if any. -/
theorem hands_move (m : Move σ) (s : Scene σ) : Hands m.wants? s (s.move m) := by
  cases m with
  | shift change => exact ⟨[], (List.append_nil _).symm, nofun⟩
  | request r =>
    obtain ⟨news, hnews, hwritten⟩ := (writes_perform r s).journal
    exact ⟨news, hnews, fun e he => (hwritten e he).isFor⟩

/-- Whatever is handed to the desktop in a run is for some satellite. -/
theorem isFor_run {s : Scene σ} (h : ∀ e ∈ s.journal, ∃ wanted, e.IsFor wanted)
    (moves : List (Move σ)) : ∀ e ∈ (s.run moves).journal, ∃ wanted, e.IsFor wanted := by
  induction moves generalizing s with
  | nil => exact h
  | cons m rest ih =>
    obtain ⟨news, hnews, hfor⟩ := hands_move m s
    refine ih fun e he => ?_
    rw [hnews] at he
    exact (List.mem_append.mp he).elim (h e) fun he => ⟨m.wants?, hfor e he⟩

/-- What goes away under the window name of a satellite is reported as that satellite's. -/
theorem activities_unregisterChild (name : String) (s : Scene σ) :
    (s.perform (.unregisterChild (WindowName.ofSatellite name))).2.journal.activities =
      s.journal.activities ++ [.childClosed name] := by
  have hjournal : (s.perform (.unregisterChild (WindowName.ofSatellite name))).2.journal =
      s.journal ++ [.report (.childClosed (WindowName.satellite
        (WindowName.ofSatellite name)))] := rfl
  rw [hjournal, activities_append, WindowName.satellite_ofSatellite]
  rfl

/-- Window names and satellites' names go over into each other: the satellite is recovered from its
window name, and the window name from the satellite exactly if it carries the marker; one marker is
taken away, also from a name that goes on with another.

So they identify satellites on every run. Each move hands the desktop the window name of the very
satellite that it is about, and no other; windows that are asked for have the same window name
exactly if they are of the same satellite; and when the window of a name that was handed to the
desktop goes away, at whatever moment, that satellite is reported and nothing else. -/
theorem window_names_identify :
    (∀ name, WindowName.satellite (WindowName.ofSatellite name) = name) ∧
    (∀ windowName, WindowName.ofSatellite (WindowName.satellite windowName) = windowName ↔
      WindowName.isSatellite windowName = true) ∧
    (∀ name, WindowName.satellite (WindowName.marker ++ (WindowName.marker ++ name)) =
      WindowName.marker ++ name) ∧
    ∀ (role : Role) (platform : Platform) (session : Payload) (world : σ) (moves : List (Move σ)),
      let first := start role platform session world
      let journal := (first.run moves).journal
      (∀ before m after, moves = before ++ m :: after →
        Hands m.wants? (first.run before) (first.run (before ++ [m]))) ∧
      (∀ q ∈ journal.openRequests, ∀ q' ∈ journal.openRequests,
        q.windowName = q'.windowName ↔ q.name = q'.name) ∧
      ∀ windowName ∈ journal.windowNames, ∃ name, windowName = WindowName.ofSatellite name ∧
        ∀ s : Scene σ, (s.perform (.unregisterChild windowName)).2.journal.activities =
          s.journal.activities ++ [.childClosed name] := by
  refine ⟨WindowName.satellite_ofSatellite, fun _ => WindowName.ofSatellite_satellite,
    WindowName.satellite_of_twice, fun role platform session world moves => ?_⟩
  intro first journal
  have hfor : ∀ e ∈ journal, ∃ wanted, e.IsFor wanted := isFor_run (s := first) nofun moves
  have hnamed : ∀ q ∈ journal.openRequests, q.windowName = WindowName.ofSatellite q.name := by
    intro q hq
    obtain ⟨e, he, hrequest⟩ := List.mem_filterMap.mp hq
    obtain ⟨wanted, hwanted⟩ := hfor e he
    cases e with
    | openRequest q' fault =>
      cases hrequest
      exact hwanted.2
    | _ => cases hrequest
  refine ⟨fun before m after _ => ?_, fun q hq q' hq' => ?_, fun windowName hname => ?_⟩
  · rw [run_append]
    exact hands_move m (first.run before)
  · rw [hnamed q hq, hnamed q' hq', WindowName.ofSatellite_inj]
  · obtain ⟨e, he, hhanded⟩ := List.mem_filterMap.mp hname
    obtain ⟨wanted, hwanted⟩ := hfor e he
    obtain ⟨name, rfl⟩ : ∃ name, windowName = WindowName.ofSatellite name := by
      cases e with
      | openRequest q fault =>
        cases hhanded
        exact ⟨q.name, hwanted.2⟩
      | raise raised fault =>
        cases hhanded
        obtain ⟨name, -, hname⟩ := hwanted
        exact ⟨name, hname⟩
      | _ => cases hhanded
    exact ⟨name, rfl, activities_unregisterChild name⟩

/-- Two satellites, the name of the second being the window name of the first. Both are opened, and
then the first is brought to the front. -/
def lookalikes : List (Move Simulation) :=
  [.request (.openSatellite "chart" none ⟨400, 300⟩),
    .request (.openSatellite "_satellite_chart" none ⟨400, 300⟩),
    .request (.register "chart" 0), .request (.openSatellite "chart" none ⟨400, 300⟩)]

/-- The two are not mistaken for each other: their windows have different names, the shell is asked
for that of the first, and each is the one that is reported when its window goes away. -/
theorem names_of_lookalikes :
    let first := start .main .nativeShell .null ({ screen := ⟨1280, 800⟩ } : Simulation)
    let journal := (first.run lookalikes).journal
    journal.windowNames =
      ["_satellite_chart", "_satellite__satellite_chart", "_satellite_chart"] ∧
    Hands (some "chart") (first.run (lookalikes.take 3)) (first.run lookalikes) ∧
    (∀ q ∈ journal.openRequests, ∀ q' ∈ journal.openRequests,
      q.windowName = q'.windowName ↔ q.name = q'.name) ∧
    ∃ name, "_satellite__satellite_chart" = WindowName.ofSatellite name ∧
      ∀ s : Scene Simulation,
        (s.perform (.unregisterChild "_satellite__satellite_chart")).2.journal.activities =
          s.journal.activities ++ [.childClosed name] := by
  intro first journal
  have hnames : journal.windowNames =
      ["_satellite_chart", "_satellite__satellite_chart", "_satellite_chart"] := by
    decide +kernel
  obtain ⟨-, -, -, hruns⟩ := window_names_identify (σ := Simulation)
  obtain ⟨hhands, hrequests, hreported⟩ := hruns .main .nativeShell .null
    ({ screen := ⟨1280, 800⟩ } : Simulation) lookalikes
  refine ⟨hnames, hhands (lookalikes.take 3) _ [] rfl, hrequests, hreported _ ?_⟩
  rw [hnames]
  exact List.mem_cons_of_mem _ List.mem_cons_self

end Scene

end SatelliteWindows
