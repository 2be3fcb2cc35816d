import SatelliteWindows.Proofs.Household.Entries

/-!
# Whatever is done to windows

Requests are carried out, and meanwhile everybody may deal with the simulated desktop and its
windows directly: kill, close and move windows, make them refuse messages, deny or fail requests,
ask for windows, and put other windows on the desktop. In whatever order that happens, a window that
has died stays dead and nothing more happens to it, only the latest of the windows that were made
for a satellite can be alive, and content was loaded into them as often as a window was asked for
while the desktop was not denying.

What the desktop has made and heeded is not remembered anywhere. It is read off the desktop before
and after each step.
-/

namespace SatelliteWindows

/-- Something that is done to a fleet, its windows or their desktop. -/
inductive Dealing where
  /-- A request is carried out. -/
  | ask (request : Request)
  /-- A window dies. -/
  | kill (w : WindowId)
  /-- A window is to be closed. -/
  | close (w : WindowId)
  /-- A window is to be brought to the front. -/
  | focus (w : WindowId)
  /-- A message is handed to a window. -/
  | deliver (w : WindowId) (m : Message)
  /-- A window starts or stops to refuse messages. -/
  | fail (w : WindowId) (failing : Bool)
  /-- A window is moved. -/
  | place (w : WindowId) (geometry : Geometry)
  /-- The messages that a window took are cleared away. -/
  | clear (w : WindowId)
  /-- The desktop starts or stops to swallow requests for windows. -/
  | deny (denying : Bool)
  /-- Requests for windows start or stop to fail. -/
  | failOpens (failing : Bool)
  /-- The shell starts or stops to fail. -/
  | failRaises (failing : Bool)
  /-- A window is asked for. -/
  | openWindow (request : OpenRequest)
  /-- The shell is to bring a window to the front. -/
  | raise (windowName : String)
  /-- Another window is put on the desktop, which has not made it. -/
  | bring (window : SimulatedWindow)

namespace Dealing

/-- The move that it is in a run. -/
def move : Dealing → Move Simulation
  | ask r => .request r
  | kill w => .shift fun d => d.modify w SimulatedWindow.kill
  | close w => .shift fun d => (d.close w).2
  | focus w => .shift fun d => (d.focus w).2
  | deliver w m => .shift fun d => (d.deliver w m).2
  | fail w failing => .shift fun d => d.modify w fun x => { x with failing := failing }
  | place w geometry => .shift fun d => d.modify w fun x => { x with geometry := geometry }
  | clear w => .shift fun d => d.modify w fun x => { x with inbox := [] }
  | deny denying => .shift fun d => { d with denying := denying }
  | failOpens failing => .shift fun d => { d with failingOpens := failing }
  | failRaises failing => .shift fun d => { d with failingRaises := failing }
  | openWindow r => .shift fun d => (d.openWindow r).2
  | raise windowName => .shift fun d => (d.raise windowName).2
  | bring window => .shift fun d => (d.add window).2

/-- The windows that the desktop makes meanwhile: all that come up, unless they were brought. -/
def made (p : Dealing) (s : Scene Simulation) : List WindowId :=
  match p with
  | bring _ => []
  | p => Simulation.newcomers s.world (s.move p.move).world

/-- The requests for windows that are made meanwhile, unless the desktop is denying. -/
def heeded (p : Dealing) (s : Scene Simulation) : List OpenRequest :=
  Simulation.granted s.world (s.move p.move).world

end Dealing

namespace Scene

/-! ## One step -/

/-- What one step does to windows and adds to the books. -/
structure Dealt (p : Dealing) (s : Scene Simulation) : Prop where
  /-- Windows get older. -/
  ages : ∀ {w x}, s.world.window? w = some x →
    ∃ y, (s.move p.move).world.window? w = some y ∧ x.Ages y
  /-- What was made and heeded is entered. -/
  household : ∀ {made heeded}, s.world.Household made heeded →
    (s.move p.move).world.Household (made ++ p.made s) (heeded ++ p.heeded s)

/-- What keeps the books in order when it is done to the desktop keeps them so as a dealing. -/
theorem dealt_of_keeps {p : Dealing} {s : Scene Simulation}
    (h : s.world.Keeps (s.move p.move).world)
    (hmade : p.made s = s.world.newcomers (s.move p.move).world) : Dealt p s := by
  refine ⟨h.ages, fun hbooks => ?_⟩
  rw [hmade]
  exact h.household hbooks

/-- How the desktop answers from now on is not in the books. -/
theorem dealt_of_switch {p : Dealing} {s : Scene Simulation}
    (windows : (s.move p.move).world.windows = s.world.windows)
    (latest : (s.move p.move).world.latest = s.world.latest)
    (requests : (s.move p.move).world.requests = s.world.requests)
    (hmade : p.made s = s.world.newcomers (s.move p.move).world) : Dealt p s := by
  have hnone : p.made s = [] :=
    hmade.trans (Simulation.newcomers_of_length_eq (congrArg List.length windows))
  have hheeded : p.heeded s = [] := Simulation.granted_of_requests_eq requests
  refine ⟨fun {w x} hx => ⟨x, ?_, .refl x⟩, fun hbooks => ?_⟩
  · unfold Simulation.window? at hx ⊢
    rw [windows, hx]
  · rw [hnone, hheeded, List.append_nil, List.append_nil]
    exact hbooks.congr windows latest

/-- A window that is brought is none that was made. -/
theorem dealt_bring (window : SimulatedWindow) (s : Scene Simulation) :
    Dealt (.bring window) s := by
  refine ⟨fun {w x} hx => ⟨x, (Simulation.window?_add window s.world).2 hx, .refl x⟩,
    fun {made _} hbooks => ?_⟩
  have hmade : made ++ Dealing.made (.bring window) s = made := List.append_nil made
  have hheeded : Dealing.heeded (.bring window) s = [] := Simulation.granted_of_requests_eq rfl
  rw [hmade, hheeded, List.append_nil]
  exact hbooks.add window

/-- Whatever is dealt, windows get older, and it is entered in the books. -/
theorem dealt (p : Dealing) (s : Scene Simulation) : Dealt p s := by
  have htended : ∀ {p : Dealing}, s.world.Tended (s.move p.move).world →
      p.made s = s.world.newcomers (s.move p.move).world → Dealt p s :=
    fun h => dealt_of_keeps (.of_tended h)
  cases p with
  | ask r => exact dealt_of_keeps (Simulation.keeps_of_reaches (leads_perform r s).world) rfl
  | openWindow r => exact dealt_of_keeps (Simulation.keeps_openWindow r s.world) rfl
  | bring window => exact dealt_bring window s
  | kill w => exact htended (Simulation.tended_kill w s.world) rfl
  | close w => exact htended (Simulation.tended_close w s.world) rfl
  | focus w => exact htended (Simulation.tended_focus w s.world) rfl
  | deliver w m => exact htended (Simulation.tended_deliver w m s.world) rfl
  | raise windowName => exact htended (Simulation.tended_raise windowName s.world) rfl
  | fail w failing =>
    exact htended (Simulation.tended_of_indifferent (f := fun x => { x with failing := failing })
      (fun _ => ⟨rfl, rfl, rfl, rfl, .inl rfl⟩) w s.world) rfl
  | place w geometry =>
    exact htended (Simulation.tended_of_indifferent (f := fun x => { x with geometry := geometry })
      (fun _ => ⟨rfl, rfl, rfl, rfl, .inl rfl⟩) w s.world) rfl
  | clear w =>
    exact htended (Simulation.tended_of_indifferent (f := fun x => { x with inbox := [] })
      (fun _ => ⟨rfl, rfl, rfl, rfl, .inr rfl⟩) w s.world) rfl
  | deny | failOpens | failRaises => exact dealt_of_switch rfl rfl rfl rfl

/-! ## Runs -/

/-- The scene that dealings lead to. -/
def dealings (ps : List Dealing) (s : Scene Simulation) : Scene Simulation :=
  s.run (ps.map Dealing.move)

/-- The windows that the desktop makes meanwhile. -/
def madeIn : List Dealing → Scene Simulation → List WindowId
  | [], _ => []
  | p :: rest, s => p.made s ++ madeIn rest (s.move p.move)

/-- The requests for windows that are made meanwhile while the desktop is not denying. -/
def heededIn : List Dealing → Scene Simulation → List OpenRequest
  | [], _ => []
  | p :: rest, s => p.heeded s ++ heededIn rest (s.move p.move)

/-- Windows get older in every course of dealings. -/
theorem ages_dealings (ps : List Dealing) (s : Scene Simulation) {w : WindowId}
    {x : SimulatedWindow} (hx : s.world.window? w = some x) :
    ∃ y, (s.dealings ps).world.window? w = some y ∧ x.Ages y := by
  induction ps generalizing s x with
  | nil => exact ⟨x, hx, .refl x⟩
  | cons p rest ih =>
    obtain ⟨y, hy, hxy⟩ := (dealt p s).ages hx
    obtain ⟨z, hz, hyz⟩ := ih (s.move p.move) hy
    exact ⟨z, hz, hxy.trans hyz⟩

/-- The books are right after every course of dealings. -/
theorem household_dealings (ps : List Dealing) (s : Scene Simulation) {made : List WindowId}
    {heeded : List OpenRequest} (h : s.world.Household made heeded) :
    (s.dealings ps).world.Household (made ++ s.madeIn ps) (heeded ++ s.heededIn ps) := by
  induction ps generalizing s made heeded with
  | nil =>
    rw [madeIn, heededIn, List.append_nil, List.append_nil]
    exact h
  | cons p rest ih =>
    rw [madeIn, heededIn, ← List.append_assoc, ← List.append_assoc]
    exact ih (s.move p.move) ((dealt p s).household h)

/-- What is to be said of windows, at some moment and whatever happens until some later one, if the
desktop has made some of them and heeded requests. -/
structure InOrder (made : List WindowId) (heeded : List OpenRequest) (s t : Scene Simulation) :
    Prop where
  /-- A window that is dead stays dead. No content is loaded into it, it is not brought to the
  front, and nothing gets into its inbox, which can only be cleared. -/
  dead : ∀ {w x}, s.world.window? w = some x → x.alive = false →
    ∃ y, t.world.window? w = some y ∧ y.alive = false ∧ y.loads = x.loads ∧
      y.focused = x.focused ∧ (y.inbox = x.inbox ∨ y.inbox = [])
  /-- Of the windows that were made for a satellite, one is alive at most. -/
  single : ∀ {w v x y}, w ∈ made → v ∈ made → s.world.window? w = some x →
    s.world.window? v = some y → x.alive = true → y.alive = true → x.name = y.name → w = v
  /-- It is the latest one. -/
  latest : ∀ {w x}, w ∈ made → s.world.window? w = some x → x.alive = true →
    s.world.latest? x.name = some w
  /-- The latest window of a satellite is one that was made. -/
  known : ∀ {name w}, s.world.latest? name = some w → w ∈ made
  /-- No window was made twice. -/
  nodup : made.Nodup
  /-- Content was loaded into the windows of a satellite once for each request that was heeded. -/
  loads : ∀ name, (made.map (s.world.loadsFor name)).sum = heeded.countP fun r => r.name == name

/-- Windows are in order from any moment at which the books are right. -/
theorem inOrder_dealings {made : List WindowId} {heeded : List OpenRequest} {s : Scene Simulation}
    (h : s.world.Household made heeded) (later : List Dealing) :
    InOrder made heeded s (s.dealings later) := by
  refine ⟨fun hx hdead => ?_, fun {w v x y} hw hv hx hy hxalive hyalive hname => ?_, h.alive,
    fun hw => (h.latest hw).1, h.nodup, h.loads⟩
  · obtain ⟨y, hy, hages⟩ := ages_dealings later s hx
    exact ⟨y, hy, hages.stays_dead hdead, hages.dead hdead⟩
  · have hlatest := h.alive hw hx hxalive
    rw [hname, h.alive hv hy hyalive] at hlatest
    exact (Option.some.inj hlatest).symm

/-- Whatever is done to a fleet, its windows and their desktop, and in whatever order, windows are
in order if the desktop was empty at first. -/
theorem windows_in_order (role : Role) (platform : Platform) (session : Payload) (screen : Size)
    (earlier later : List Dealing) :
    let first := start role platform session ({ screen := screen } : Simulation)
    let s := first.dealings earlier
    InOrder (first.madeIn earlier) (first.heededIn earlier) s (s.dealings later) := by
  intro first s
  have hbooks : s.world.Household (first.madeIn earlier) (first.heededIn earlier) :=
    household_dealings earlier first (Simulation.household_nil screen)
  exact inOrder_dealings hbooks later

/-- A window is made, brought to the front and killed; another one is made, a request is denied, and
one loads that window again. -/
def eventful : List Dealing :=
  [.ask (.openSatellite "chart" none ⟨400, 300⟩), .focus 0, .kill 0,
    .bring { name := "chart", geometry := ⟨⟨400, 300⟩, Point.origin⟩ },
    .openWindow ⟨"chart", "_satellite_chart", ⟨400, 300⟩, none⟩, .deny true,
    .ask (.openSatellite "chart" none ⟨400, 300⟩), .deny false,
    .ask (.openSatellite "chart" none ⟨400, 300⟩)]

/-- The window that died is as it was, whatever it is asked afterwards, and content was loaded once
into it and twice into the window that was made after the one that was brought. -/
theorem order_of_eventful :
    let first := start .main .nativeShell .null ({ screen := ⟨1280, 800⟩ } : Simulation)
    let s := first.dealings eventful
    let t := s.dealings [.focus 0, .deliver 0 .pendingReactivate,
      .ask (.openSatellite "chart" none ⟨400, 300⟩)]
    first.madeIn eventful = [0, 2] ∧
      (∃ y, t.world.window? 0 = some y ∧ y.alive = false ∧ y.loads = 1 ∧ y.focused = 1 ∧
        y.inbox = []) ∧
      s.world.latest? "chart" = some 2 ∧ ([0, 2].map (s.world.loadsFor "chart")).sum = 3 := by
  intro first s t
  have horder := windows_in_order .main .nativeShell .null ⟨1280, 800⟩ eventful
    [.focus 0, .deliver 0 .pendingReactivate, .ask (.openSatellite "chart" none ⟨400, 300⟩)]
  have hmade : first.madeIn eventful = [0, 2] := by decide +kernel
  refine ⟨hmade, ?_, ?_, ?_⟩
  · have hwindow : s.world.window? 0 = some
        { name := "chart", geometry := ⟨⟨400, 300⟩, Point.origin⟩, alive := false,
          focused := 1 } := by
      decide +kernel
    obtain ⟨y, hy, hdead, hloads, hfocused, hinbox⟩ := horder.dead hwindow rfl
    exact ⟨y, hy, hdead, hloads, hfocused, hinbox.elim id id⟩
  · have hwindow : s.world.window? 2 = some
        { name := "chart", geometry := ⟨⟨400, 300⟩, Point.origin⟩, loads := 2 } := by
      decide +kernel
    exact horder.latest (hmade ▸ (by decide)) hwindow rfl
  · have hloads := horder.loads "chart"
    rw [show first.madeIn eventful = [0, 2] from hmade] at hloads
    exact hloads.trans (by decide +kernel)

end Scene

end SatelliteWindows
