import SatelliteWindows.Desktop
import SatelliteWindows.Fleet

/-!
# A simulated desktop

On the simulated desktop windows are plain values that record every message they take. A window that
is asked for comes up at once, unless the desktop is denying, but it registers only when it is told
to; so every order of events while a satellite starts up can be played. Windows can be made to
misbehave: to die, to fail, to ignore requests, to take others with them and to call back.

A window is known by its number in the list of windows, and windows are never taken off the list.
-/

namespace SatelliteWindows

/-- What of a window does not work at all. -/
structure Defects where
  /-- It cannot be focused. -/
  focus : Bool := false
  /-- It cannot be closed. -/
  close : Bool := false
  /-- It does not say where it is. -/
  geometry : Bool := false
  deriving DecidableEq, Repr

/-- A call that a window makes by the name of an operation. -/
structure Invocation where
  /-- The name of the operation. -/
  operation : String
  /-- What is said about the caller. -/
  caller : Caller
  deriving DecidableEq, Repr

/-- A window of the simulated desktop. -/
structure SimulatedWindow where
  /-- The satellite it was made for. -/
  name : String
  /-- Size and position. -/
  geometry : Geometry
  /-- Whether it is there. -/
  alive : Bool := true
  /-- Whether it refuses messages. -/
  failing : Bool := false
  /-- How often it was brought to the front. -/
  focused : Nat := 0
  /-- How often content was loaded into it. -/
  loads : Nat := 1
  /-- The messages it took, oldest first. -/
  inbox : List Message := []
  /-- What of it does not work. -/
  defects : Defects := {}
  /-- The windows that die whenever it is handed an event, even if it refuses it. -/
  kills : List WindowId := []
  /-- The call it makes whenever it is handed an event, even if it refuses it. -/
  reaction : Option Invocation := none
  deriving DecidableEq

/-- The state of a simulated desktop. -/
structure Simulation where
  /-- The area for new windows. -/
  screen : Size
  /-- All windows there ever were, by number. -/
  windows : List SimulatedWindow := []
  /-- The window last made for each satellite. -/
  latest : NameMap WindowId := NameMap.empty
  /-- Whether requests for windows are swallowed. -/
  denying : Bool := false
  /-- Whether requests for windows fail. -/
  failingOpens : Bool := false
  /-- Whether requests to bring a window to the front by name fail. -/
  failingRaises : Bool := false
  /-- The requests for windows, oldest first. -/
  requests : List OpenRequest := []
  /-- The names of the windows that were to be brought to the front. -/
  raised : List String := []
  /-- The calls that windows have made and nobody has served yet, oldest first. -/
  calls : List Invocation := []
  deriving DecidableEq

namespace SimulatedWindow

/-- What a window answers that is not there, or that behaves as if it were not. -/
def gone (w : SimulatedWindow) : Fault := .windowClosed w.name

/-- The fault with which a window refuses a message. -/
def refusal? (m : Message) (w : SimulatedWindow) : Option Fault :=
  if !w.alive then some w.gone
  else if w.failing then some (.delivery w.name m.operation "satellite handler raised")
  else none

/-- The window after it has taken a message. -/
def take (m : Message) (w : SimulatedWindow) : SimulatedWindow := { w with inbox := w.inbox ++ [m] }

/-- The window after its death. -/
def kill (w : SimulatedWindow) : SimulatedWindow := { w with alive := false }

/-- The events among the messages taken. -/
def receivedEvents (w : SimulatedWindow) : List Event := w.inbox.filterMap Message.event?

/-- The commands among the messages taken. -/
def receivedCommands (w : SimulatedWindow) : List String := w.inbox.filterMap Message.command?

/-- Size and position, as long as the window is there. -/
def place (w : SimulatedWindow) : Except Fault Geometry :=
  if w.alive then .ok w.geometry else .error w.gone

/-- Size and position, as far as the window says. -/
def geometry? (w : SimulatedWindow) : Except Fault Geometry :=
  if w.defects.geometry then .error w.gone else w.place

end SimulatedWindow

namespace Simulation

/-- The window of a number. -/
def window? (d : Simulation) (w : WindowId) : Option SimulatedWindow := d.windows[w]?

/-- Whether a window is there. -/
def isAlive (d : Simulation) (w : WindowId) : Bool :=
  match d.window? w with
  | some window => window.alive
  | none => false

/-- A window that is on the desktop is alive if nothing has killed it. -/
theorem isAlive_of_window? {d : Simulation} {w : WindowId} {x : SimulatedWindow}
    (h : d.window? w = some x) : d.isAlive w = x.alive := by
  unfold isAlive
  rw [h]

/-- Change one window. -/
def modify (w : WindowId) (f : SimulatedWindow → SimulatedWindow) (d : Simulation) : Simulation :=
  { d with windows := d.windows.modify w f }

/-- Changing a window changes no other. -/
theorem window?_modify (w : WindowId) (f : SimulatedWindow → SimulatedWindow) (d : Simulation)
    (v : WindowId) :
    (d.modify w f).window? v = (d.window? v).map (if w = v then f else id) := by
  unfold window? modify
  rw [List.getElem?_modify]
  cases d.windows[v]? with
  | none => rfl
  | some x => split <;> rfl

/-- Let windows die. -/
def killAll (ws : List WindowId) (d : Simulation) : Simulation :=
  ws.foldl (fun d w => d.modify w SimulatedWindow.kill) d

/-- What becomes of other windows when a window is handed a message. -/
def suffer (window : SimulatedWindow) (m : Message) (d : Simulation) : Simulation :=
  match m with
  | .event _ => d.killAll window.kills
  | _ => d

/-- The call that a window makes when it is handed a message. -/
def react (window : SimulatedWindow) (m : Message) (d : Simulation) : Simulation :=
  match m with
  | .event _ => { d with calls := d.calls ++ window.reaction.toList }
  | _ => d

/-- Ask something of a window. A number that no window has is that of a window that is gone. -/
def ask (w : WindowId) (request : SimulatedWindow → Option Fault × (Simulation → Simulation))
    (d : Simulation) : Option Fault × Simulation :=
  match d.window? w with
  | none => (some (.windowClosed ""), d)
  | some window => ((request window).1, (request window).2 d)

/-- Hand a message to a window. -/
def deliver (w : WindowId) (m : Message) (d : Simulation) : Option Fault × Simulation :=
  d.ask w fun window =>
    match window.refusal? m with
    | some f => (some f, fun d => (d.suffer window m).react window m)
    | none =>
      (none, fun d => ((d.suffer window m).react window m).modify w (SimulatedWindow.take m))

/-- Bring a window to the front. -/
def focus (w : WindowId) (d : Simulation) : Option Fault × Simulation :=
  d.ask w fun window =>
    if !window.alive || window.defects.focus then (some window.gone, id)
    else (none, fun d => d.modify w fun window => { window with focused := window.focused + 1 })

/-- Close a window. -/
def close (w : WindowId) (d : Simulation) : Option Fault × Simulation :=
  d.ask w fun window =>
    if !window.alive || window.defects.close then (some window.gone, id)
    else (none, fun d => d.modify w SimulatedWindow.kill)

/-- Size and position of a window. -/
def geometry (d : Simulation) (w : WindowId) : Except Fault Geometry :=
  match d.window? w with
  | none => .error (.windowClosed "")
  | some window => window.geometry?

/-- Put another window on the desktop. -/
def add (window : SimulatedWindow) (d : Simulation) : WindowId × Simulation :=
  (d.windows.length, { d with windows := d.windows ++ [window] })

/-- A window that is added is the last, and the others are where they were. -/
theorem window?_add (window : SimulatedWindow) (d : Simulation) :
    (d.add window).2.window? (d.add window).1 = some window ∧
      ∀ {w v}, d.window? w = some v → (d.add window).2.window? w = some v := by
  refine ⟨?_, fun {w v} hv => ?_⟩
  · exact List.getElem?_concat_length
  · obtain ⟨hlt, -⟩ := List.getElem?_eq_some_iff.mp hv
    exact (List.getElem?_append_left hlt).trans hv

/-- Make a window for a satellite. A live window made for it before is loaded again instead. -/
def makeWindow (r : OpenRequest) (d : Simulation) : Simulation :=
  match (d.latest.get? r.name).filter d.isAlive with
  | some w => d.modify w fun window => { window with loads := window.loads + 1 }
  | none =>
    let (w, d) := d.add { name := r.name, geometry := ⟨r.size, r.position.getD Point.origin⟩ }
    { d with latest := d.latest.put r.name w }

/-- Ask for a window. -/
def openWindow (r : OpenRequest) (d : Simulation) : Option Fault × Simulation :=
  if d.failingOpens then (some (.windowClosed r.name), d)
  else
    let d := { d with requests := d.requests ++ [r] }
    (none, if d.denying then d else d.makeWindow r)

/-- Ask the shell to bring a window to the front. -/
def raise (windowName : String) (d : Simulation) : Option Fault × Simulation :=
  if d.failingRaises then (some (.windowClosed windowName), d)
  else (none, { d with raised := d.raised ++ [windowName] })

instance : Desktop Simulation where
  isAlive := isAlive
  geometry := geometry
  screen := screen
  deliver := deliver
  focus := focus
  close := close
  openWindow := openWindow
  raise := raise
  elapse := id

/-- The window last made for a satellite. -/
def latest? (d : Simulation) (name : String) : Option WindowId := d.latest.get? name

/-- The satellites that a window was ever made for, in the order of their code points. -/
def satellites (d : Simulation) : List String := d.latest.sortedNames

end Simulation

end SatelliteWindows
