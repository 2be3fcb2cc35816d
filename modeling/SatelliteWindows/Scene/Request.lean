import SatelliteWindows.Scene.Broadcast
import SatelliteWindows.Scene.Closing
import SatelliteWindows.Scene.Opening
import SatelliteWindows.Scene.Registration

/-!
# Requests

Everything that can be asked of the coordination is a request, and `Scene.perform` carries one out.
A run is a list of moves: requests, and changes of the desktop that nobody asked for.
-/

namespace SatelliteWindows

/-- Something asked of the coordination. -/
inductive Request where
  /-- Open a satellite, or bring it to the front. -/
  | openSatellite (name : String) (params : Option Payload) (preferred : Size)
  /-- Close a satellite's window and ask for another one in the same place. -/
  | forceReopen (name : String) (params : Option Payload)
  /-- Bring a satellite to the front without telling it. -/
  | activate (name : String)
  /-- Close a satellite. -/
  | close (name : String)
  /-- Close all satellites. -/
  | closeAll
  /-- The main window has gone. -/
  | mainWindowClosed
  /-- A satellite can take messages in a window. -/
  | register (name : String) (window : WindowId)
  /-- A satellite wants what was held back. -/
  | flush (name : String)
  /-- A child window that is no satellite came up. -/
  | registerChild (name : String) (window : WindowId)
  /-- A child window went away. -/
  | unregisterChild (windowName : String)
  /-- Make everything callable that can be called. -/
  | installCalls
  /-- A call from outside by the name of an operation. -/
  | invoke (operation : String) (caller : Caller)
  /-- Pass an event on. -/
  | dispatchEvent (event : Event)
  /-- Pass a command on. -/
  | dispatchCommand (command : Command)
  /-- Remember another session for satellites that register. -/
  | updateSession (snapshot : Payload)
  /-- Give up an opening that was not answered. -/
  | expire (name : String) (generation : Nat)
  /-- Whether a satellite has a live window. -/
  | isOpen (name : String)
  /-- What was counted. -/
  | metrics
  deriving DecidableEq

/-- What a request is answered with, unless it is refused. -/
inductive Answer where
  /-- It was done, and there is nothing to say about it. -/
  | done
  /-- What became of an opening. -/
  | opening (result : Opening)
  /-- Yes or no. -/
  | flag (value : Bool)
  /-- What was counted. -/
  | metrics (metrics : Metrics)
  deriving DecidableEq

namespace Scene

variable {σ : Type} [Desktop σ]

/-- Remember another session for satellites that register. -/
def updateSession (snapshot : Payload) (s : Scene σ) : Scene σ :=
  s.alter fun f => { f with session := snapshot }

/-- Carry out a request. -/
def perform (r : Request) (s : Scene σ) : Except Fault Answer × Scene σ :=
  match r with
  | .openSatellite name params preferred =>
    (s.openSatellite name params preferred).map (fun o => o.map .opening) id
  | .forceReopen name params => (s.forceReopen name params).map (fun o => o.map fun _ => .done) id
  | .activate name => (.ok .done, s.activate name)
  | .close name => (.ok .done, s.closeSatellite name)
  | .closeAll => (.ok .done, s.closeAll)
  | .mainWindowClosed => (.ok .done, s.mainWindowClosed)
  | .register name w => (.ok .done, s.register name w)
  | .flush name => (.ok .done, s.flush name)
  | .registerChild name w => (.ok .done, s.registerChild name w)
  | .unregisterChild windowName => (.ok .done, s.unregisterChild windowName)
  | .installCalls => (.ok .done, s.installCalls)
  | .invoke operation caller => (s.invoke operation caller).map (fun o => o.map fun _ => .done) id
  | .dispatchEvent e => (.ok .done, s.dispatchEvent e)
  | .dispatchCommand c => (.ok .done, s.dispatchCommand c)
  | .updateSession snapshot => (.ok .done, s.updateSession snapshot)
  | .expire name generation => (s.expire name generation).map (fun b => .ok (.flag b)) id
  | .isOpen name => (.ok (.flag (s.find? name).isSome), s)
  | .metrics => (.ok (.metrics s.fleet.metrics), s)

end Scene

/-- Something that happens in a run. -/
inductive Move (σ : Type) where
  /-- A request is carried out. -/
  | request (request : Request)
  /-- The desktop changes. -/
  | shift (change : σ → σ)

namespace Scene

variable {σ : Type} [Desktop σ]

/-- What a move makes of a scene. -/
def move (m : Move σ) (s : Scene σ) : Scene σ :=
  match m with
  | .request r => (s.perform r).2
  | .shift change => { s with world := change s.world }

/-- What a list of moves makes of a scene. -/
def run (moves : List (Move σ)) (s : Scene σ) : Scene σ := moves.foldl (fun s m => s.move m) s

/-- The scene before anything has happened. -/
def start (role : Role) (platform : Platform) (session : Payload) (world : σ) : Scene σ where
  fleet := { role := role, platform := platform, session := session }
  world := world

end Scene

end SatelliteWindows
