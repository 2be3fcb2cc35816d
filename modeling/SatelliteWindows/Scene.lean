import SatelliteWindows.Desktop
import SatelliteWindows.Effect
import SatelliteWindows.Fleet

/-!
# A fleet on a desktop

A scene is a fleet, the desktop its windows live on, and the journal of what was done so far. The
elementary steps of this module are those that every operation is made of. Each of them adds to the
journal what it does to the outside, and a fault of a window or of the desktop is written down and
goes no further.
-/

namespace SatelliteWindows

/-- A fleet, its desktop, and what was done. -/
structure Scene (σ : Type) where
  /-- What is remembered. -/
  fleet : Fleet
  /-- The desktop. -/
  world : σ
  /-- What was done, oldest first. -/
  journal : Journal := []
  deriving DecidableEq

namespace Scene

variable {σ : Type}

/-- Change what is remembered. -/
def alter (f : Fleet → Fleet) (s : Scene σ) : Scene σ := { s with fleet := f s.fleet }

/-- Change what is counted. -/
def count (f : Tally → Tally) (s : Scene σ) : Scene σ :=
  s.alter fun fleet => { fleet with tally := f fleet.tally }

/-- Write an effect down. -/
def record (e : Effect) (s : Scene σ) : Scene σ := { s with journal := s.journal ++ [e] }

/-- Report activity. -/
def report (a : Activity) (s : Scene σ) : Scene σ := s.record (.report a)

/-- The activity reported so far. -/
def activities (s : Scene σ) : List Activity := s.journal.activities

variable [Desktop σ]

/-- Whether a window is alive at the moment. -/
def isAlive (s : Scene σ) (w : WindowId) : Bool := Desktop.isAlive s.world w

/-- The live window that is registered for a satellite. -/
def find? (s : Scene σ) (name : String) : Option WindowId := s.fleet.roster.find? s.isAlive name

/-- Hand a message to a window on behalf of a satellite. A message that is not taken is counted and
reported. -/
def deliver (name : String) (w : WindowId) (m : Message) (s : Scene σ) : Scene σ :=
  let (fault, world) := Desktop.deliver w m s.world
  let s := { s with world := world }.record (.delivery name w m fault)
  match fault with
  | none => s
  | some f =>
    (s.count fun t => { t with deliveriesFailed := t.deliveriesFailed + 1 }).report
      (.deliveryFailed name m.operation f.message)

/-- Hand messages to a window one after the other. -/
def deliverAll (name : String) (w : WindowId) (ms : List Message) (s : Scene σ) : Scene σ :=
  ms.foldl (fun s m => s.deliver name w m) s

/-- Bring a window to the front, whether or not it can be done. -/
def focus (w : WindowId) (s : Scene σ) : Scene σ :=
  let (fault, world) := Desktop.focus w s.world
  { s with world := world }.record (.focus w fault)

/-- Close a window; the fault is none if it could be done. -/
def closeWindow (w : WindowId) (s : Scene σ) : Option Fault × Scene σ :=
  let (fault, world) := Desktop.close w s.world
  (fault, { s with world := world }.record (.close w fault))

/-- Ask the shell to bring the window of a name to the front, whether or not it can be done. -/
def raise (windowName : String) (s : Scene σ) : Scene σ :=
  let (fault, world) := Desktop.raise windowName s.world
  { s with world := world }.record (.raise windowName fault)

/-- Ask for a window, whether or not one comes up. -/
def requestWindow (r : OpenRequest) (s : Scene σ) : Scene σ :=
  let (fault, world) := Desktop.openWindow r s.world
  { s with world := world }.record (.openRequest r fault)

/-- Let a moment pass. -/
def elapse (s : Scene σ) : Scene σ := { s with world := Desktop.elapse s.world }

end Scene

end SatelliteWindows
