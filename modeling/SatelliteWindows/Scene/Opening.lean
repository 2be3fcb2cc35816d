import SatelliteWindows.Scene
import SatelliteWindows.WindowName

/-!
# Opening satellites

Only the main window opens satellites. A satellite whose window is alive is brought to the front
where the platform allows it; otherwise a window is asked for, and from that moment on events are
held back for the satellite until it has registered and asked for them.
-/

namespace SatelliteWindows

/-- What became of an opening. -/
inductive Opening where
  /-- A live window was brought to the front. -/
  | reactivated
  /-- A window was asked for; the number identifies the opening. -/
  | opened (generation : Nat)
  deriving DecidableEq, Repr

/-- Size and place of a window that is asked for. -/
inductive Placement where
  /-- The preferred size as far as the screen allows, anywhere. -/
  | fit (preferred : Size)
  /-- Exactly where another window was. -/
  | restore (geometry : Geometry)
  deriving DecidableEq

namespace Placement

/-- The size that is asked for on a screen. -/
def size (screen : Size) : Placement → Size
  | fit preferred => preferred.clampTo screen
  | restore g => g.size

/-- The position that is asked for. -/
def position? : Placement → Option Point
  | fit _ => none
  | restore g => some g.position

end Placement

namespace Fleet

/-- Expect a satellite to come up: keep the parameters supplied for it, hold back events for it,
and give the opening the next number. -/
def expect (name : String) (params : Option Payload) (f : Fleet) : Fleet :=
  { f with
    startup := match params with
      | some p => f.startup.put name p
      | none => f.startup
    backlog := f.backlog.hold name
    generation := f.generation + 1
    awaited := f.awaited.put name (f.generation + 1)
    tally := { f.tally with opensRequested := f.tally.opensRequested + 1 } }

end Fleet

namespace Scene

variable {σ : Type} [Desktop σ]

/-- The request that asks for a satellite's window. -/
def requestFor (s : Scene σ) (name : String) (placement : Placement) : OpenRequest where
  name := name
  windowName := WindowName.ofSatellite name
  size := placement.size (Desktop.screen s.world)
  position := placement.position?

/-- Ask for a satellite's window. -/
def openAnew (name : String) (params : Option Payload) (placement : Placement) (s : Scene σ) :
    Opening × Scene σ :=
  let request := s.requestFor name placement
  let s := s.alter (Fleet.expect name params)
  (.opened s.fleet.generation,
    (s.requestWindow request).report (.opening name request.size.width request.size.height))

/-- Tell a window that it was brought to the front. -/
def reactivate (name : String) (w : WindowId) (params : Option Payload) (s : Scene σ) : Scene σ :=
  ((s.count fun t => { t with reactivations := t.reactivations + 1 }).deliver name w
    (.reactivated params)).report (.reactivated name)

/-- Open a satellite in a given place, or bring it to the front. -/
def openPlaced (name : String) (params : Option Payload) (placement : Placement) (s : Scene σ) :
    Except Fault Opening × Scene σ :=
  match s.fleet.role with
  | .satellite => (.error (.notMainWindow name), s)
  | .main =>
    match s.find? name with
    | none => (s.openAnew name params placement).map .ok id
    | some w =>
      match s.fleet.platform.reactivation with
      | .hostActivate =>
        (.ok .reactivated, (s.raise (WindowName.ofSatellite name)).reactivate name w params)
      | .refocus => (.ok .reactivated, (s.focus w).reactivate name w params)
      | .reopen =>
        ((s.deliver name w .pendingReactivate).openAnew name params placement).map .ok id

/-- Open a satellite, or bring it to the front. -/
def openSatellite (name : String) (params : Option Payload) (preferred : Size) (s : Scene σ) :
    Except Fault Opening × Scene σ :=
  s.openPlaced name params (.fit preferred)

/-- Close a satellite's live window and ask for another one in the same place. Without a live
window, or if its place is not known, nothing is done. -/
def forceReopen (name : String) (params : Option Payload) (s : Scene σ) :
    Except Fault Unit × Scene σ :=
  match s.find? name with
  | none => (.ok (), s)
  | some w =>
    match Desktop.geometry s.world w with
    | .error _ => (.ok (), s)
    | .ok g =>
      let (_, s) := (s.deliver name w .pendingReactivate).closeWindow w
      (s.openPlaced name params (.restore g)).map (fun r => r.map fun _ => ()) id

/-- Bring a satellite to the front without telling it. -/
def activate (name : String) (s : Scene σ) : Scene σ :=
  if s.fleet.platform.isNativeShell then s.raise (WindowName.ofSatellite name)
  else match s.find? name with
    | some w => s.focus w
    | none => s

/-- Give up an opening that was not answered. Only the latest opening of a satellite can be given
up, and only while events are held back for it; they are dropped then. -/
def expire (name : String) (generation : Nat) (s : Scene σ) : Bool × Scene σ :=
  if s.fleet.awaited.get? name = some generation then
    let held := s.fleet.backlog.count name
    let wasHolding := s.fleet.isHolding name
    let s := s.alter fun f => { f with awaited := f.awaited.erase name }
    if wasHolding then
      (true, ((s.alter fun f => { f with backlog := f.backlog.release name }).count
        fun t => { t with openTimeouts := t.openTimeouts + 1 }).report (.openTimedOut name held))
    else (false, s)
  else (false, s)

end Scene

end SatelliteWindows
