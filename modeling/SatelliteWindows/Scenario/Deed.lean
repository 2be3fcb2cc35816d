import SatelliteWindows.Scenario.Validation
import SatelliteWindows.Scene.Request
import SatelliteWindows.Simulation

/-!
# What steps come to

On a simulated desktop a step comes to one of three deeds. What the main window and the satellites
do is a request; what users do to windows, and what goes wrong with them, changes the desktop; and a
pause lets time pass. A step that needs a window fails without one.
-/

namespace SatelliteWindows

/-- Why a step could not be taken. -/
inductive StepFault where
  /-- There is no window to do something to. -/
  | noWindow (name : String)
  /-- The window is not there any more. -/
  | alreadyClosed (name : String)
  /-- The coordinator refused. -/
  | refused (fault : Fault)
  deriving DecidableEq, Repr

/-- The fault in words. -/
def StepFault.message : StepFault → String
  | .noWindow name => "No window was created for '" ++ name ++ "' (opens denied?)"
  | .alreadyClosed name => "Window for '" ++ name ++ "' is already closed"
  | .refused fault => fault.message

/-- What a step comes to. -/
inductive Deed where
  /-- Something is asked of the coordinator. -/
  | ask (request : Request)
  /-- The desktop changes. -/
  | change (f : Simulation → Simulation)
  /-- Milliseconds pass. -/
  | pause (ms : Nat)

namespace Simulation

/-- The window last made for a satellite. -/
def windowFor (name : String) (d : Simulation) : Except StepFault WindowId :=
  match d.latest? name with
  | some w => .ok w
  | none => .error (.noWindow name)

/-- The window last made for a satellite, which must be there. -/
def liveWindowFor (name : String) (d : Simulation) : Except StepFault WindowId := do
  let w ← d.windowFor name
  if d.isAlive w then return w else throw (.alreadyClosed name)

end Simulation

namespace Step

/-- What a step comes to on a desktop. -/
def deed (defaultSize : Size) (d : Simulation) (s : Step) : Except StepFault Deed :=
  match s with
  | .openSatellite name params size =>
    .ok (.ask (.openSatellite name params (size.getD defaultSize)))
  | .forceReopen name params => .ok (.ask (.forceReopen name params))
  | .register name => do
    let w ← d.liveWindowFor name
    return .ask (.invoke Call.register.operation ⟨name, some w⟩)
  | .flush name => .ok (.ask (.invoke Call.flush.operation ⟨name, none⟩))
  | .dispatchEvent eventType data => .ok (.ask (.dispatchEvent ⟨eventType, data⟩))
  | .dispatchCommand id => .ok (.ask (.dispatchCommand ⟨id⟩))
  | .kill name => do
    let w ← d.liveWindowFor name
    return .change fun d => d.modify w SimulatedWindow.kill
  | .failDeliveries name failing => do
    let w ← d.windowFor name
    return .change fun d => d.modify w fun window => { window with failing := failing }
  | .move name size position => do
    let w ← d.windowFor name
    return .change fun d => d.modify w fun window => { window with geometry := ⟨size, position⟩ }
  | .activate name => .ok (.ask (.activate name))
  | .close name => .ok (.ask (.close name))
  | .closeAll => .ok (.ask .closeAll)
  | .updateSession snapshot => .ok (.ask (.updateSession snapshot))
  | .denyOpens deny => .ok (.change fun d => { d with denying := deny })
  | .mainWindowClosed => .ok (.ask .mainWindowClosed)
  | .wait ms => .ok (.pause ms)

/-- What became of a step, in words; only the answer to an opening has a say in it. -/
def outcome (answer : Answer) : Step → String
  | .openSatellite .. =>
    match answer with
    | .opening (.opened generation) => "opened (generation " ++ toString generation ++ ")"
    | _ => "reactivated"
  | .forceReopen .. => "reopen requested"
  | .register _ => "registered"
  | .flush _ => "flushed"
  | .dispatchEvent .. | .dispatchCommand _ => "dispatched"
  | .kill _ => "killed"
  | .failDeliveries _ failing => if failing then "failing" else "healthy"
  | .move _ size position =>
    "moved to " ++ toString size.width.toNat ++ "x" ++ toString size.height.toNat ++ " at ("
      ++ toString position.x.toInt ++ ", " ++ toString position.y.toInt ++ ")"
  | .activate _ => "activated"
  | .close _ => "closed"
  | .closeAll => "closed all"
  | .updateSession _ => "session updated"
  | .denyOpens deny => if deny then "denying opens" else "allowing opens"
  | .mainWindowClosed => "main window closed"
  | .wait ms => "waited " ++ toString ms ++ "ms"

end Step

/-- Why there is no report. -/
inductive RunFault where
  /-- The scenario is not well formed. -/
  | flawed (flaw : Flaw)
  /-- A step could not be taken. -/
  | failed (index : Nat) (action : String) (cause : StepFault)
  deriving DecidableEq, Repr

namespace RunFault

/-- The fault in words, and what lies behind it. -/
def chain : RunFault → List String
  | flawed flaw => [flaw.message]
  | failed index action cause =>
    ["Step " ++ toString index ++ " (" ++ action ++ ") failed", cause.message]

/-- The fault in words, with everything that lies behind it. -/
def message (f : RunFault) : String := ": ".intercalate f.chain

end RunFault

end SatelliteWindows
