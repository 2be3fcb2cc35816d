import SatelliteWindows.Geometry
import SatelliteWindows.Message
import SatelliteWindows.Platform

/-!
# Scenarios

A scenario is a session written down: what the main window asks for, interleaved with what the
simulated satellites and their users do, in the order in which it happens.
-/

namespace SatelliteWindows

/-- One thing that happens in a scenario. -/
inductive Step where
  /-- The main window opens a satellite; without a size the default size is preferred. -/
  | openSatellite (name : String) (params : Option Payload) (size : Option Size)
  /-- The main window closes a satellite and opens it again in its place. -/
  | forceReopen (name : String) (params : Option Payload)
  /-- The satellite's window has come up. -/
  | register (name : String)
  /-- The satellite wants what was held back for it. -/
  | flush (name : String)
  /-- The application has an event for the satellites. -/
  | dispatchEvent (eventType : String) (data : Payload)
  /-- The application has a command for the satellites. -/
  | dispatchCommand (id : String)
  /-- The user closes the satellite's window. -/
  | kill (name : String)
  /-- The satellite starts to refuse messages, or stops to. -/
  | failDeliveries (name : String) (failing : Bool)
  /-- The user moves the satellite's window. -/
  | move (name : String) (size : Size) (position : Point)
  /-- The main window brings the satellite to the front. -/
  | activate (name : String)
  /-- The main window closes the satellite. -/
  | close (name : String)
  /-- The main window closes all satellites. -/
  | closeAll
  /-- The session changes. -/
  | updateSession (snapshot : Payload)
  /-- The desktop starts to swallow requests for windows, or stops to. -/
  | denyOpens (deny : Bool)
  /-- The main window goes. -/
  | mainWindowClosed
  /-- Time passes. -/
  | wait (ms : Nat)
  deriving DecidableEq

/-- A session written down. -/
structure Scenario where
  /-- What the scenario is called. -/
  name : String
  /-- What it is about. -/
  description : Option String := none
  /-- Where the main window runs, if not where the settings say. -/
  platform : Option Platform := none
  /-- The session at the start. -/
  session : Payload := .null
  /-- What happens. -/
  steps : List Step
  deriving DecidableEq

namespace Step

/-- The name of what happens, which is also the tag of the written form. -/
def action : Step → String
  | openSatellite .. => "open"
  | forceReopen .. => "force-reopen"
  | register _ => "register"
  | flush _ => "flush"
  | dispatchEvent .. => "dispatch-event"
  | dispatchCommand _ => "dispatch-command"
  | kill _ => "kill"
  | failDeliveries .. => "fail-deliveries"
  | move .. => "move"
  | activate _ => "activate"
  | close _ => "close"
  | closeAll => "close-all"
  | updateSession _ => "update-session"
  | denyOpens _ => "deny-opens"
  | mainWindowClosed => "main-window-closed"
  | wait _ => "wait"

/-- The satellite that the step is about. -/
def target? : Step → Option String
  | openSatellite name .. | forceReopen name _ | register name | flush name | kill name
  | failDeliveries name _ | move name .. | activate name | close name => some name
  | dispatchEvent .. | dispatchCommand _ | closeAll | updateSession _ | denyOpens _
  | mainWindowClosed | wait _ => none

/-- Whether the step does something to a simulated window, so that there must be one. -/
def needsWindow : Step → Bool
  | register _ | kill _ | failDeliveries .. | move .. => true
  | _ => false

/-- A field that is left out when it has no value. -/
def optional (name : String) : Option Payload → List (String × Payload)
  | some p => [(name, p)]
  | none => []

/-- The fields of the written form besides the tag. -/
def encodeFields : Step → List (String × Payload)
  | openSatellite name params size =>
    [("name", .text name)] ++ optional "params" params ++ optional "size" (size.map Size.encode)
  | forceReopen name params => [("name", .text name)] ++ optional "params" params
  | register name | flush name | kill name | activate name | close name => [("name", .text name)]
  | dispatchEvent eventType data => [("event-type", .text eventType), ("data", data)]
  | dispatchCommand id => [("id", .text id)]
  | failDeliveries name failing => [("name", .text name), ("failing", .bool failing)]
  | move name size position =>
    [("name", .text name), ("size", size.encode), ("position", position.encode)]
  | closeAll | mainWindowClosed => []
  | updateSession snapshot => [("snapshot", snapshot)]
  | denyOpens deny => [("deny", .bool deny)]
  | wait ms => [("ms", .int ms)]

/-- The written form of a step. -/
def encode (s : Step) : Payload := .record (("action", .text s.action) :: s.encodeFields)

/-- A step with a name only. -/
def decodeNamed (make : String → Step) (body : Datum) : Except DecodeError Step := do
  return make (← requiredField Datum.string "name" (← body.fields ["name"]))

/-- The step that a datum stands for. -/
def decode (d : Datum) : Except DecodeError Step := do
  let (action, body) ← d.tagged "action"
  match action with
  | "open" =>
    let fields ← body.fields ["name", "params", "size"]
    let name ← requiredField Datum.string "name" fields
    let params ← optionalField Datum.payload "params" fields
    return .openSatellite name params (← optionalField Size.decode "size" fields)
  | "force-reopen" =>
    let fields ← body.fields ["name", "params"]
    let name ← requiredField Datum.string "name" fields
    return .forceReopen name (← optionalField Datum.payload "params" fields)
  | "register" => decodeNamed .register body
  | "flush" => decodeNamed .flush body
  | "dispatch-event" =>
    let e ← Event.decode body
    return .dispatchEvent e.eventType e.data
  | "dispatch-command" => return .dispatchCommand (← Command.decode body).id
  | "kill" => decodeNamed .kill body
  | "fail-deliveries" =>
    let fields ← body.fields ["name", "failing"]
    let name ← requiredField Datum.string "name" fields
    return .failDeliveries name (← fieldOr Datum.flag "failing" true fields)
  | "move" =>
    let fields ← body.fields ["name", "size", "position"]
    let name ← requiredField Datum.string "name" fields
    let size ← requiredField Size.decode "size" fields
    return .move name size (← requiredField Point.decode "position" fields)
  | "activate" => decodeNamed .activate body
  | "close" => decodeNamed .close body
  | "close-all" =>
    body.noFields
    return .closeAll
  | "update-session" =>
    let fields ← body.fields ["snapshot"]
    return .updateSession (← requiredField Datum.payload "snapshot" fields)
  | "deny-opens" =>
    let fields ← body.fields ["deny"]
    return .denyOpens (← fieldOr Datum.flag "deny" true fields)
  | "main-window-closed" =>
    body.noFields
    return .mainWindowClosed
  | "wait" =>
    let fields ← body.fields ["ms"]
    return .wait (← requiredField Datum.count "ms" fields)
  | other => throw (.unknownTag other)

end Step

namespace Scenario

/-- The fields of the written form; what is not given is left out. -/
def encodeFields (s : Scenario) : List (String × Payload) :=
  [("name", .text s.name)] ++ Step.optional "description" (s.description.map .text)
    ++ Step.optional "platform" (s.platform.map Platform.encode)
    ++ [("session", s.session), ("steps", .list (s.steps.map Step.encode))]

/-- The written form of a scenario. -/
def encode (s : Scenario) : Payload := .record s.encodeFields

/-- The scenario that a datum stands for. -/
def decode (d : Datum) : Except DecodeError Scenario := do
  let fields ← d.fields ["name", "description", "platform", "session", "steps"]
  return {
    name := ← requiredField Datum.string "name" fields
    description := ← optionalField Datum.string "description" fields
    platform := ← optionalField Platform.decode "platform" fields
    session := ← fieldOr Datum.payload "session" .null fields
    steps := ← (← requiredField Datum.items "steps" fields).mapM Step.decode }

end Scenario

end SatelliteWindows
