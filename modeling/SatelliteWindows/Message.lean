import SatelliteWindows.Datum
import SatelliteWindows.Text.Kebab

/-!
# What satellites are told

The application's events and commands, and the messages that carry them and the news of the
registration handshake to a satellite window. Each message has an operation name. The tag of its
written form is made from the name of the alternative, and is the same.
-/

namespace SatelliteWindows

/-- An event of the application that is passed on to satellites. Nothing looks into its data. -/
structure Event where
  /-- What kind of event it is. -/
  eventType : String
  /-- What happened. -/
  data : Payload
  deriving DecidableEq, Repr

/-- A command of the application that is passed on to satellites. -/
structure Command where
  /-- Which command it is. -/
  id : String
  deriving DecidableEq, Repr

/-- A message to a satellite window. -/
inductive Message where
  /-- The session as it is when the satellite registers. -/
  | setSession (snapshot : Payload)
  /-- The parameters last supplied for the satellite's name. -/
  | setStartup (params : Payload)
  /-- The window was brought to the front again, perhaps with new parameters. -/
  | reactivated (params : Option Payload)
  /-- The window is about to be closed and opened again. -/
  | pendingReactivate
  /-- An event of the application. -/
  | event (event : Event)
  /-- A command of the application. -/
  | command (id : String)
  deriving DecidableEq, Repr

namespace Event

/-- The written form of an event. -/
def encode (e : Event) : Payload :=
  .record [("event-type", .text e.eventType), ("data", e.data)]

/-- The event that a datum stands for; data that are not given are null. -/
def decode (d : Datum) : Except DecodeError Event := do
  let fields ← d.fields ["event-type", "data"]
  return {
    eventType := ← requiredField Datum.string "event-type" fields
    data := ← fieldOr Datum.payload "data" .null fields }

end Event

namespace Command

/-- The written form of a command. -/
def encode (c : Command) : Payload := .record [("id", .text c.id)]

/-- The command that a datum stands for. -/
def decode (d : Datum) : Except DecodeError Command := do
  let fields ← d.fields ["id"]
  return { id := ← requiredField Datum.string "id" fields }

end Command

namespace Message

/-- The name of the operation that the message asks of the satellite. -/
def operation : Message → String
  | .setSession _ => "set-session-snapshot"
  | .setStartup _ => "set-startup-params"
  | .reactivated _ => "notify-reactivated"
  | .pendingReactivate => "notify-pending-reactivate"
  | .event _ => "dispatch-event"
  | .command _ => "dispatch-command"

/-- The name of the alternative that the message is. -/
def alternative : Message → String
  | .setSession _ => "SetSessionSnapshot"
  | .setStartup _ => "SetStartupParams"
  | .reactivated _ => "NotifyReactivated"
  | .pendingReactivate => "NotifyPendingReactivate"
  | .event _ => "DispatchEvent"
  | .command _ => "DispatchCommand"

/-- The tag of the written form. -/
def tag (m : Message) : String := Text.kebab m.alternative

/-- The event that the message carries. -/
def event? : Message → Option Event
  | .event e => some e
  | _ => none

/-- The command that the message carries. -/
def command? : Message → Option String
  | .command id => some id
  | _ => none

/-- The fields of the written form besides the tag. -/
def encodeFields : Message → List (String × Payload)
  | .setSession snapshot => [("snapshot", snapshot)]
  | .setStartup params => [("params", params)]
  | .reactivated params => [("params", params.getD .null)]
  | .pendingReactivate => []
  | .event e => [("event", e.encode)]
  | .command id => [("command-id", .text id)]

/-- The written form of a message. -/
def encode (m : Message) : Payload := .record (("op", .text m.tag) :: m.encodeFields)

/-- The message that a datum stands for. -/
def decode (d : Datum) : Except DecodeError Message := do
  let (op, body) ← d.tagged "op"
  match op with
  | "set-session-snapshot" =>
    let fields ← body.fields ["snapshot"]
    return .setSession (← requiredField Datum.payload "snapshot" fields)
  | "set-startup-params" =>
    let fields ← body.fields ["params"]
    return .setStartup (← requiredField Datum.payload "params" fields)
  | "notify-reactivated" =>
    let fields ← body.fields ["params"]
    return .reactivated (← optionalField Datum.payload "params" fields)
  | "notify-pending-reactivate" =>
    body.noFields
    return .pendingReactivate
  | "dispatch-event" =>
    let fields ← body.fields ["event"]
    return .event (← requiredField Event.decode "event" fields)
  | "dispatch-command" =>
    let fields ← body.fields ["command-id"]
    return .command (← requiredField Datum.string "command-id" fields)
  | other => throw (.unknownTag other)

end Message

end SatelliteWindows
