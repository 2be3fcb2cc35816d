import SatelliteWindows.Geometry

/-!
# What a fleet of satellites reports

Activity is what was done with satellites and what went wrong on the way, reported to whoever
listens. It is about the coordination itself and never about the events that are passed on.
-/

namespace SatelliteWindows

/-- Something that happened to a satellite or a child window. -/
inductive Activity where
  /-- A window was asked for. -/
  | opening (name : String) (width height : UInt32)
  /-- A live window was brought to the front instead. -/
  | reactivated (name : String)
  /-- A satellite completed its registration. -/
  | registered (name window : String)
  /-- Events held back were passed on. -/
  | flushed (name : String) (count : Nat)
  /-- A satellite was closed on request. -/
  | closed (name : String)
  /-- All satellites were closed. -/
  | allClosed (count : Nat)
  /-- An entry of a window that had died was dropped. -/
  | evicted (name : String)
  /-- A message was not taken. -/
  | deliveryFailed (name operation error : String)
  /-- A satellite did not register in time. -/
  | openTimedOut (name : String) (discarded : Nat)
  /-- A child window that is no satellite came up. -/
  | childOpened (name window : String)
  /-- A child window went away. -/
  | childClosed (name : String)
  deriving DecidableEq, Repr

namespace Activity

/-- The name of the kind of activity. -/
def kind : Activity → String
  | .opening .. => "SatelliteOpening"
  | .reactivated .. => "SatelliteReactivated"
  | .registered .. => "SatelliteRegistered"
  | .flushed .. => "PendingEventsFlushed"
  | .closed .. => "SatelliteClosed"
  | .allClosed .. => "AllSatellitesClosed"
  | .evicted .. => "DeadWindowEvicted"
  | .deliveryFailed .. => "DeliveryFailed"
  | .openTimedOut .. => "OpenTimedOut"
  | .childOpened .. => "ChildWindowOpened"
  | .childClosed .. => "ChildWindowClosed"

/-- The names of the alternatives, in the order in which they are declared. -/
def alternatives : List String :=
  ["SatelliteOpening", "SatelliteReactivated", "SatelliteRegistered", "PendingEventsFlushed",
    "SatelliteClosed", "AllSatellitesClosed", "DeadWindowEvicted", "DeliveryFailed",
    "OpenTimedOut", "ChildWindowOpened", "ChildWindowClosed"]

/-- The tag of the written form: the name of the alternative that the activity is, as it is
declared. The kinds above are a table kept by hand beside it. -/
def tag (a : Activity) : String := alternatives.getD a.ctorIdx ""

/-- The satellite or child window concerned; an asterisk stands for all of them. -/
def subject : Activity → String
  | .opening name .. | .reactivated name | .registered name .. | .flushed name .. | .closed name
  | .evicted name | .deliveryFailed name .. | .openTimedOut name .. | .childOpened name ..
  | .childClosed name => name
  | .allClosed _ => "*"

/-- The window that the activity names. -/
def window? : Activity → Option String
  | .registered _ window | .childOpened _ window => some window
  | _ => none

/-- The activity with the window that it names called otherwise. -/
def renameWindow (rename : String → String) : Activity → Activity
  | .registered name window => .registered name (rename window)
  | .childOpened name window => .childOpened name (rename window)
  | a => a

/-- The fields of the written form besides the tag. -/
def encodeFields : Activity → List (String × Payload)
  | .opening name width height =>
    [("name", .text name), ("width", .int width.toNat), ("height", .int height.toNat)]
  | .reactivated name | .closed name | .evicted name | .childClosed name => [("name", .text name)]
  | .registered name window | .childOpened name window =>
    [("name", .text name), ("window_id", .text window)]
  | .flushed name count => [("name", .text name), ("count", .int count)]
  | .allClosed count => [("count", .int count)]
  | .deliveryFailed name operation error =>
    [("name", .text name), ("message", .text operation), ("error", .text error)]
  | .openTimedOut name discarded => [("name", .text name), ("discarded_events", .int discarded)]

/-- The written form of an activity. -/
def encode (a : Activity) : Payload := .record (("type", .text a.tag) :: a.encodeFields)

/-- An activity with a name only. -/
def decodeNamed (make : String → Activity) (body : Datum) : Except DecodeError Activity := do
  return make (← requiredField Datum.string "name" (← body.fields ["name"]))

/-- An activity with a name and a window. -/
def decodeWindow (make : String → String → Activity) (body : Datum) :
    Except DecodeError Activity := do
  let fields ← body.fields ["name", "window_id"]
  let name ← requiredField Datum.string "name" fields
  return make name (← requiredField Datum.string "window_id" fields)

/-- The activity that a datum stands for. -/
def decode (d : Datum) : Except DecodeError Activity := do
  let (kind, body) ← d.tagged "type"
  match kind with
  | "SatelliteOpening" =>
    let fields ← body.fields ["name", "width", "height"]
    let name ← requiredField Datum.string "name" fields
    let width ← requiredField Size.dimension "width" fields
    return .opening name width (← requiredField Size.dimension "height" fields)
  | "SatelliteReactivated" => decodeNamed .reactivated body
  | "SatelliteRegistered" => decodeWindow .registered body
  | "PendingEventsFlushed" =>
    let fields ← body.fields ["name", "count"]
    let name ← requiredField Datum.string "name" fields
    return .flushed name (← requiredField Datum.count "count" fields)
  | "SatelliteClosed" => decodeNamed .closed body
  | "AllSatellitesClosed" =>
    let fields ← body.fields ["count"]
    return .allClosed (← requiredField Datum.count "count" fields)
  | "DeadWindowEvicted" => decodeNamed .evicted body
  | "DeliveryFailed" =>
    let fields ← body.fields ["name", "message", "error"]
    let name ← requiredField Datum.string "name" fields
    let operation ← requiredField Datum.string "message" fields
    return .deliveryFailed name operation (← requiredField Datum.string "error" fields)
  | "OpenTimedOut" =>
    let fields ← body.fields ["name", "discarded_events"]
    let name ← requiredField Datum.string "name" fields
    return .openTimedOut name (← requiredField Datum.count "discarded_events" fields)
  | "ChildWindowOpened" => decodeWindow .childOpened body
  | "ChildWindowClosed" => decodeNamed .childClosed body
  | other => throw (.unknownTag other)

end Activity

end SatelliteWindows
