import SatelliteWindows.Geometry
import SatelliteWindows.Platform

/-!
# Settings

What a user can set: how the coordinator is tuned, where the main window runs, how large the screen
is and how large windows are by default. Every setting has a default, so the empty record is a
complete configuration.
-/

namespace SatelliteWindows

/-- How the coordinator is tuned. -/
structure CoordinatorSettings where
  /-- How many requests may wait for the coordinator. -/
  channelBuffer : UInt64 := 256
  /-- How many reports are kept for a listener that is late. -/
  busCapacity : UInt64 := 1024
  /-- After how many seconds an unanswered opening is given up. -/
  openTimeoutSecs : Option UInt64 := none
  deriving DecidableEq, Repr

namespace CoordinatorSettings

/-- The names of the fields. -/
def fieldNames : List String := ["channel-buffer", "event-bus-capacity", "open-timeout-secs"]

/-- The seconds after which an opening is given up; zero seconds mean never. -/
def openTimeout (s : CoordinatorSettings) : Option Nat :=
  match s.openTimeoutSecs with
  | some secs => if secs = 0 then none else some secs.toNat
  | none => none

/-- A whole number of 64 bits. -/
def word (d : Datum) : Except DecodeError UInt64 := do return UInt64.ofNat (← d.count)

/-- The fields of the written form; a timeout that is not set is left out. -/
def encodeFields (s : CoordinatorSettings) : List (String × Payload) :=
  [("channel-buffer", .int s.channelBuffer.toNat),
    ("event-bus-capacity", .int s.busCapacity.toNat)]
    ++ match s.openTimeoutSecs with
      | some secs => [("open-timeout-secs", .int secs.toNat)]
      | none => []

/-- The written form of the coordinator's settings. -/
def encode (s : CoordinatorSettings) : Payload := .record s.encodeFields

/-- The coordinator's settings that a datum stands for. -/
def decode (d : Datum) : Except DecodeError CoordinatorSettings := do
  let fields ← d.fields fieldNames
  return {
    channelBuffer := ← fieldOr word "channel-buffer" 256 fields
    busCapacity := ← fieldOr word "event-bus-capacity" 1024 fields
    openTimeoutSecs := ← optionalField word "open-timeout-secs" fields }

end CoordinatorSettings

/-- Everything a user can set. -/
structure Settings where
  /-- How much is logged. -/
  logLevel : Option String := none
  /-- How the coordinator is tuned. -/
  coordinator : CoordinatorSettings := {}
  /-- Where the main window runs. -/
  platform : Platform := Platform.default
  /-- How large the screen is. -/
  screen : Size := ⟨1920, 1080⟩
  /-- How large a window is when nothing else is said. -/
  defaultSize : Size := ⟨800, 600⟩
  deriving DecidableEq, Repr

namespace Settings

/-- The fields of the written form; a log level that is not set is left out. -/
def encodeFields (s : Settings) : List (String × Payload) :=
  (match s.logLevel with
    | some level => [("log-level", .text level)]
    | none => [])
  ++ [("manager", s.coordinator.encode), ("platform", s.platform.encode),
    ("screen", s.screen.encode), ("default-size", s.defaultSize.encode)]

/-- The written form of the settings. -/
def encode (s : Settings) : Payload := .record s.encodeFields

/-- The settings that a datum stands for. -/
def decode (d : Datum) : Except DecodeError Settings := do
  let fields ← d.fields ["log-level", "manager", "platform", "screen", "default-size"]
  let standard : Settings := {}
  return {
    logLevel := ← optionalField Datum.string "log-level" fields
    coordinator := ← fieldOr CoordinatorSettings.decode "manager" standard.coordinator fields
    platform := ← fieldOr Platform.decode "platform" standard.platform fields
    screen := ← fieldOr Size.decode "screen" standard.screen fields
    defaultSize := ← fieldOr Size.decode "default-size" standard.defaultSize fields }

end Settings

end SatelliteWindows
