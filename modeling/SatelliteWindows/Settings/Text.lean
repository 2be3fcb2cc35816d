import SatelliteWindows.Settings
import SatelliteWindows.Yaml.Shape
import SatelliteWindows.Yaml.Written

/-!
# Settings as text

Settings are kept in YAML. The platform is told from its tag; everything else has a known place, so
that a level of logging may look like a number and is a text all the same.
-/

namespace SatelliteWindows

open Yaml (Shape ReadError)

/-- The fields of the coordinator's settings. -/
def CoordinatorSettings.shape : List (String × Shape) :=
  [("channel-buffer", .whole), ("event-bus-capacity", .whole),
    ("open-timeout-secs", .optional .whole)]

/-- The fields of a size. -/
def Size.shape : List (String × Shape) := [("width", .whole), ("height", .whole)]

/-- The fields of the settings. -/
def Settings.shape : List (String × Shape) :=
  [("log-level", .optional .text), ("manager", .record CoordinatorSettings.shape),
    ("platform", .tagged "kind"), ("screen", .record Size.shape),
    ("default-size", .record Size.shape)]

/-- The settings that a text holds. -/
def Settings.ofText (text : String) : Except ReadError Settings :=
  Yaml.decodeRecord Settings.shape Settings.decode text

/-- The text of the settings. -/
def Settings.toText (s : Settings) : String := Yaml.writeFields 0 s.encodeFields

end SatelliteWindows
