import SatelliteWindows.Scenario
import SatelliteWindows.Yaml.Shape

/-!
# Scenarios as text

Scenarios are written in YAML. Steps are told from the names of their actions.
-/

namespace SatelliteWindows.Scenario

open Yaml (Shape ReadError)

/-- The fields of a scenario. -/
def shape : List (String × Shape) :=
  [("name", .text), ("description", .optional .text), ("platform", .optional (.tagged "kind")),
    ("session", .payload), ("steps", .items (.tagged "action"))]

/-- The scenario that a text holds. -/
def ofText (text : String) : Except ReadError Scenario :=
  Yaml.decodeRecord shape Scenario.decode text

end SatelliteWindows.Scenario
