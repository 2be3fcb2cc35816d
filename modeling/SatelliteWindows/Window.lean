import SatelliteWindows.Geometry

/-!
# Windows and requests for them

A window is referred to by the number it got when it came to exist. Numbers are never given twice,
so two references are to the same window exactly if they are equal.
-/

namespace SatelliteWindows

/-- A reference to a window: its number in order of creation. -/
abbrev WindowId := Nat

/-- The reference as it is written. -/
def windowText (w : WindowId) : String := "w" ++ toString w

/-- What is asked of the host when a window is wanted. -/
structure OpenRequest where
  /-- The satellite the window is for. -/
  name : String
  /-- What the host calls the window. -/
  windowName : String
  /-- How large the window shall be. -/
  size : Size
  /-- Where the window shall be, if that matters. -/
  position : Option Point
  deriving DecidableEq

namespace OpenRequest

/-- The written form of a request; a position that does not matter is left out. -/
def encode (r : OpenRequest) : Payload :=
  .record ([("name", .text r.name), ("window-name", .text r.windowName), ("size", r.size.encode)]
    ++ match r.position with
      | some p => [("position", p.encode)]
      | none => [])

/-- The request that a datum stands for. -/
def decode (d : Datum) : Except DecodeError OpenRequest := do
  let fields ← d.fields ["name", "window-name", "size", "position"]
  return {
    name := ← requiredField Datum.string "name" fields
    windowName := ← requiredField Datum.string "window-name" fields
    size := ← requiredField Size.decode "size" fields
    position := ← optionalField Point.decode "position" fields }

end OpenRequest

end SatelliteWindows
