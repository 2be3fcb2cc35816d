import SatelliteWindows.Datum

/-!
# Sizes and positions

Windows are measured in pixels. A requested size is shrunk to the screen in each dimension on its
own and never grown.
-/

namespace SatelliteWindows

/-- Width and height of a window's content. -/
structure Size where
  /-- Pixels from left to right. -/
  width : UInt32
  /-- Pixels from top to bottom. -/
  height : UInt32
  deriving DecidableEq, Repr, Inhabited

/-- Where the top left corner of a window is. -/
structure Point where
  /-- Pixels to the right of the screen's origin. -/
  x : Int32
  /-- Pixels below the screen's origin. -/
  y : Int32
  deriving DecidableEq, Inhabited

/-- Size and position of a window. -/
structure Geometry where
  /-- How large the window is. -/
  size : Size
  /-- Where the window is. -/
  position : Point
  deriving DecidableEq, Inhabited

namespace Size

/-- The size shrunk to fit into the bounds. -/
def clampTo (s bounds : Size) : Size := ⟨min s.width bounds.width, min s.height bounds.height⟩

/-- Whether the size leaves nothing to be seen. -/
def isDegenerate (s : Size) : Bool := s.width == 0 || s.height == 0

/-- The written form of a size. -/
def encode (s : Size) : Payload :=
  .record [("width", .int s.width.toNat), ("height", .int s.height.toNat)]

/-- A dimension: a whole number of 32 bits. -/
def dimension (d : Datum) : Except DecodeError UInt32 := do
  return UInt32.ofNat (← d.whole 0 (UInt32.size - 1)).toNat

/-- The size that a datum stands for. -/
def decode (d : Datum) : Except DecodeError Size := do
  let fields ← d.fields ["width", "height"]
  return {
    width := ← requiredField dimension "width" fields
    height := ← requiredField dimension "height" fields }

end Size

namespace Point

/-- The origin of the screen. -/
def origin : Point := ⟨0, 0⟩

/-- The written form of a point. -/
def encode (p : Point) : Payload := .record [("x", .int p.x.toInt), ("y", .int p.y.toInt)]

/-- A coordinate: a whole number of 32 bits with a sign. -/
def coordinate (d : Datum) : Except DecodeError Int32 := do
  return Int32.ofInt (← d.whole Int32.minValue.toInt Int32.maxValue.toInt)

/-- The point that a datum stands for. -/
def decode (d : Datum) : Except DecodeError Point := do
  let fields ← d.fields ["x", "y"]
  return {
    x := ← requiredField coordinate "x" fields
    y := ← requiredField coordinate "y" fields }

end Point

namespace Geometry

/-- The written form of a geometry. -/
def encode (g : Geometry) : Payload :=
  .record [("size", g.size.encode), ("position", g.position.encode)]

/-- The geometry that a datum stands for. -/
def decode (d : Datum) : Except DecodeError Geometry := do
  let fields ← d.fields ["size", "position"]
  return {
    size := ← requiredField Size.decode "size" fields
    position := ← requiredField Point.decode "position" fields }

end Geometry

end SatelliteWindows
