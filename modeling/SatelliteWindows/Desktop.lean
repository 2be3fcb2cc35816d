import SatelliteWindows.Fault
import SatelliteWindows.Window

/-!
# The desktop

Windows live on a desktop that nobody coordinates: they fail, move and die without telling anyone.
A desktop is known by what can be asked of it. Its state is a value of any type; every request is
answered by a fault, if it failed, and the state of the desktop afterwards. Nothing is assumed about
the answers, so what is proved for an arbitrary desktop holds however windows behave.
-/

namespace SatelliteWindows

/-- What can be asked of a desktop whose state is a `σ`. -/
class Desktop (σ : Type) where
  /-- Whether a window is there at the moment. -/
  isAlive : σ → WindowId → Bool
  /-- Size and position of a window. -/
  geometry : σ → WindowId → Except Fault Geometry
  /-- The area for new windows. -/
  screen : σ → Size
  /-- Hand a message to a window. -/
  deliver : WindowId → Message → σ → Option Fault × σ
  /-- Bring a window to the front. -/
  focus : WindowId → σ → Option Fault × σ
  /-- Close a window. -/
  close : WindowId → σ → Option Fault × σ
  /-- Ask for a new window; whether one comes up is not said. -/
  openWindow : OpenRequest → σ → Option Fault × σ
  /-- Ask the shell to bring the window of a name to the front. -/
  raise : String → σ → Option Fault × σ
  /-- Let a moment pass, in which windows may die. -/
  elapse : σ → σ

end SatelliteWindows
