import SatelliteWindows.Scene

/-!
# Closing satellites

A satellite that is closed while it is starting up loses what was held back for it. When the main
window goes, all satellites go with it.
-/

namespace SatelliteWindows.Scene

variable {σ : Type} [Desktop σ]

/-- Close a satellite. The entry of its window stays until it is found dead. -/
def closeSatellite (name : String) (s : Scene σ) : Scene σ :=
  let s := s.alter fun f =>
    { f with awaited := f.awaited.erase name, backlog := f.backlog.release name }
  match s.find? name with
  | none => s
  | some w =>
    match s.closeWindow w with
    | (none, s) => s.report (.closed name)
    | (some _, s) => s

/-- Close windows one after the other, whether or not it can be done. -/
def closeWindows (ws : List WindowId) (s : Scene σ) : Scene σ :=
  ws.foldl (fun s w => (s.closeWindow w).2) s

/-- Close every registered window and forget all satellites and what was held back for them. -/
def closeAll (s : Scene σ) : Scene σ :=
  let (gone, roster) := s.fleet.roster.removeAll
  let s := s.alter fun f => { f with roster := roster }
  let s := s.closeWindows (gone.map Entry.window)
  let s := s.alter fun f => { f with backlog := Backlog.empty, awaited := NameMap.empty }
  s.report (.allClosed gone.length)

/-- The main window has gone. -/
def mainWindowClosed (s : Scene σ) : Scene σ := s.closeAll

end SatelliteWindows.Scene
