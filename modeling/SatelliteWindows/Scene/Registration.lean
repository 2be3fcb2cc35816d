import SatelliteWindows.Scene
import SatelliteWindows.WindowName

/-!
# The registration handshake

A satellite that has come up registers its window and is told the session and its parameters. When
it has applied them it asks for what was held back; from then on it takes part in broadcasts. Both
steps are calls from outside, made by the name of an operation.
-/

namespace SatelliteWindows

/-- The window of a caller, without which the call cannot be served. -/
def Caller.requireWindow (c : Call) (caller : Caller) : Except Fault WindowId :=
  match caller.window with
  | some w => .ok w
  | none => .error (.missingWindow c.operation)

namespace Scene

variable {σ : Type} [Desktop σ]

/-- A satellite can take messages in the given window. -/
def register (name : String) (w : WindowId) (s : Scene σ) : Scene σ :=
  let s := s.alter fun f =>
    { f with roster := f.roster.upsert ⟨name, w⟩, awaited := f.awaited.erase name }
  let s := s.deliver name w (.setSession s.fleet.session)
  let s := match s.fleet.startup.get? name with
    | some params => s.deliver name w (.setStartup params)
    | none => s
  s.report (.registered name (windowText w))

/-- Pass on what was held back for a satellite and hold back no more. -/
def flush (name : String) (s : Scene σ) : Scene σ :=
  let held := s.fleet.backlog.held name
  let s := s.alter fun f => { f with backlog := f.backlog.release name }
  if held.isEmpty then s
  else
    let windows := (s.fleet.roster.live s.isAlive name).map Entry.window
    (windows.foldl (fun s w => s.deliverAll name w (held.map .event)) s).report
      (.flushed name held.length)

/-- A child window that is no satellite came up. -/
def registerChild (name : String) (w : WindowId) (s : Scene σ) : Scene σ :=
  s.report (.childOpened name (windowText w))

/-- The child window of a name went away. -/
def unregisterChild (windowName : String) (s : Scene σ) : Scene σ :=
  s.report (.childClosed (WindowName.satellite windowName))

/-- Make everything callable that can be called; what is callable already is left alone. -/
def installCalls (s : Scene σ) : Scene σ :=
  s.alter fun f =>
    { f with calls := Call.all.foldl (fun t c => (t.install c.operation c).2) f.calls }

/-- Serve a call. -/
def serveCall (c : Call) (caller : Caller) (s : Scene σ) : Except Fault Unit × Scene σ :=
  match c with
  | .register =>
    match caller.requireWindow c with
    | .ok w => (.ok (), s.register caller.name w)
    | .error f => (.error f, s)
  | .flush => (.ok (), s.flush caller.name)
  | .registerChild =>
    match caller.requireWindow c with
    | .ok w => (.ok (), s.registerChild caller.name w)
    | .error f => (.error f, s)
  | .unregisterChild => (.ok (), s.unregisterChild caller.name)

/-- Serve a call by the name of its operation. -/
def invoke (operation : String) (caller : Caller) (s : Scene σ) : Except Fault Unit × Scene σ :=
  match s.fleet.calls.get? operation with
  | some c => s.serveCall c caller
  | none => (.error (.unknownOperation operation), s)

end Scene

end SatelliteWindows
