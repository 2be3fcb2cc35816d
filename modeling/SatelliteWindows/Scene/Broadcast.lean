import SatelliteWindows.Scene

/-!
# Broadcasts

Events and commands go to every registered satellite that is not starting up. Entries of windows
that have died are evicted, before the broadcast where that is known, and after it where a window is
found dead when its turn comes. Events are held back for satellites that are starting up; commands
are not.
-/

namespace SatelliteWindows.Scene

variable {σ : Type} [Desktop σ]

/-- Count and report entries that were dropped because their window had died. -/
def reportEvicted (dead : List Entry) (s : Scene σ) : Scene σ :=
  dead.foldl (fun s e =>
    (s.count fun t => { t with deadEvicted := t.deadEvicted + 1 }).report (.evicted e.name)) s

/-- Drop the entries of windows that have died since the last look. -/
def sweep (s : Scene σ) : Scene σ :=
  let (dead, roster) := s.fleet.roster.removeDead s.isAlive
  (s.alter fun f => { f with roster := roster }).reportEvicted dead

/-- Drop entries that were found dead. -/
def evict (dead : List Entry) (s : Scene σ) : Scene σ :=
  (s.alter fun f => { f with roster := f.roster.removeEntries dead }).reportEvicted dead

/-- Hand a message to each of the entries in turn. An entry of a satellite that is starting up is
passed over; one whose window is dead by then is returned. -/
def offer (m : Message) : List Entry → Scene σ → List Entry × Scene σ
  | [], s => ([], s)
  | e :: rest, s =>
    let s := s.elapse
    if s.fleet.isHolding e.name then offer m rest s
    else if s.isAlive e.window then offer m rest (s.deliver e.name e.window m)
    else (offer m rest s).map (e :: ·) id

/-- Hand a message to every registered satellite that is not starting up, and drop the entries of
windows that have died. -/
def broadcast (m : Message) (s : Scene σ) : Scene σ :=
  let s := s.sweep
  let (dead, s) := offer m s.fleet.roster.entries s
  s.evict dead

/-- Pass an event on to every registered satellite, and hold it back for those that are starting
up. -/
def dispatchEvent (e : Event) (s : Scene σ) : Scene σ :=
  let s := s.broadcast (.event e)
  let s := s.count fun t => { t with
    eventsDispatched := t.eventsDispatched + 1
    eventsBuffered := t.eventsBuffered + s.fleet.backlog.size }
  s.alter fun f => { f with backlog := f.backlog.enqueueAll e }

/-- Pass a command on to every registered satellite; those that are starting up never see it. -/
def dispatchCommand (c : Command) (s : Scene σ) : Scene σ :=
  let s := s.broadcast (.command c.id)
  s.count fun t => { t with
    commandsDispatched := t.commandsDispatched + 1
    commandsDropped := t.commandsDropped + s.fleet.backlog.size }

end SatelliteWindows.Scene
