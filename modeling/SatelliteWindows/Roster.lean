import SatelliteWindows.Window

/-!
# The roster of registered satellites

The roster says which window fulfils the role of which satellite, in the order in which satellites
first registered. Windows die without telling anyone, so the questions asked of the roster take the
predicate of being alive at the moment, and entries of dead windows stay until they are evicted.
-/

namespace SatelliteWindows

/-- A satellite and the window that registered for it. -/
structure Entry where
  /-- The satellite. -/
  name : String
  /-- Its window. -/
  window : WindowId
  deriving DecidableEq, Repr

/-- The registered satellites, in order of first registration. -/
structure Roster where
  /-- One entry per satellite. -/
  entries : List Entry := []
  deriving DecidableEq, Repr

namespace Roster

/-- Nobody is registered. -/
def empty : Roster := {}

/-- The window of the first live entry of a satellite. -/
def find? (alive : WindowId → Bool) (name : String) (r : Roster) : Option WindowId :=
  (r.entries.find? fun e => e.name == name && alive e.window).map Entry.window

/-- The live entries of a satellite. -/
def live (alive : WindowId → Bool) (name : String) (r : Roster) : List Entry :=
  r.entries.filter fun e => e.name == name && alive e.window

/-- Entries with the first one of the new entry's name replaced, or the new entry at the end. -/
def putEntry (new : Entry) : List Entry → List Entry
  | [] => [new]
  | e :: rest => if e.name = new.name then new :: rest else e :: putEntry new rest

/-- Register a window for a satellite. Registering the same window again changes nothing; another
window takes the place of the one registered before. -/
def upsert (new : Entry) (r : Roster) : Roster :=
  if new ∈ r.entries then r else ⟨putEntry new r.entries⟩

/-- The entries of dead windows, and the roster without them. -/
def removeDead (alive : WindowId → Bool) (r : Roster) : List Entry × Roster :=
  (r.entries.filter (fun e => !alive e.window), ⟨r.entries.filter (fun e => alive e.window)⟩)

/-- The roster without the given entries. -/
def removeEntries (gone : List Entry) (r : Roster) : Roster :=
  ⟨r.entries.filter (fun e => decide (e ∉ gone))⟩

/-- The entries of a satellite, and the roster without them. -/
def remove (name : String) (r : Roster) : List Entry × Roster :=
  (r.entries.filter (fun e => e.name == name), ⟨r.entries.filter (fun e => e.name != name)⟩)

/-- All entries, and the roster without them. -/
def removeAll (r : Roster) : List Entry × Roster := (r.entries, empty)

/-- How many entries there are. -/
def size (r : Roster) : Nat := r.entries.length

/-- Whether there is no entry. -/
def isEmpty (r : Roster) : Bool := r.entries.isEmpty

/-- The registered satellites in order. -/
def names (r : Roster) : List String := r.entries.map Entry.name

end Roster

end SatelliteWindows
