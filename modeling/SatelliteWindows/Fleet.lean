import SatelliteWindows.Backlog
import SatelliteWindows.CallTable
import SatelliteWindows.Platform
import SatelliteWindows.Roster
import SatelliteWindows.Tally

/-!
# The fleet of satellites as the main window knows it

A fleet is everything that is remembered about satellites between two operations: who is registered,
what is held back for those that are starting up, the parameters last supplied for each, which
openings have not been answered yet, and what may be called from outside.
-/

namespace SatelliteWindows

/-- The kind of window that looks after the fleet. -/
inductive Role where
  /-- The main window. -/
  | main
  /-- A satellite; it must not launch others. -/
  | satellite
  deriving DecidableEq, Repr, Inhabited

/-- What a satellite or another child window can call. -/
inductive Call where
  /-- A satellite can take messages. -/
  | register
  /-- A satellite has applied its parameters and wants what was held back. -/
  | flush
  /-- A child window that is no satellite came up. -/
  | registerChild
  /-- A child window is going away. -/
  | unregisterChild
  deriving DecidableEq, Repr

namespace Call

/-- The name by which the operation is called. -/
def operation : Call → String
  | register => "register-as-satellite"
  | flush => "flush-pending-events"
  | registerChild => "register-child-window"
  | unregisterChild => "unregister-child-window"

/-- What there is to call. -/
def all : List Call := [register, flush, registerChild, unregisterChild]

end Call

/-- Who calls. -/
structure Caller where
  /-- The name the call is about. -/
  name : String
  /-- The window of the caller, where it says so. -/
  window : Option WindowId := none
  deriving DecidableEq, Repr

/-- What is remembered about satellites. -/
structure Fleet where
  /-- The kind of window that looks after the fleet. -/
  role : Role := .main
  /-- Where that window runs. -/
  platform : Platform := Platform.default
  /-- The session that satellites are told when they register. -/
  session : Payload := .null
  /-- The registered satellites. -/
  roster : Roster := {}
  /-- What is held back for satellites that are starting up. -/
  backlog : Backlog := {}
  /-- The parameters last supplied for each satellite. -/
  startup : NameMap Payload := NameMap.empty
  /-- What can be called. -/
  calls : CallTable Call := {}
  /-- For each satellite that was asked for and has not registered since, the number of the
  opening. -/
  awaited : NameMap Nat := NameMap.empty
  /-- The number of the last opening. It grows by one with each and is no more bounded than what is
  counted, since 64 bits are never used up. -/
  generation : Nat := 0
  /-- What was counted. -/
  tally : Tally := {}
  deriving DecidableEq

namespace Fleet

/-- The counts together with the present sizes of roster and backlog. -/
def metrics (f : Fleet) : Metrics := ⟨f.roster.size, f.backlog.size, f.tally⟩

/-- Whether events are held back for a satellite. -/
def isHolding (f : Fleet) (name : String) : Bool := f.backlog.isHolding name

end Fleet

end SatelliteWindows
