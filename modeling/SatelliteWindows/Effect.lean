import SatelliteWindows.Activity
import SatelliteWindows.Fault
import SatelliteWindows.Window

/-!
# What the coordination does to the outside

Whatever leaves the coordination is an effect: a call on a window or on the desktop, together with
the fault it failed with, or a report of activity. The effects of a run, in order, are its journal.
The functions of this module pick out of a journal the effects of one kind.
-/

namespace SatelliteWindows

/-- Something done to the outside. -/
inductive Effect where
  /-- A message was handed to a window on behalf of a satellite. -/
  | delivery (name : String) (window : WindowId) (message : Message) (fault : Option Fault)
  /-- A window was asked for. -/
  | openRequest (request : OpenRequest) (fault : Option Fault)
  /-- The shell was asked to bring a window to the front. -/
  | raise (windowName : String) (fault : Option Fault)
  /-- A window was brought to the front. -/
  | focus (window : WindowId) (fault : Option Fault)
  /-- A window was closed. -/
  | close (window : WindowId) (fault : Option Fault)
  /-- Activity was reported. -/
  | report (activity : Activity)
  deriving DecidableEq

/-- What was done, oldest effect first. -/
abbrev Journal := List Effect

/-- A message handed to a window. -/
structure Attempt where
  /-- The satellite it was for. -/
  name : String
  /-- The window it was handed to. -/
  window : WindowId
  /-- The message. -/
  message : Message
  /-- Why it was not taken, if it was not. -/
  fault : Option Fault
  deriving DecidableEq

namespace Effect

/-- The delivery that an effect is. -/
def attempt? : Effect → Option Attempt
  | delivery name window message fault => some ⟨name, window, message, fault⟩
  | _ => none

/-- The request for a window that an effect is. -/
def openRequest? : Effect → Option OpenRequest
  | openRequest request _ => some request
  | _ => none

/-- The activity that an effect reports. -/
def activity? : Effect → Option Activity
  | report activity => some activity
  | _ => none

/-- The window that an effect closes or tries to close. -/
def closed? : Effect → Option WindowId
  | close window _ => some window
  | _ => none

end Effect

namespace Journal

/-- The deliveries of a journal. -/
def attempts (j : Journal) : List Attempt := j.filterMap Effect.attempt?

/-- The requests for windows of a journal. -/
def openRequests (j : Journal) : List OpenRequest := j.filterMap Effect.openRequest?

/-- The activity that a journal reports. -/
def activities (j : Journal) : List Activity := j.filterMap Effect.activity?

/-- The windows that were closed, or tried to be closed, in a journal. -/
def closings (j : Journal) : List WindowId := j.filterMap Effect.closed?

end Journal

end SatelliteWindows
