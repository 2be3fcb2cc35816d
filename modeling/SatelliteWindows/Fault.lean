import SatelliteWindows.Message

/-!
# What can go wrong with a satellite
-/

namespace SatelliteWindows

/-- Why an operation on satellites or their windows failed. -/
inductive Fault where
  /-- Satellites were asked of a window other than the main one. -/
  | notMainWindow (name : String)
  /-- A satellite did not take a message. -/
  | delivery (name operation reason : String)
  /-- The window is not there any more. -/
  | windowClosed (window : String)
  /-- No operation of this name can be called. -/
  | unknownOperation (operation : String)
  /-- The operation was called without the window it is about. -/
  | missingWindow (operation : String)
  /-- Nobody takes requests any more. -/
  | channelClosed
  deriving DecidableEq, Repr

/-- The fault in words. -/
def Fault.message : Fault → String
  | .notMainWindow name =>
    "Satellite windows can't launch other satellites (requested: " ++ name ++ ")"
  | .delivery name operation reason =>
    "Delivery of " ++ operation ++ " to satellite " ++ name ++ " failed: " ++ reason
  | .windowClosed window => "Window " ++ window ++ " is closed"
  | .unknownOperation operation => "Unknown satellite operation: " ++ operation
  | .missingWindow operation => "Operation " ++ operation ++ " requires a window handle"
  | .channelClosed => "Coordinator channel closed"

end SatelliteWindows
