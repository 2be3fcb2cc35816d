import SatelliteWindows.Scenario
import SatelliteWindows.Text.Blank

/-!
# Well-formed scenarios

A scenario is checked before anything of it runs. It must have steps, names must not be blank, what
is opened must have a size and what is dispatched a name, and nothing is done to the window of a
satellite that was not opened before. The first flaw is reported, with the number of its step.
-/

namespace SatelliteWindows

/-- What is wrong with a scenario. -/
inductive Flaw where
  /-- There is no step. -/
  | noSteps (scenario : String)
  /-- The name of a satellite is blank. -/
  | blankName (index : Nat) (action : String)
  /-- A satellite is to be opened with nothing to be seen. -/
  | degenerateSize (index : Nat) (name : String)
  /-- An event has no type. -/
  | noEventType (index : Nat)
  /-- A command has no name. -/
  | noCommand (index : Nat)
  /-- There can be no window to do something to. -/
  | neverOpened (index : Nat) (action name : String)
  deriving DecidableEq, Repr

/-- The flaw in words. -/
def Flaw.message : Flaw → String
  | .noSteps scenario => "Scenario '" ++ scenario ++ "' has no steps"
  | .blankName index action =>
    "Step " ++ toString index ++ " (" ++ action ++ "): satellite name is empty"
  | .degenerateSize index name =>
    "Step " ++ toString index ++ " (open): size of '" ++ name ++ "' must be non-zero"
  | .noEventType index => "Step " ++ toString index ++ " (dispatch-event): event-type is empty"
  | .noCommand index => "Step " ++ toString index ++ " (dispatch-command): id is empty"
  | .neverOpened index action name =>
    "Step " ++ toString index ++ " (" ++ action ++ "): '" ++ name
      ++ "' is never opened before this step"

namespace Step

/-- The flaw of a blank name. -/
def nameFlaw? (index : Nat) (s : Step) : Option Flaw :=
  match s.target? with
  | some name => if Text.isBlank name then some (.blankName index s.action) else none
  | none => none

/-- The flaw of what the step gives besides a name. -/
def detailFlaw? (index : Nat) : Step → Option Flaw
  | openSatellite name _ (some size) =>
    if size.isDegenerate then some (.degenerateSize index name) else none
  | dispatchEvent eventType _ => if eventType.isEmpty then some (.noEventType index) else none
  | dispatchCommand id => if id.isEmpty then some (.noCommand index) else none
  | _ => none

/-- The flaw of a window that can not be there, given the satellites opened so far. -/
def windowFlaw? (index : Nat) (opened : List String) (s : Step) : Option Flaw :=
  match s.target? with
  | some name =>
    if s.needsWindow && !opened.contains name then some (.neverOpened index s.action name)
    else none
  | none => none

/-- The satellites opened so far when the step has been taken. -/
def opening (opened : List String) : Step → List String
  | openSatellite name .. => name :: opened
  | _ => opened

/-- The first flaw of a step. -/
def flaw? (index : Nat) (opened : List String) (s : Step) : Option Flaw :=
  s.nameFlaw? index <|> s.detailFlaw? index <|> s.windowFlaw? index (s.opening opened)

end Step

namespace Scenario

/-- The first flaw of the steps from a number on. -/
def stepsFlaw? : Nat → List String → List Step → Option Flaw
  | _, _, [] => none
  | index, opened, s :: rest =>
    s.flaw? index opened <|> stepsFlaw? (index + 1) (s.opening opened) rest

/-- The first flaw of a scenario. -/
def flaw? (s : Scenario) : Option Flaw :=
  if s.steps.isEmpty then some (.noSteps s.name) else stepsFlaw? 1 [] s.steps

/-- A scenario is accepted unless it has a flaw. -/
def validate (s : Scenario) : Except Flaw Unit :=
  match s.flaw? with
  | some f => .error f
  | none => .ok ()

end Scenario

end SatelliteWindows
