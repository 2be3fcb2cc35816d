import SatelliteWindows.NameMap
import SatelliteWindows.Payload
import SatelliteWindows.Text.Quoted

/-!
# What satellites may call

Satellites hold no reference to the main window. They call it by the name of an operation, and a
call table says what each name stands for. A name is installed once; installing it again is refused.
-/

namespace SatelliteWindows

/-- What each operation name stands for. -/
structure CallTable (α : Type) where
  /-- The installed operations. -/
  calls : NameMap α := NameMap.empty
  deriving DecidableEq, Repr

namespace CallTable

variable {α : Type}

/-- The table without operations. -/
def empty : CallTable α := {}

/-- Install an operation, unless its name is taken. -/
def install (name : String) (call : α) (t : CallTable α) : Bool × CallTable α :=
  if t.calls.contains name then (false, t) else (true, ⟨t.calls.put name call⟩)

/-- What an operation name stands for. -/
def get? (t : CallTable α) (name : String) : Option α := t.calls.get? name

/-- The installed names, in the order of their code points. -/
def names (t : CallTable α) : List String := t.calls.sortedNames

/-- Whether nothing is installed. -/
def isEmpty (t : CallTable α) : Bool := t.calls.isEmpty

/-- The installed names, for those who look for mistakes. -/
def describe (t : CallTable α) : String :=
  "CallbackTable \x7b ops: [" ++ ", ".intercalate (t.names.map Text.quoted) ++ "] \x7d"

end CallTable

end SatelliteWindows
