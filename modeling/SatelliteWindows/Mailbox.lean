/-!
# Mailboxes

A mailbox has places for a number of letters, which are taken out in the order in which they were
put in. Whoever wants to put in a letter needs a place: a free one at once, or else one that comes
free later. Places that come free go to those who wait, in the order in which they came; such a
place is kept until its letter is put in.
-/

namespace SatelliteWindows

/-- A mailbox for letters of a type `α` from senders of a type `ρ`. -/
structure Mailbox (ρ α : Type) where
  /-- How many places are free. -/
  free : Nat
  /-- The letters, oldest first. -/
  letters : List α := []
  /-- Who waits for a place, in order. -/
  waiting : List ρ := []
  /-- Who has waited and been given a place, but has put nothing in yet. -/
  granted : List ρ := []
  deriving DecidableEq, Repr

namespace Mailbox

variable {ρ α : Type} [DecidableEq ρ]

/-- Take a place for a letter of a sender, if there is one for it; otherwise the sender waits. -/
def reserve (sender : ρ) (m : Mailbox ρ α) : Bool × Mailbox ρ α :=
  if sender ∈ m.granted then (true, { m with granted := m.granted.erase sender })
  else if 0 < m.free then (true, { m with free := m.free - 1 })
  else if sender ∈ m.waiting then (false, m)
  else (false, { m with waiting := m.waiting ++ [sender] })

/-- Put a letter into a place that was taken for it. -/
def put (letter : α) (m : Mailbox ρ α) : Mailbox ρ α := { m with letters := m.letters ++ [letter] }

/-- Give a place back; the sender it goes to is given, if there is one. -/
def release (m : Mailbox ρ α) : Option ρ × Mailbox ρ α :=
  match m.waiting with
  | [] => (none, { m with free := m.free + 1 })
  | sender :: rest => (some sender, { m with waiting := rest, granted := m.granted ++ [sender] })

/-- Take the oldest letter out; its place is not given back yet. -/
def take? (m : Mailbox ρ α) : Option (α × Mailbox ρ α) :=
  match m.letters with
  | [] => none
  | letter :: rest => some (letter, { m with letters := rest })

/-- Forget about a sender; the sender that its place goes to is given, if there is one. -/
def withdraw (sender : ρ) (m : Mailbox ρ α) : Option ρ × Mailbox ρ α :=
  if sender ∈ m.granted then { m with granted := m.granted.erase sender }.release
  else (none, { m with waiting := m.waiting.erase sender })

/-- Taking a place, or waiting for one, does nothing to the letters. -/
theorem letters_reserve (sender : ρ) (m : Mailbox ρ α) :
    (m.reserve sender).2.letters = m.letters := by
  unfold reserve
  split
  · rfl
  · split
    · rfl
    · split <;> rfl

omit [DecidableEq ρ] in
/-- Giving a place back does nothing to the letters. -/
theorem letters_release (m : Mailbox ρ α) : m.release.2.letters = m.letters := by
  unfold release
  split <;> rfl

/-- Nor does forgetting about a sender. -/
theorem letters_withdraw (sender : ρ) (m : Mailbox ρ α) :
    (m.withdraw sender).2.letters = m.letters := by
  unfold withdraw
  split
  · exact letters_release _
  · rfl

end Mailbox

end SatelliteWindows
