import Mathlib.Algebra.GroupWithZero.Nat
import Mathlib.Algebra.Order.BigOperators.Group.List
import Mathlib.Algebra.Order.Group.Nat
import SatelliteWindows.Proofs.Feed
import SatelliteWindows.Proofs.Scenario.Rounds

/-!
# How much there is to do

How much there is to do in a run is weighed: every step that remains, every letter, everybody who is
to have a turn or waits, and what the listener has to read. Each weighs more than all that can come
of it.

A letter may give the listener as much to read as the feed keeps, and wake three parties. So much
may come of each letter; opening a satellite sets an alarm besides.
-/

namespace SatelliteWindows

section Loads

-- the unit is what a plain letter weighs; the other number is the time
variable (u c : Nat)

/-- How much may come of a letter. -/
def Letter.load : Letter → Nat
  | .request _ (.openSatellite ..) => 2 * u + 4
  | _ => u

/-- How much may come of a turn. An alarm that has not gone off sleeps first. -/
def Party.load : Party → Nat
  | .alarm t => if t.deadline ≤ c then u + 1 else u + 3
  | .watcher => 1
  | _ => 0

/-- How much may come of a place that is waited for, besides what the script means to do with it. -/
def Party.patience : Party → Nat
  | .script => 0
  | _ => u + 1

/-- How much may come of the turns that parties are to have. -/
def Turns.load (t : Turns) : Nat :=
  (t.queue.map fun p => 1 + p.load u c).sum
    + (t.resting.map fun p => 2 + p.load u c).sum + if t.scriptAwake then 1 else 0

/-- How much may come of what is in a mailbox, or is to be put in. -/
def Mailbox.load (m : Mailbox Party Letter) : Nat :=
  (m.letters.map (Letter.load u)).sum + (m.waiting.map (Party.patience u)).sum

/-- How much a step that remains may lead to. -/
def stepLoad : Nat := 2 * u + 7

/-- How much the script has still to do, depending on what it waits for and how many
steps remain. -/
def Hold.load (steps : Nat) : Hold → Nat
  | .free => stepLoad u * (steps + 1) + (u + 3)
  | .place _ => stepLoad u * steps + (u + 3) + (2 * u + 5)
  | .answer _ => stepLoad u * steps + (u + 3)
  | .moment time => stepLoad u * steps + (u + 3) + if c < time then 3 else 0
  | .watcher | .farewell => u + 1
  | .ending => 0

end Loads

namespace Turns

variable {u c : Nat} {p : Party} {t : Turns}

/-- A party that is woken is to have one turn more at most. -/
theorem load_wake (p : Party) (t : Turns) :
    (t.wake p).load u c ≤ t.load u c + 1 + p.load u c := by
  unfold wake
  split
  · unfold load
    dsimp only
    rw [if_pos rfl]
    omega
  · split
    · omega
    · unfold load
      rw [List.map_append, List.sum_append]
      simp only [List.map_cons, List.map_nil, List.sum_cons, List.sum_nil]
      omega

/-- A party that rests is to have one turn more, and has to be woken before. -/
theorem load_rest (p : Party) (t : Turns) :
    (t.rest p).load u c = t.load u c + 2 + p.load u c := by
  unfold rest load
  simp only [List.map_cons, List.sum_cons]
  omega

/-- Parties that are woken are to have one turn more each at most. -/
theorem load_wakeAll (ps : List Party) (t : Turns) :
    (ps.foldl (fun t p => t.wake p) t).load u c ≤
      t.load u c + (ps.map fun p => 1 + p.load u c).sum := by
  induction ps generalizing t with
  | nil => exact Nat.le_add_right _ _
  | cons p rest ih =>
    have hwake := load_wake (u := u) (c := c) p t
    have hrest := ih (t.wake p)
    rw [List.foldl_cons, List.map_cons, List.sum_cons]
    omega

/-- So are alarms. -/
theorem load_wakeAlarms (alarms : List Timer) (t : Turns) :
    (alarms.foldl (fun t a => t.wake (.alarm a)) t).load u c ≤
      t.load u c + (alarms.map fun a => 1 + (Party.alarm a).load u c).sum := by
  have hwoken := load_wakeAll (u := u) (c := c) (alarms.map Party.alarm) t
  rwa [List.foldl_map, List.map_map] at hwoken

/-- When a request was served the listener, the script and the alarms that were set may have to be
woken. -/
theorem load_served (news : Bool) (alarms : List Timer) (sender : Party) (t : Turns) :
    (t.served news alarms sender).load u c ≤ t.load u c + 2
      + (alarms.map fun a => 1 + (Party.alarm a).load u c).sum := by
  have hnews : (if news then t.wake .listener else t).load u c ≤ t.load u c + 1 := by
    split
    · exact load_wake .listener t
    · exact Nat.le_add_right _ _
  have halarms := load_wakeAlarms (u := u) (c := c) alarms
    (if news then t.wake .listener else t)
  unfold served
  dsimp only
  split
  · have hscript := load_wake (u := u) (c := c) .script
      (alarms.foldl (fun t a => t.wake (.alarm a)) (if news then t.wake .listener else t))
    have hnothing : Party.load u c .script = 0 := rfl
    omega
  · omega

/-- Whoever has rested has one thing less to do. -/
theorem load_wakeResting (t : Turns) :
    t.wakeResting.load u c + t.resting.length ≤ t.load u c := by
  have hwoken := load_wakeAll (u := u) (c := c) t.resting { t with resting := [] }
  have hsum : ∀ ps : List Party, (ps.map fun p => 1 + p.load u c).sum + ps.length =
      (ps.map fun p => 2 + p.load u c).sum := by
    intro ps
    induction ps with
    | nil => rfl
    | cons p rest ih =>
      simp only [List.map_cons, List.sum_cons, List.length_cons]
      omega
  have hrested := hsum t.resting
  have hsplit : t.load u c = ({ t with resting := [] } : Turns).load u c
      + (t.resting.map fun p => 2 + p.load u c).sum := by
    unfold load
    simp only [List.map_nil, List.sum_nil]
    omega
  unfold wakeResting
  omega

/-- The first in the queue counts no more once it has its turn. -/
theorem load_pop {rest : List Party} (h : t.queue = p :: rest) :
    t.load u c =
      ({ t with queue := rest } : Turns).load u c + 1 + p.load u c := by
  unfold load
  rw [h]
  simp only [List.map_cons, List.sum_cons]
  omega

/-- The later it is, the less may come of a turn. -/
theorem load_mono {time : Nat} (h : c ≤ time) (t : Turns) :
    t.load u time ≤ t.load u c := by
  have hparty : ∀ p : Party, p.load u time ≤ p.load u c := fun p => by
    cases p with
    | alarm t =>
      unfold Party.load
      dsimp only
      split <;> split <;> omega
    | _ => exact Nat.le_refl _
  have hqueue := List.sum_le_sum fun p (_ : p ∈ t.queue) => Nat.add_le_add_left (hparty p) 1
  have hresting := List.sum_le_sum fun p (_ : p ∈ t.resting) => Nat.add_le_add_left (hparty p) 2
  unfold load
  omega

/-- Nor does the script. -/
theorem load_calm (h : t.scriptAwake = true) :
    t.load u c = ({ t with scriptAwake := false } : Turns).load u c + 1 := by
  unfold load
  rw [if_pos h]
  rfl

end Turns

namespace Mailbox

variable {u : Nat} {p : Party} {m : Mailbox Party Letter}

/-- A letter that is put in counts from then on. -/
theorem load_put (place : (m.reserve p).1 = true) (letter : Letter) :
    ((m.reserve p).2.put letter).load u = m.load u + letter.load u := by
  have hwaiting : (m.reserve p).2.waiting = m.waiting := by
    unfold reserve at place ⊢
    split
    · rfl
    · next hgranted =>
      rw [if_neg hgranted] at place
      split
      · rfl
      · next hfree =>
        rw [if_neg hfree] at place
        split at place <;> cases place
  unfold load put
  rw [letters_reserve, hwaiting]
  simp only [List.map_append, List.sum_append, List.map_cons, List.map_nil, List.sum_cons,
    List.sum_nil]
  omega

/-- A party that waits for a place counts from then on. -/
theorem load_wait (full : (m.reserve p).1 = false) :
    (m.reserve p).2.load u ≤ m.load u + p.patience u := by
  unfold reserve at full ⊢
  split at full
  · cases full
  · next hgranted =>
    rw [if_neg hgranted]
    split at full
    · cases full
    · next hfree =>
      rw [if_neg hfree]
      split
      · exact Nat.le_add_right _ _
      · unfold load
        simp only [List.map_append, List.sum_append, List.map_cons, List.map_nil, List.sum_cons,
          List.sum_nil]
        omega

/-- The place of a letter that was taken out may go to somebody who has waited for it. -/
theorem load_release {letter : Letter} {rest : List Letter} (h : m.letters = letter :: rest) :
    ({ m with letters := rest } : Mailbox Party Letter).release.2.load u + letter.load u
      + ({ m with letters := rest } : Mailbox Party Letter).release.1.elim 0 (Party.patience u) =
        m.load u := by
  unfold release load
  rw [h]
  dsimp only
  cases hwaiting : m.waiting with
  | nil =>
    simp only [List.map_cons, List.sum_cons, Option.elim_none]
    omega
  | cons p others =>
    simp only [List.map_cons, List.sum_cons, Option.elim_some]
    omega

end Mailbox

namespace Run

variable {u : Nat} {p : Party} {r : Run}

/-- How much there is to do for sleeping alarms and the listener. -/
def aside (u : Nat) (r : Run) : Nat :=
  (u + 3) * r.alarms.length + r.coordinator.feed.unread r.listener

/-- How much there is to do besides what the script means to do. -/
def others (u : Nat) (r : Run) : Nat :=
  r.turns.load u r.clock + r.mailbox.load u + r.aside u

/-- How much there is to do. -/
def load (u : Nat) (r : Run) : Nat :=
  r.others u + r.script.hold.load u r.clock r.script.steps.length

/-- Others have more to do when a party rests. -/
theorem others_rest (p : Party) (r : Run) :
    (r.rest p).others u = r.others u + 2 + p.load u r.clock := by
  have hrest := Turns.load_rest (u := u) (c := r.clock) p r.turns
  show (r.turns.rest p).load u r.clock + r.mailbox.load u + r.aside u = _
  unfold others
  omega

/-- They have no more to do than its turn when one is woken. -/
theorem others_wake (p : Party) (r : Run) :
    (r.wake p).others u ≤ r.others u + 1 + p.load u r.clock := by
  have hwake := Turns.load_wake (u := u) (c := r.clock) p r.turns
  show (r.turns.wake p).load u r.clock + r.mailbox.load u + r.aside u ≤ _
  unfold others
  omega

/-- Sending a letter adds the letter and the coordinator's turn to what there is to do. -/
theorem others_send (p : Party) (letter : Letter) (r : Run) :
    (r.send p letter).2.others u ≤ r.others u +
      if (r.send p letter).1 then letter.load u + 1 else p.patience u := by
  cases hplace : (r.mailbox.reserve p).1 with
  | true =>
    have hwake := Turns.load_wake (u := u) (c := r.clock) .coordinator r.turns
    have hput := Mailbox.load_put (u := u) hplace letter
    have hnothing : Party.load u r.clock .coordinator = 0 := rfl
    rw [send_of_place hplace, if_pos rfl]
    show (r.turns.wake .coordinator).load u r.clock
      + ((r.mailbox.reserve p).2.put letter).load u + r.aside u ≤ _
    unfold others
    omega
  | false =>
    have hwait := Mailbox.load_wait (u := u) hplace
    rw [send_of_full hplace, if_neg Bool.false_ne_true]
    show r.turns.load u r.clock + (r.mailbox.reserve p).2.load u + r.aside u ≤ _
    unfold others
    omega

end Run

end SatelliteWindows
