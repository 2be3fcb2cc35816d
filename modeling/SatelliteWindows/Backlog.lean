import SatelliteWindows.Message
import SatelliteWindows.NameMap

/-!
# Events held back

A satellite that has been asked for but is not ready yet must not miss what happens meanwhile. The
backlog holds a queue of events for each such satellite, and a queue exists exactly as long as the
satellite is being waited for.
-/

namespace SatelliteWindows

/-- The events held back for each satellite that is starting up. -/
structure Backlog where
  /-- The queues, oldest event first. -/
  queues : NameMap (List Event) := NameMap.empty
  deriving DecidableEq, Repr

namespace Backlog

/-- Nothing is held back. -/
def empty : Backlog := {}

/-- The queue of a satellite that is starting up. -/
def queue? (b : Backlog) (name : String) : Option (List Event) := b.queues.get? name

/-- Whether events are held back for a satellite. -/
def isHolding (b : Backlog) (name : String) : Bool := (b.queue? name).isSome

/-- Hold back events for a satellite from now on; what is held back already is kept. -/
def hold (name : String) (b : Backlog) : Backlog :=
  if b.isHolding name then b else ⟨b.queues.put name []⟩

/-- Hold an event back for one satellite; false if events are not held back for it. -/
def enqueue (name : String) (event : Event) (b : Backlog) : Bool × Backlog :=
  match b.queue? name with
  | some queue => (true, ⟨b.queues.put name (queue ++ [event])⟩)
  | none => (false, b)

/-- Hold an event back for every satellite that is starting up. -/
def enqueueAll (event : Event) (b : Backlog) : Backlog :=
  ⟨b.queues.mapValues (· ++ [event])⟩

/-- Hold back no more events for a satellite. -/
def release (name : String) (b : Backlog) : Backlog := ⟨b.queues.erase name⟩

/-- What is held back for a satellite, oldest first. -/
def held (b : Backlog) (name : String) : List Event := (b.queue? name).getD []

/-- How many events are held back for a satellite. -/
def count (b : Backlog) (name : String) : Nat := (b.held name).length

/-- How many satellites events are held back for. -/
def size (b : Backlog) : Nat := b.queues.size

/-- Whether events are held back for nobody. -/
def isEmpty (b : Backlog) : Bool := b.queues.isEmpty

/-- The satellites that events are held back for, in the order of their code points. -/
def names (b : Backlog) : List String := b.queues.sortedNames

/-- How many events are held back altogether. -/
def total (b : Backlog) : Nat := b.queues.entries.foldl (fun n e => n + e.2.length) 0

/-- Nothing is held back at first. -/
@[simp] theorem queue?_empty (name : String) : empty.queue? name = none := rfl

/-- There is no queue of a satellite that events are not held back for. -/
theorem queue?_eq_none {b : Backlog} {name : String} (h : b.isHolding name = false) :
    b.queue? name = none := by
  simpa [isHolding] using h

/-- For a satellite that nothing is held back for there is nothing to hand over. -/
theorem held_eq_nil {b : Backlog} {name : String} (h : b.isHolding name = false) :
    b.held name = [] := by
  rw [held, queue?_eq_none h]
  rfl

/-- Holding back starts with an empty queue and keeps one that is there. -/
theorem queue?_hold (b : Backlog) (name other : String) :
    (b.hold name).queue? other =
      if other = name then some ((b.queue? name).getD []) else b.queue? other := by
  unfold hold isHolding queue?
  split
  · next h =>
    obtain ⟨q, hq⟩ := Option.isSome_iff_exists.1 h
    split
    · next e => subst e; simp [hq]
    · rfl
  · next h =>
    have hn : b.queues.get? name = none := by simpa using h
    rw [NameMap.get?_put, hn]
    rfl

/-- An event is put at the end of every queue. -/
theorem queue?_enqueueAll (b : Backlog) (event : Event) (name : String) :
    (b.enqueueAll event).queue? name = (b.queue? name).map (· ++ [event]) :=
  NameMap.get?_mapValues _ _ _

/-- Releasing a satellite takes away its queue only. -/
theorem queue?_release (b : Backlog) (name other : String) :
    (b.release name).queue? other = if other = name then none else b.queue? other :=
  NameMap.get?_erase _ _ _

end Backlog

end SatelliteWindows
