/-!
# The activity feed

Whoever is interested in activity subscribes to a feed. The feed keeps the last items sent, as many
as its capacity rounded up to a power of two. A subscriber reads at its own pace from the moment it
subscribed; one that falls behind is told how many items it has lost and goes on with the oldest one
that is kept. Without subscribers an item is dropped.
-/

namespace SatelliteWindows

/-- What a subscriber gets when it reads. -/
inductive Receipt (α : Type) where
  /-- An item. -/
  | item (value : α)
  /-- The number of items that were lost before the next one. -/
  | lagged (lost : Nat)
  deriving DecidableEq, Repr

/-- How many items a subscriber has behind it after a receipt, read or lost. -/
def Receipt.span {α : Type} : Receipt α → Nat
  | .item _ => 1
  | .lagged lost => lost

/-- A feed with its subscribers. -/
structure Feed (α : Type) where
  /-- The capacity that was asked for. -/
  capacity : Nat
  /-- How many items were sent. -/
  sent : Nat := 0
  /-- The last items sent, oldest first. -/
  kept : List α := []
  /-- For each subscription, in order, the number of the next item to be read; none once it has
  been given up. -/
  cursors : List (Option Nat) := []
  deriving DecidableEq, Repr

namespace Feed

variable {α : Type}

/-- The least power of two that is not less than a number. -/
def roundUp (n : Nat) : Nat := if n ≤ 1 then 1 else 1 <<< ((n - 1).log2 + 1)

/-- How many items are kept. -/
def slots (f : Feed α) : Nat := roundUp (max f.capacity 1)

/-- How many subscriptions there are. -/
def subscribers (f : Feed α) : Nat := (f.cursors.filter Option.isSome).length

/-- Subscribe to what is sent from now on; the subscription is known by its number. -/
def subscribe (f : Feed α) : Nat × Feed α :=
  (f.cursors.length, { f with cursors := f.cursors ++ [some f.sent] })

/-- Give up a subscription. -/
def unsubscribe (i : Nat) (f : Feed α) : Feed α := { f with cursors := f.cursors.set i none }

/-- Send an item to all subscribers. -/
def send (item : α) (f : Feed α) : Feed α :=
  if f.subscribers = 0 then f
  else
    let kept := f.kept ++ [item]
    { f with sent := f.sent + 1, kept := kept.drop (kept.length - f.slots) }

/-- Send items one after the other. -/
def sendAll (items : List α) (f : Feed α) : Feed α := items.foldl (fun f a => f.send a) f

/-- What a subscriber whose next item has the given number reads when it reads all there is. -/
def available (f : Feed α) (next : Nat) : List (Receipt α) :=
  let oldest := f.sent - f.kept.length
  if next < oldest then .lagged (oldest - next) :: f.kept.map .item
  else (f.kept.drop (next - oldest)).map .item

/-- Read all there is; nothing is known of a subscription that was given up. -/
def receive (i : Nat) (f : Feed α) : Option (List (Receipt α)) × Feed α :=
  match f.cursors[i]? with
  | some (some next) =>
    (some (f.available next), { f with cursors := f.cursors.set i (some f.sent) })
  | _ => (none, f)

/-- Read what there is, but no more than some number of receipts. -/
def receiveSome (limit i : Nat) (f : Feed α) : Option (List (Receipt α)) × Feed α :=
  match f.cursors[i]? with
  | some (some next) =>
    let read := (f.available next).take limit
    (some read,
      { f with cursors := f.cursors.set i (some (read.foldl (fun n r => n + r.span) next)) })
  | _ => (none, f)

/-- The items among what was read. -/
def itemsOf : List (Receipt α) → List α
  | [] => []
  | .item a :: rest => a :: itemsOf rest
  | .lagged _ :: rest => itemsOf rest

end Feed

end SatelliteWindows
