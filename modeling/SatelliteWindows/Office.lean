import SatelliteWindows.Coordinator
import SatelliteWindows.Mailbox

/-!
# The office

A coordinator reads its letters in an office. Clients write to it as they like: each has a list of
orders, which it places one after the other, and it may wait for the answer to a request before it
places the next order. Timers that were set are alarms here; when its time has come an alarm writes
a letter as well. Everybody takes turns in any order whatsoever, and the coordinator reads one
letter in each of its turns. An order to shut down is the last letter that it reads; some time later
the mailbox is closed, and whoever waits for an answer then, or writes afterwards, is told so.

What happens in the office is written down.
-/

namespace SatelliteWindows

namespace Office

/-- Something that a client orders. -/
inductive Order where
  /-- A request is to be carried out, and the client is told the answer. -/
  | request (request : Request)
  /-- The coordinator is to shut down. The client is told when the order has been posted. -/
  | shutdown
  deriving DecidableEq

/-- Who writes letters. -/
inductive Correspondent (ρ : Type) where
  /-- A client. -/
  | client (client : ρ)
  /-- The alarm of an opening. -/
  | alarm (timer : Timer)
  deriving DecidableEq

/-- A letter. -/
structure Letter (ρ : Type) where
  /-- Who has written it. -/
  sender : Correspondent ρ
  /-- What it says. -/
  order : Order
  deriving DecidableEq

/-- Something that happens. -/
inductive Incident (ρ σ : Type) where
  /-- A letter was put into the mailbox. -/
  | posted (letter : Letter ρ)
  /-- A client could not place its order, since the mailbox is closed. -/
  | turnedAway (client : ρ) (order : Order)
  /-- A request was carried out. -/
  | served (sender : Correspondent ρ) (request : Request) (answer : Except Fault Answer)
  /-- The coordinator has shut down. -/
  | stopped (sender : Correspondent ρ)
  /-- The mailbox was closed, and the letters in it were thrown away. -/
  | closed (dropped : List (Letter ρ))
  /-- A client was told what became of its order. -/
  | told (client : ρ) (order : Order) (reply : Except Fault Answer)
  /-- The desktop has changed. -/
  | shifted (change : σ → σ)

namespace Letter

variable {ρ : Type}

/-- The letter in which an alarm asks for its opening to be given up. -/
def ofAlarm (t : Timer) : Letter ρ := ⟨.alarm t, .request (.expire t.name t.generation)⟩

/-- The client who waits for the answer to a letter, and the request. -/
def awaited? : Letter ρ → Option (ρ × Request)
  | ⟨.client p, .request r⟩ => some (p, r)
  | _ => none

/-- Whoever waits for the answer to a letter is told what it is. -/
def answer {σ : Type} (reply : Except Fault Answer) (l : Letter ρ) : List (Incident ρ σ) :=
  match l.awaited? with
  | some (p, r) => [.told p (.request r) reply]
  | none => []

/-- Whoever has posted a letter to which there is no answer is told that it was posted. -/
def receipt {σ : Type} : Letter ρ → List (Incident ρ σ)
  | ⟨.client p, .shutdown⟩ => [.told p .shutdown (.ok .done)]
  | _ => []

end Letter

end Office

/-- An office. -/
structure Office (ρ σ : Type) where
  /-- The coordinator. -/
  coordinator : Coordinator σ
  /-- The letters for the coordinator. -/
  mailbox : Mailbox (Office.Correspondent ρ) (Office.Letter ρ)
  /-- Whether the mailbox is closed. -/
  isClosed : Bool := false
  /-- What each client has yet to order, in order. -/
  orders : ρ → List Office.Order
  /-- Whether a client waits for the answer to a request before it places another order. -/
  isPatient : ρ → Bool
  /-- The alarms that have not written yet. -/
  alarms : List Timer := []
  /-- What has happened, oldest first. -/
  incidents : List (Office.Incident ρ σ) := []

namespace Office

variable {ρ σ : Type}

/-- An office for a coordinator, before anybody has had a turn. -/
def assemble (capacity : Nat) (orders : ρ → List Order) (isPatient : ρ → Bool)
    (c : Coordinator σ) : Office ρ σ where
  coordinator := { c with timers := [] }
  mailbox := { free := max capacity 1 }
  orders := orders
  isPatient := isPatient
  alarms := c.timers

/-- Write down what has happened. -/
def record (news : List (Incident ρ σ)) (o : Office ρ σ) : Office ρ σ :=
  { o with incidents := o.incidents ++ news }

/-- The mailbox is closed. -/
def close (o : Office ρ σ) : Office ρ σ :=
  { o with
    isClosed := true
    mailbox := { o.mailbox with letters := [], waiting := [], granted := [] } }.record
      (.closed o.mailbox.letters ::
        o.mailbox.letters.flatMap (Letter.answer (.error .channelClosed)))

variable [DecidableEq ρ]

/-- Put a letter into the mailbox, if there is a place for it; otherwise its sender waits. -/
def post (l : Letter ρ) (o : Office ρ σ) : Bool × Office ρ σ :=
  match o.mailbox.reserve l.sender with
  | (true, mailbox) => (true, { o with mailbox := mailbox.put l }.record (.posted l :: l.receipt))
  | (false, mailbox) => (false, { o with mailbox := mailbox })

/-- Whether a client may place an order: one that is patient does not while it waits for an
answer. -/
def mayWrite (p : ρ) (o : Office ρ σ) : Bool :=
  !(o.isPatient p && o.mailbox.letters.any fun l => (l.awaited?.map Prod.fst) == some p)

/-- A client has placed an order and has these left. -/
def leave (p : ρ) (rest : List Order) (o : Office ρ σ) : Office ρ σ :=
  { o with orders := fun q => if q = p then rest else o.orders q }

/-- An alarm has written. -/
def silence (t : Timer) (o : Office ρ σ) : Office ρ σ := { o with alarms := o.alarms.erase t }

/-- A client's turn: it places its next order. -/
def send (p : ρ) (o : Office ρ σ) : Office ρ σ :=
  match o.orders p with
  | [] => o
  | order :: rest =>
    if o.isClosed then
      (o.leave p rest).record [.turnedAway p order, .told p order (.error .channelClosed)]
    else if o.mayWrite p then
      match o.post ⟨.client p, order⟩ with
      | (true, o) => o.leave p rest
      | (false, o) => o
    else o

/-- An alarm's turn: it writes if its time has come. -/
def ring (t : Timer) (o : Office ρ σ) : Office ρ σ :=
  if t ∈ o.alarms ∧ t.deadline ≤ o.coordinator.clock then
    if o.isClosed then o.silence t
    else match o.post (.ofAlarm t) with
      | (true, o) => o.silence t
      | (false, o) => o
  else o

variable [Desktop σ]

omit [DecidableEq ρ] in
/-- The coordinator reads a letter. Alarms take over the timers that are set. -/
def handle (l : Letter ρ) (o : Office ρ σ) : Office ρ σ :=
  match l.order with
  | .request r =>
    let (answer, c) := o.coordinator.serve r
    { o with
      coordinator := { c with timers := [] }
      alarms := o.alarms ++ c.timers }.record (.served l.sender r answer :: l.answer answer)
  | .shutdown =>
    { o with coordinator := o.coordinator.shutdown.2 }.record [.stopped l.sender]

/-- The coordinator's turn: it reads a letter, whose place is given away before; or it closes the
mailbox once it has shut down. -/
def work (o : Office ρ σ) : Office ρ σ :=
  if o.coordinator.running then
    match o.mailbox.take? with
    | none => o
    | some (l, mailbox) => { o with mailbox := mailbox.release.2 }.handle l
  else if o.isClosed then o
  else o.close

/-- What can happen in an office. -/
inductive Act (ρ σ : Type) where
  /-- A client has a turn. -/
  | send (client : ρ)
  /-- An alarm has a turn. -/
  | ring (timer : Timer)
  /-- The coordinator has a turn. -/
  | work
  /-- Time passes. -/
  | pass (ms : Nat)
  /-- The desktop changes. -/
  | shift (change : σ → σ)

/-- What becomes of an office. -/
def act (a : Act ρ σ) (o : Office ρ σ) : Office ρ σ :=
  match a with
  | .send p => o.send p
  | .ring t => o.ring t
  | .work => o.work
  | .pass ms => { o with coordinator := o.coordinator.wait ms }
  | .shift change =>
    { o with coordinator := { o.coordinator with
      scene := o.coordinator.scene.move (.shift change) } }.record [.shifted change]

/-- What becomes of an office in the end, whoever had turns in whatever order. -/
def run (acts : List (Act ρ σ)) (o : Office ρ σ) : Office ρ σ := acts.foldl (fun o a => o.act a) o

end Office

end SatelliteWindows
