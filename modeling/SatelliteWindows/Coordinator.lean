import SatelliteWindows.Feed
import SatelliteWindows.Scene.Request
import SatelliteWindows.Settings

/-!
# The coordinator

The coordinator carries out one request after the other and publishes the activity that comes of
it. An opening that was asked for by a request to open is given up when it is not answered in time.
Time is counted in milliseconds and passes only while the coordinator waits; carrying out a request
takes none, and nothing is put off for more than thirty years. Timers that fall due while it waits
go off in the order of their deadlines, and those of one deadline in the order in which they were
set.

A coordinator that was shut down has closed all satellites and refuses every request.
-/

namespace SatelliteWindows

/-- The longest time that anything is put off for, in milliseconds: thirty years of 365 days. What
would be put off for longer is put off for as long, also where the moment asked for could be told:
a timeout of a second more than thirty years is over when thirty years are. -/
def longestDelay : Nat := 30 * 365 * 24 * 60 * 60 * 1000

/-- How long something is put off that is to be put off for some time: a wait, a timeout and an
interruption alike. -/
def delay (ms : Nat) : Nat := min ms longestDelay

/-- An opening that is given up at some moment if it was not answered until then. -/
structure Timer where
  /-- When. -/
  deadline : Nat
  /-- The satellite that was opened. -/
  name : String
  /-- The number of the opening. -/
  generation : Nat
  deriving DecidableEq, Repr

/-- A coordinator at work or shut down. -/
structure Coordinator (σ : Type) where
  /-- The fleet and its desktop. -/
  scene : Scene σ
  /-- Where activity is published. -/
  feed : Feed Activity
  /-- After how many milliseconds an opening is given up. -/
  timeout : Option Nat
  /-- How many milliseconds have passed. -/
  clock : Nat := 0
  /-- The timers that are set, in the order in which they will go off. -/
  timers : List Timer := []
  /-- Whether requests are carried out. -/
  running : Bool := true

namespace Coordinator

variable {σ : Type}

/-- A timer among others, in the order of the deadlines and behind those of its own. -/
def insertTimer (t : Timer) : List Timer → List Timer
  | [] => [t]
  | u :: rest => if t.deadline < u.deadline then t :: u :: rest else u :: insertTimer t rest

/-- Set the timer that a request calls for, given what it was answered with. -/
def arm (r : Request) (answer : Except Fault Answer) (c : Coordinator σ) : Coordinator σ :=
  match r, answer, c.timeout with
  | .openSatellite name _ _, .ok (.opening (.opened generation)), some timeout =>
    { c with timers := insertTimer ⟨c.clock + timeout, name, generation⟩ c.timers }
  | _, _, _ => c

variable [Desktop σ]

/-- A coordinator that nothing was asked of yet. -/
def start (settings : CoordinatorSettings) (platform : Platform) (session : Payload) (world : σ) :
    Coordinator σ where
  scene := (Scene.start .main platform session world).installCalls
  feed := { capacity := settings.busCapacity.toNat }
  timeout := settings.openTimeout.map fun seconds => delay (1000 * seconds)

/-- Change the scene and publish the activity that is new in its journal. -/
def advance (f : Scene σ → α × Scene σ) (c : Coordinator σ) : α × Coordinator σ :=
  let (a, scene) := f c.scene
  let news := Journal.activities (scene.journal.drop c.scene.journal.length)
  (a, { c with scene := scene, feed := c.feed.sendAll news })

/-- Carry out a request. -/
def serve (r : Request) (c : Coordinator σ) : Except Fault Answer × Coordinator σ :=
  if c.running then
    let (answer, c) := c.advance (Scene.perform r)
    (answer, c.arm r answer)
  else (.error .channelClosed, c)

/-- Carry out requests one after the other. -/
def serveAll : List Request → Coordinator σ → List (Except Fault Answer) × Coordinator σ
  | [], c => ([], c)
  | r :: rest, c =>
    let (answer, c) := c.serve r
    (serveAll rest c).map (answer :: ·) id

/-- A timer goes off. -/
def fire (t : Timer) (c : Coordinator σ) : Coordinator σ :=
  (c.serve (.expire t.name t.generation)).2

/-- Let time pass until the given moment. -/
def waitUntil (moment : Nat) (c : Coordinator σ) : Coordinator σ :=
  let due := c.timers.takeWhile fun t => t.deadline ≤ moment
  let c := { c with timers := c.timers.dropWhile fun t => t.deadline ≤ moment }
  { due.foldl (fun c t => { c with clock := t.deadline }.fire t) c with clock := moment }

/-- Let time pass. -/
def wait (ms : Nat) (c : Coordinator σ) : Coordinator σ := c.waitUntil (c.clock + delay ms)

/-- Close all satellites and carry out no more requests. -/
def shutdown (c : Coordinator σ) : Except Fault Unit × Coordinator σ :=
  if c.running then
    let ((), c) := c.advance fun s => ((), s.mainWindowClosed)
    (.ok (), { c with running := false })
  else (.error .channelClosed, c)

end Coordinator

end SatelliteWindows
