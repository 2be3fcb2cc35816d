import Mathlib.Data.List.Forall2
import SatelliteWindows.Scene.Request

/-!
# Desktops seen as other desktops

Operations know a desktop only by what can be asked of it, and they never look into an event. So if
one desktop can be seen as another, in a way that all answers agree, and events are seen as other
events meanwhile, then a run on the one is seen as a run on the other. This is how runs are watched,
and how events are marked, without changing what happens.
-/

namespace SatelliteWindows

/-- A message with its event seen as another one. -/
def Message.seen (f : Event → Event) : Message → Message
  | .event e => .event (f e)
  | m => m

/-- An effect with its event seen as another one. -/
def Effect.seen (f : Event → Event) : Effect → Effect
  | .delivery name w m fault => .delivery name w (m.seen f) fault
  | e => e

/-- A journal with its events seen as other ones. -/
def Journal.seen (f : Event → Event) (j : Journal) : Journal := j.map (Effect.seen f)

/-- A backlog with its events seen as other ones. -/
def Backlog.seen (f : Event → Event) (b : Backlog) : Backlog :=
  ⟨b.queues.mapValues (List.map f)⟩

/-- A fleet with its events seen as other ones. -/
def Fleet.seen (f : Event → Event) (fleet : Fleet) : Fleet :=
  { fleet with backlog := fleet.backlog.seen f }

/-- A request with its event seen as another one. -/
def Request.seen (f : Event → Event) : Request → Request
  | .dispatchEvent e => .dispatchEvent (f e)
  | r => r

/-- A message with another event asks for the same operation. -/
@[simp] theorem Message.operation_seen (f : Event → Event) (m : Message) :
    (m.seen f).operation = m.operation := by
  cases m <;> rfl

namespace Backlog

variable (f : Event → Event) (b : Backlog)

/-- A queue holds other events in the same order. -/
@[simp] theorem queue?_seen (name : String) :
    (b.seen f).queue? name = (b.queue? name).map (List.map f) :=
  NameMap.get?_mapValues _ _ _

/-- Events are held back for the same satellites. -/
@[simp] theorem isHolding_seen (name : String) : (b.seen f).isHolding name = b.isHolding name := by
  simp [isHolding]

/-- The events held back for a satellite are other events in the same order. -/
@[simp] theorem held_seen (name : String) : (b.seen f).held name = (b.held name).map f := by
  unfold held
  rw [queue?_seen]
  cases b.queue? name <;> rfl

/-- As many are held back for it. -/
@[simp] theorem count_seen (name : String) : (b.seen f).count name = b.count name := by
  simp [count]

/-- For as many satellites events are held back. -/
@[simp] theorem size_seen : (b.seen f).size = b.size := by
  simp [seen, size, NameMap.size, NameMap.mapValues]

/-- It makes no difference when holding back begins. -/
theorem seen_hold (name : String) : (b.hold name).seen f = (b.seen f).hold name := by
  unfold hold
  rw [isHolding_seen]
  split
  · rfl
  · simp [seen, NameMap.mapValues_put]

/-- It makes no difference when a queue is released. -/
theorem seen_release (name : String) : (b.release name).seen f = (b.seen f).release name := by
  simp [seen, release, NameMap.mapValues_erase]

/-- An event that is held back everywhere is seen as another one that is. -/
theorem seen_enqueueAll (e : Event) :
    (b.enqueueAll e).seen f = (b.seen f).enqueueAll (f e) := by
  simp only [seen, enqueueAll, NameMap.mapValues_mapValues]
  congr 2
  funext q
  simp

end Backlog

/-- It makes no difference when the queue of a fleet is released. -/
theorem Fleet.seen_release (f : Event → Event) (name : String) (fleet : Fleet) :
    { fleet with backlog := fleet.backlog.release name }.seen f =
      { fleet.seen f with backlog := (fleet.seen f).backlog.release name } := by
  simp [Fleet.seen, Backlog.seen_release]

/-- One desktop seen as another: the answers to all questions agree, and so do the states that the
desktops are in afterwards. -/
structure Desktop.View (σ τ : Type) [Desktop σ] [Desktop τ] where
  /-- What a state is seen as. -/
  world : σ → τ
  /-- What an event is seen as. -/
  event : Event → Event
  isAlive : ∀ a w, Desktop.isAlive (world a) w = Desktop.isAlive a w
  geometry : ∀ a w, Desktop.geometry (world a) w = Desktop.geometry a w
  screen : ∀ a, Desktop.screen (world a) = Desktop.screen a
  deliver : ∀ w m a, Desktop.deliver w (m.seen event) (world a) =
    (Desktop.deliver w m a).map id world
  focus : ∀ w a, Desktop.focus w (world a) = (Desktop.focus w a).map id world
  close : ∀ w a, Desktop.close w (world a) = (Desktop.close w a).map id world
  openWindow : ∀ r a, Desktop.openWindow r (world a) = (Desktop.openWindow r a).map id world
  raise : ∀ n a, Desktop.raise n (world a) = (Desktop.raise n a).map id world
  elapse : ∀ a, Desktop.elapse (world a) = world (Desktop.elapse a)

namespace Scene

variable {σ τ : Type} [Desktop σ] [Desktop τ] (v : Desktop.View σ τ)

/-- A scene on a desktop that is seen as another one. -/
def seen (s : Scene σ) : Scene τ where
  fleet := s.fleet.seen v.event
  world := v.world s.world
  journal := s.journal.seen v.event

/-! ## Elementary steps -/

/-- The same windows are alive. -/
theorem isAlive_seen (s : Scene σ) : (s.seen v).isAlive = s.isAlive :=
  funext fun w => v.isAlive s.world w

/-- The same window is found for a satellite. -/
theorem find?_seen (s : Scene σ) (name : String) : (s.seen v).find? name = s.find? name := by
  unfold find?
  rw [isAlive_seen]
  rfl

/-- What is changed in a fleet is seen changed, if the change is not about events. -/
theorem seen_alter {f : Fleet → Fleet}
    (h : ∀ fleet : Fleet, (f fleet).seen v.event = f (fleet.seen v.event)) (s : Scene σ) :
    (s.alter f).seen v = (s.seen v).alter f := by
  show Scene.mk ((f s.fleet).seen v.event) _ _ = Scene.mk (f (s.fleet.seen v.event)) _ _
  rw [h s.fleet]
  rfl

/-- Counting is seen as counting. -/
theorem seen_count (f : Tally → Tally) (s : Scene σ) : (s.count f).seen v = (s.seen v).count f :=
  rfl

/-- An effect that is written down is seen as an effect that is. -/
theorem seen_record (e : Effect) (world : σ) (s : Scene σ) :
    ({ s with world := world }.record e).seen v =
      { s.seen v with world := v.world world }.record (e.seen v.event) := by
  simp [seen, record, Journal.seen]

/-- So is a report. -/
theorem seen_report (a : Activity) (s : Scene σ) : (s.report a).seen v = (s.seen v).report a :=
  seen_record v (.report a) s.world s

/-- Time that passes is seen to pass. -/
theorem seen_elapse (s : Scene σ) : s.elapse.seen v = (s.seen v).elapse := by
  simp [seen, elapse, v.elapse]

/-- A window that is brought to the front is seen to come to the front. -/
theorem seen_focus (w : WindowId) (s : Scene σ) : (s.focus w).seen v = (s.seen v).focus w := by
  unfold focus
  rw [seen_record]
  simp [seen, v.focus, Effect.seen]

/-- A window that is closed is seen to close, and the answer is the same. -/
theorem seen_closeWindow (w : WindowId) (s : Scene σ) :
    (s.seen v).closeWindow w = (s.closeWindow w).map id (seen v) := by
  unfold closeWindow
  simp only [Prod.map_apply, seen_record]
  simp [seen, v.close, Effect.seen]

/-- So it is when the shell brings one to the front. -/
theorem seen_raise (windowName : String) (s : Scene σ) :
    (s.raise windowName).seen v = (s.seen v).raise windowName := by
  unfold raise
  rw [seen_record]
  simp [seen, v.raise, Effect.seen]

/-- A request for a window is seen as that request. -/
theorem seen_requestWindow (r : OpenRequest) (s : Scene σ) :
    (s.requestWindow r).seen v = (s.seen v).requestWindow r := by
  unfold requestWindow
  rw [seen_record]
  simp [seen, v.openWindow, Effect.seen]

/-- A message that is handed over is seen as the message with the other event. -/
theorem seen_deliver (name : String) (w : WindowId) (m : Message) (s : Scene σ) :
    (s.deliver name w m).seen v = (s.seen v).deliver name w (m.seen v.event) := by
  have hd : Desktop.deliver w (m.seen v.event) (s.seen v).world =
      (Desktop.deliver w m s.world).map id v.world := v.deliver w m s.world
  unfold deliver
  rw [hd]
  cases Desktop.deliver w m s.world with
  | mk fault world =>
    cases fault with
    | none => exact seen_record v _ world s
    | some f =>
      dsimp only [Prod.map_apply, id_eq]
      rw [seen_report, seen_count, seen_record, Message.operation_seen]
      rfl

/-- So are several. -/
theorem seen_deliverAll (name : String) (w : WindowId) (ms : List Message) (s : Scene σ) :
    (s.deliverAll name w ms).seen v =
      (s.seen v).deliverAll name w (ms.map (Message.seen v.event)) := by
  induction ms generalizing s with
  | nil => rfl
  | cons m rest ih =>
    refine (ih _).trans ?_
    rw [seen_deliver]
    rfl

/-- Reports on entries are seen as these reports. -/
theorem seen_reportEvicted (dead : List Entry) (s : Scene σ) :
    (s.reportEvicted dead).seen v = (s.seen v).reportEvicted dead := by
  induction dead generalizing s with
  | nil => rfl
  | cons e rest ih =>
    refine (ih _).trans (congrArg (reportEvicted rest) ?_)
    rw [seen_report, seen_count]

/-- Windows that are closed are seen to close. -/
theorem seen_closeWindows (ws : List WindowId) (s : Scene σ) :
    (s.closeWindows ws).seen v = (s.seen v).closeWindows ws := by
  induction ws generalizing s with
  | nil => rfl
  | cons w rest ih =>
    exact (ih _).trans (congrArg (closeWindows rest)
      (congrArg Prod.snd (seen_closeWindow v w s)).symm)

/-! ## Operations -/

/-- A satellite that is opened anew is seen to be opened anew. -/
theorem seen_openAnew (name : String) (params : Option Payload) (placement : Placement)
    (s : Scene σ) : (s.seen v).openAnew name params placement =
      (s.openAnew name params placement).map id (seen v) := by
  have hrequest : (s.seen v).requestFor name placement = s.requestFor name placement := by
    simp [requestFor, seen, v.screen]
  have hexpect : ∀ fleet : Fleet, (fleet.expect name params).seen v.event =
      (fleet.seen v.event).expect name params := fun fleet => by
    simp [Fleet.expect, Fleet.seen, Backlog.seen_hold]
  unfold openAnew
  simp only [Prod.map_apply, id_eq, seen_report, seen_requestWindow, seen_alter v hexpect,
    hrequest]
  rfl

/-- One that is brought to the front is seen to be brought to the front. -/
theorem seen_reactivate (name : String) (w : WindowId) (params : Option Payload) (s : Scene σ) :
    (s.reactivate name w params).seen v = (s.seen v).reactivate name w params := by
  unfold reactivate
  rw [seen_report, seen_deliver, seen_count]
  rfl

/-- Whether it is opened anew or brought to the front is seen as well. -/
theorem seen_openPlaced (name : String) (params : Option Payload) (placement : Placement)
    (s : Scene σ) : (s.seen v).openPlaced name params placement =
      (s.openPlaced name params placement).map id (seen v) := by
  have hrole : (s.seen v).fleet.role = s.fleet.role := rfl
  have hplatform : (s.seen v).fleet.platform = s.fleet.platform := rfl
  unfold openPlaced
  rw [find?_seen, hrole, hplatform]
  cases s.fleet.role with
  | satellite => rfl
  | main =>
    dsimp only
    cases s.find? name with
    | none =>
      dsimp only
      rw [seen_openAnew]
      rfl
    | some w =>
      dsimp only
      cases s.fleet.platform.reactivation with
      | hostActivate => simp only [Prod.map_apply, id_eq, seen_reactivate, seen_raise]
      | refocus => simp only [Prod.map_apply, id_eq, seen_reactivate, seen_focus]
      | reopen =>
        have hnotice := seen_deliver v name w .pendingReactivate s
        dsimp only [Message.seen] at hnotice
        dsimp only
        rw [← hnotice, seen_openAnew]
        rfl

/-- A satellite that is forced open again is seen to be. -/
theorem seen_forceReopen (name : String) (params : Option Payload) (s : Scene σ) :
    (s.seen v).forceReopen name params = (s.forceReopen name params).map id (seen v) := by
  have hgeometry : ∀ w, Desktop.geometry (s.seen v).world w = Desktop.geometry s.world w :=
    v.geometry s.world
  unfold forceReopen
  rw [find?_seen]
  cases s.find? name with
  | none => rfl
  | some w =>
    dsimp only
    rw [hgeometry]
    cases Desktop.geometry s.world w with
    | error f => rfl
    | ok g =>
      have hnotice := seen_deliver v name w .pendingReactivate s
      dsimp only [Message.seen] at hnotice
      dsimp only
      rw [← hnotice, seen_closeWindow]
      dsimp only [Prod.map_snd]
      rw [seen_openPlaced]
      rfl

/-- One that is activated is seen to be. -/
theorem seen_activate (name : String) (s : Scene σ) :
    (s.activate name).seen v = (s.seen v).activate name := by
  have hplatform : (s.seen v).fleet.platform = s.fleet.platform := rfl
  unfold activate
  rw [find?_seen, hplatform]
  split
  · exact seen_raise v _ s
  · split
    · exact seen_focus v _ s
    · rfl

/-- One that is closed is seen to be. -/
theorem seen_closeSatellite (name : String) (s : Scene σ) :
    (s.closeSatellite name).seen v = (s.seen v).closeSatellite name := by
  have hgiveUp : ∀ fleet : Fleet, Fleet.seen v.event
      { fleet with
        awaited := fleet.awaited.erase name
        backlog := fleet.backlog.release name } =
      { fleet.seen v.event with
        awaited := (fleet.seen v.event).awaited.erase name
        backlog := (fleet.seen v.event).backlog.release name } :=
    fun fleet => by simp [Fleet.seen, Backlog.seen_release]
  unfold closeSatellite
  dsimp only
  rw [← seen_alter v hgiveUp]
  generalize s.alter _ = t
  rw [find?_seen]
  cases t.find? name with
  | none => rfl
  | some w =>
    dsimp only
    rw [seen_closeWindow]
    cases t.closeWindow w with
    | mk fault u => cases fault <;> simp [seen_report]

/-- All are seen to be closed when they are. -/
theorem seen_closeAll (s : Scene σ) : s.closeAll.seen v = (s.seen v).closeAll := by
  have hroster : ∀ fleet : Fleet, { fleet with roster := Roster.empty }.seen v.event =
      { fleet.seen v.event with roster := Roster.empty } := fun _ => rfl
  have hclear : ∀ fleet : Fleet,
      { fleet with backlog := Backlog.empty, awaited := NameMap.empty }.seen v.event =
        { fleet.seen v.event with backlog := Backlog.empty, awaited := NameMap.empty } :=
    fun _ => rfl
  unfold closeAll
  dsimp only [Roster.removeAll]
  rw [seen_report, seen_alter v hclear, seen_closeWindows, seen_alter v hroster]
  rfl

/-- An opening expires if it is seen to. -/
theorem seen_expire (name : String) (generation : Nat) (s : Scene σ) :
    (s.seen v).expire name generation = (s.expire name generation).map id (seen v) := by
  have hawaited : (s.seen v).fleet.awaited = s.fleet.awaited := rfl
  have hholding : (s.seen v).fleet.isHolding name = s.fleet.isHolding name :=
    Backlog.isHolding_seen v.event s.fleet.backlog name
  have hcount : (s.seen v).fleet.backlog.count name = s.fleet.backlog.count name :=
    Backlog.count_seen v.event s.fleet.backlog name
  have herase : ∀ fleet : Fleet, { fleet with awaited := fleet.awaited.erase name }.seen v.event =
      { fleet.seen v.event with awaited := (fleet.seen v.event).awaited.erase name } := fun _ => rfl
  unfold expire
  rw [hawaited]
  split
  · dsimp only
    rw [hholding, hcount]
    split
    · dsimp only [Prod.map_apply, id_eq]
      rw [seen_report, seen_count, seen_alter v (Fleet.seen_release v.event name),
        seen_alter v herase]
    · dsimp only [Prod.map_apply, id_eq]
      rw [seen_alter v herase]
  · rfl

/-- A satellite that registers is seen to, with the same window. -/
theorem seen_register (name : String) (w : WindowId) (s : Scene σ) :
    (s.register name w).seen v = (s.seen v).register name w := by
  have henrol : ∀ fleet : Fleet,
      { fleet with
        roster := fleet.roster.upsert ⟨name, w⟩
        awaited := fleet.awaited.erase name }.seen v.event =
      { fleet.seen v.event with
        roster := (fleet.seen v.event).roster.upsert ⟨name, w⟩
        awaited := (fleet.seen v.event).awaited.erase name } := fun _ => rfl
  unfold register
  dsimp only
  rw [← seen_alter v henrol]
  generalize s.alter _ = t
  have hsession := seen_deliver v name w (.setSession t.fleet.session) t
  dsimp only [Message.seen] at hsession
  have hsame : (t.seen v).fleet.session = t.fleet.session := rfl
  rw [seen_report, hsame, ← hsession]
  generalize t.deliver name w _ = u
  have hstartup : (u.seen v).fleet.startup = u.fleet.startup := rfl
  rw [hstartup]
  cases u.fleet.startup.get? name with
  | none => rfl
  | some params =>
    dsimp only
    rw [seen_deliver]
    rfl

/-- What is passed on is seen as other events that are. -/
theorem seen_flush (name : String) (s : Scene σ) :
    (s.flush name).seen v = (s.seen v).flush name := by
  have hheld : (s.seen v).fleet.backlog.held name = (s.fleet.backlog.held name).map v.event :=
    Backlog.held_seen v.event s.fleet.backlog name
  have hmessages : ∀ es : List Event, (es.map .event).map (Message.seen v.event) =
      (es.map v.event).map .event := fun es => by simp [Message.seen, Function.comp_def]
  unfold flush
  dsimp only
  rw [hheld, List.isEmpty_map, List.length_map, ← seen_alter v (Fleet.seen_release v.event name)]
  generalize s.alter _ = t
  generalize s.fleet.backlog.held name = held
  have hlive : (t.seen v).fleet.roster.live (t.seen v).isAlive name =
      t.fleet.roster.live t.isAlive name := by
    rw [isAlive_seen]
    rfl
  rw [hlive]
  clear hlive
  split
  · rfl
  · rw [seen_report]
    congr 1
    generalize List.map Entry.window _ = ws
    induction ws generalizing t with
    | nil => rfl
    | cons w rest ih =>
      rw [List.foldl_cons, List.foldl_cons, ih, seen_deliverAll, hmessages]

/-- A call is seen as the same call, and its answer is the same. -/
theorem seen_invoke (operation : String) (caller : Caller) (s : Scene σ) :
    (s.seen v).invoke operation caller = (s.invoke operation caller).map id (seen v) := by
  have hcalls : (s.seen v).fleet.calls = s.fleet.calls := rfl
  unfold invoke
  rw [hcalls]
  cases s.fleet.calls.get? operation with
  | none => rfl
  | some c =>
    cases c with
    | register =>
      dsimp only [serveCall]
      cases caller.requireWindow .register with
      | error f => rfl
      | ok w =>
        dsimp only [Prod.map_apply, id_eq]
        rw [seen_register]
    | flush =>
      dsimp only [serveCall, Prod.map_apply, id_eq]
      rw [seen_flush]
    | registerChild =>
      dsimp only [serveCall]
      cases caller.requireWindow .registerChild with
      | error f => rfl
      | ok w =>
        dsimp only [registerChild, Prod.map_apply, id_eq]
        rw [seen_report]
    | unregisterChild =>
      dsimp only [serveCall, unregisterChild, Prod.map_apply, id_eq]
      rw [seen_report]

/-- A message that is offered in turn is seen as the message with the other event, and the same
windows are found dead. -/
theorem seen_offer (m : Message) (l : List Entry) (s : Scene σ) :
    offer (m.seen v.event) l (s.seen v) = (offer m l s).map id (seen v) := by
  induction l generalizing s with
  | nil => rfl
  | cons e rest ih =>
    unfold offer
    dsimp only
    rw [← seen_elapse]
    generalize s.elapse = t
    have hholding : (t.seen v).fleet.isHolding e.name = t.fleet.isHolding e.name :=
      Backlog.isHolding_seen v.event t.fleet.backlog e.name
    rw [hholding, isAlive_seen]
    split
    · exact ih t
    · split
      · rw [← seen_deliver]
        exact ih _
      · rw [ih]
        rfl

/-- The same dead entries are dropped. -/
theorem seen_sweep (s : Scene σ) : s.sweep.seen v = (s.seen v).sweep := by
  unfold sweep
  rw [isAlive_seen]
  exact seen_reportEvicted v _ _

/-- Entries that are dropped are seen to be. -/
theorem seen_evict (dead : List Entry) (s : Scene σ) :
    (s.evict dead).seen v = (s.seen v).evict dead :=
  seen_reportEvicted v dead _

/-- A broadcast is seen as the broadcast of the message with the other event. -/
theorem seen_broadcast (m : Message) (s : Scene σ) :
    (s.broadcast m).seen v = (s.seen v).broadcast (m.seen v.event) := by
  unfold broadcast
  dsimp only
  rw [← seen_sweep]
  generalize s.sweep = t
  have hroster : (t.seen v).fleet.roster = t.fleet.roster := rfl
  rw [hroster, seen_offer, seen_evict]
  rfl

/-- The dispatch of an event is seen as that of the other event. -/
theorem seen_dispatchEvent (e : Event) (s : Scene σ) :
    (s.dispatchEvent e).seen v = (s.seen v).dispatchEvent (v.event e) := by
  have hbroadcast := seen_broadcast v (.event e) s
  unfold dispatchEvent
  dsimp only [Message.seen] at hbroadcast ⊢
  rw [← hbroadcast]
  generalize s.broadcast _ = t
  have hsize : (t.seen v).fleet.backlog.size = t.fleet.backlog.size :=
    Backlog.size_seen v.event t.fleet.backlog
  have hholdBack : (t.fleet.backlog.enqueueAll e).seen v.event =
      (t.seen v).fleet.backlog.enqueueAll (v.event e) :=
    Backlog.seen_enqueueAll v.event t.fleet.backlog e
  rw [hsize]
  simp [seen, alter, count, Fleet.seen, hholdBack]

/-- The dispatch of a command is seen as it is. -/
theorem seen_dispatchCommand (c : Command) (s : Scene σ) :
    (s.dispatchCommand c).seen v = (s.seen v).dispatchCommand c := by
  have hbroadcast := seen_broadcast v (.command c.id) s
  unfold dispatchCommand
  dsimp only [Message.seen] at hbroadcast ⊢
  rw [← hbroadcast]
  generalize s.broadcast _ = t
  have hsize : (t.seen v).fleet.backlog.size = t.fleet.backlog.size :=
    Backlog.size_seen v.event t.fleet.backlog
  rw [seen_count, hsize]

/-! ## Runs -/

/-- Requests are answered alike, and what they make of a scene is seen as what they make of the
scene as it is seen. -/
theorem seen_perform (r : Request) (s : Scene σ) :
    (s.seen v).perform (r.seen v.event) = (s.perform r).map id (seen v) := by
  cases r with
  | openSatellite name params preferred =>
    dsimp only [Request.seen, perform, openSatellite]
    rw [seen_openPlaced]
    rfl
  | forceReopen name params =>
    dsimp only [Request.seen, perform]
    rw [seen_forceReopen]
    rfl
  | activate name => exact congrArg _ (seen_activate v name s).symm
  | close name => exact congrArg _ (seen_closeSatellite v name s).symm
  | closeAll => exact congrArg _ (seen_closeAll v s).symm
  | mainWindowClosed => exact congrArg _ (seen_closeAll v s).symm
  | register name w => exact congrArg _ (seen_register v name w s).symm
  | flush name => exact congrArg _ (seen_flush v name s).symm
  | registerChild name w => exact congrArg _ (seen_report v _ s).symm
  | unregisterChild windowName => exact congrArg _ (seen_report v _ s).symm
  | installCalls => rfl
  | invoke operation caller =>
    dsimp only [Request.seen, perform]
    rw [seen_invoke]
    rfl
  | dispatchEvent e => exact congrArg _ (seen_dispatchEvent v e s).symm
  | dispatchCommand c => exact congrArg _ (seen_dispatchCommand v c s).symm
  | updateSession snapshot => rfl
  | expire name generation =>
    dsimp only [Request.seen, perform]
    rw [seen_expire]
    rfl
  | isOpen name =>
    dsimp only [Request.seen, perform]
    rw [find?_seen]
    rfl
  | metrics =>
    have hsize : (s.seen v).fleet.backlog.size = s.fleet.backlog.size :=
      Backlog.size_seen v.event s.fleet.backlog
    dsimp only [Request.seen, perform, Fleet.metrics]
    rw [hsize]
    rfl

end Scene

/-- A move seen as another one: the request with its event seen as another one, or a change of the
desktop seen as a change of the other desktop. -/
inductive Move.SeenAs {σ τ : Type} [Desktop σ] [Desktop τ] (v : Desktop.View σ τ) :
    Move σ → Move τ → Prop where
  | request (r : Request) : SeenAs v (.request r) (.request (r.seen v.event))
  | shift (change : σ → σ) (change' : τ → τ)
      (agree : ∀ a, v.world (change a) = change' (v.world a)) :
      SeenAs v (.shift change) (.shift change')

namespace Scene

variable {σ τ : Type} [Desktop σ] [Desktop τ] (v : Desktop.View σ τ)

/-- A move is seen as the other move. -/
theorem seen_move {m : Move σ} {m' : Move τ} (h : m.SeenAs v m') (s : Scene σ) :
    (s.move m).seen v = (s.seen v).move m' := by
  cases h with
  | request r => exact (congrArg Prod.snd (seen_perform v r s)).symm
  | shift change change' agree =>
    show Scene.mk _ (v.world (change s.world)) _ = Scene.mk _ (change' (v.world s.world)) _
    rw [agree]
    rfl

/-- A run is seen as the run of what its moves are seen as. -/
theorem seen_run {moves : List (Move σ)} {moves' : List (Move τ)}
    (h : List.Forall₂ (Move.SeenAs v) moves moves') (s : Scene σ) :
    (s.run moves).seen v = (s.seen v).run moves' := by
  induction h generalizing s with
  | nil => rfl
  | @cons m m' rest rest' hm _ ih =>
    refine (ih (s.move m)).trans ?_
    rw [seen_move v hm]
    rfl

end Scene

/-! ## Events as they are -/

/-- A message with the same event is the same. -/
@[simp] theorem Message.seen_id (m : Message) : m.seen id = m := by
  cases m <;> rfl

/-- So is an effect. -/
@[simp] theorem Effect.seen_id (e : Effect) : e.seen id = e := by
  cases e <;> simp [Effect.seen]

/-- So is a journal. -/
@[simp] theorem Journal.seen_id (j : Journal) : j.seen id = j := by
  unfold Journal.seen
  rw [funext Effect.seen_id]
  exact List.map_id' j

/-- So is a backlog. -/
@[simp] theorem Backlog.seen_id (b : Backlog) : b.seen id = b := by
  simp [Backlog.seen, NameMap.mapValues_id]

/-- So is a fleet. -/
@[simp] theorem Fleet.seen_id (f : Fleet) : f.seen id = f := by
  simp [Fleet.seen]

/-- So is a request. -/
@[simp] theorem Request.seen_id (r : Request) : r.seen id = r := by
  cases r <;> rfl

end SatelliteWindows
