import Mathlib.Algebra.GroupWithZero.Nat
import SatelliteWindows.Coordinator.Cascade
import SatelliteWindows.Proofs.Backlog
import SatelliteWindows.Proofs.Coordinator.Steps
import SatelliteWindows.Proofs.Delivery
import SatelliteWindows.Proofs.View

/-!
# Cascades of calls come to an end

A window that calls back whenever it takes an event can make the coordinator pass on what was held
back, which may make other windows call back, and so on. What limits this is that events that were
held back are passed on once, to one window at most. Serving a call therefore never adds more to the
calls that wait than it takes from what is held back, and the two together bound the number of calls
that a single request can cause, whatever the windows do.
-/

namespace SatelliteWindows

/-- A desktop whose windows record the events that they take, and call back for each as they like:
`react` says which call a window makes when it has taken an event, if any. -/
structure Responsive (σ : Type) (react : σ → WindowId → Event → Option Invocation) where
  /-- The desktop. -/
  world : σ
  /-- The events that windows have taken, oldest first. -/
  heard : List (WindowId × Event) := []
  /-- The calls that windows have made and nobody has taken on, oldest first. -/
  calls : List Invocation := []

namespace Responsive

variable {σ : Type} {react : σ → WindowId → Event → Option Invocation}

/-- What becomes of a desktop when a window has taken a message. -/
def hear (w : WindowId) (m : Message) (a : Responsive σ react) : Responsive σ react :=
  match m.event? with
  | some e =>
    { a with heard := a.heard ++ [(w, e)], calls := a.calls ++ (react a.world w e).toList }
  | none => a

/-- What becomes of a desktop when a message was handed to a window that took it, or did not. -/
def handed (w : WindowId) (m : Message) (fault : Option Fault) (a : Responsive σ react) :
    Responsive σ react :=
  match fault with
  | none => a.hear w m
  | some _ => a

variable [Desktop σ]

instance : Switchboard (Responsive σ react) where
  isAlive a := Desktop.isAlive a.world
  geometry a := Desktop.geometry a.world
  screen a := Desktop.screen a.world
  deliver w m a := (Desktop.deliver w m a.world).map id fun world =>
    { a with world := world }.handed w m (Desktop.deliver w m a.world).1
  focus w a := (Desktop.focus w a.world).map id fun world => { a with world := world }
  close w a := (Desktop.close w a.world).map id fun world => { a with world := world }
  openWindow r a := (Desktop.openWindow r a.world).map id fun world => { a with world := world }
  raise windowName a :=
    (Desktop.raise windowName a.world).map id fun world => { a with world := world }
  elapse a := { a with world := Desktop.elapse a.world }
  calls := calls
  hangUp a := { a with calls := [] }

omit [Desktop σ] in
/-- A window that was handed a message may react, but the desktop is the one it was. -/
theorem world_handed (w : WindowId) (m : Message) (fault : Option Fault) (a : Responsive σ react) :
    (a.handed w m fault).world = a.world := by
  unfold handed hear
  cases fault with
  | some f => rfl
  | none => cases m.event? <;> rfl

/-- A desktop whose windows call back is seen as one whose windows do not. -/
def view : Desktop.View (Responsive σ react) σ where
  world := world
  event := id
  isAlive _ _ := rfl
  geometry _ _ := rfl
  screen _ := rfl
  deliver w m a := by
    rw [Message.seen_id]
    show _ = ((Desktop.deliver w m a.world).map id _).map id world
    simp [Prod.map, world_handed]
  focus _ _ := rfl
  close _ _ := rfl
  openWindow _ _ := rfl
  raise _ _ := rfl
  elapse _ := rfl

/-- A desktop on which some calls wait that were made before all others is seen as one like it: no
window looks at the calls that wait. -/
def ahead (earlier : List Invocation) : Desktop.View (Responsive σ react) (Responsive σ react) where
  world a := { a with calls := earlier ++ a.calls }
  event := id
  isAlive _ _ := rfl
  geometry _ _ := rfl
  screen _ := rfl
  deliver w m a := by
    rw [Message.seen_id]
    show ((Desktop.deliver w m a.world).map id fun world => Responsive.handed _ _ _ _) =
      ((Desktop.deliver w m a.world).map id fun world => Responsive.handed _ _ _ _).map id _
    obtain ⟨fault, b⟩ := Desktop.deliver w m a.world
    unfold handed hear
    cases fault with
    | some f => rfl
    | none => cases m.event? <;> simp [Prod.map, List.append_assoc]
  focus _ _ := rfl
  close _ _ := rfl
  openWindow _ _ := rfl
  raise _ _ := rfl
  elapse _ := rfl

/-! ## Calls and events -/

omit [Desktop σ] in
/-- At most one call is made for an event that is taken, and none otherwise. -/
theorem calls_handed (w : WindowId) (m : Message) (fault : Option Fault) (a : Responsive σ react) :
    a.heard.length ≤ (a.handed w m fault).heard.length ∧
      (a.handed w m fault).heard.length ≤ a.heard.length + m.event?.toList.length ∧
      (a.handed w m fault).calls.length + a.heard.length ≤
        a.calls.length + (a.handed w m fault).heard.length := by
  unfold handed hear
  cases fault with
  | some f => simp
  | none =>
    cases m.event? with
    | none => simp
    | some e =>
      have hone : (react a.world w e).toList.length ≤ 1 := by
        cases react a.world w e <;> simp
      simp only [List.length_append, List.length_singleton, Option.toList_some]
      omega

/-- Windows make no more calls than they take events. -/
theorem calls_of_reaches {a b : Responsive σ react} (h : Desktop.Reaches a b) :
    a.heard.length ≤ b.heard.length ∧
      b.calls.length + a.heard.length ≤ a.calls.length + b.heard.length := by
  induction h with
  | refl => exact ⟨Nat.le_refl _, Nat.le_refl _⟩
  | @deliver b w m _ ih =>
    let moved : Responsive σ react := { b with world := (Desktop.deliver w m b.world).2 }
    have hone := calls_handed w m (Desktop.deliver w m b.world).1 moved
    have hafter : (Desktop.deliver w m b).2 =
      moved.handed w m (Desktop.deliver w m b.world).1 := rfl
    have hheard : moved.heard = b.heard := rfl
    have hcalls : moved.calls = b.calls := rfl
    rw [hafter]
    rw [hheard, hcalls] at hone
    omega
  | focus _ _ ih => exact ih
  | close _ _ ih => exact ih
  | openWindow _ _ ih => exact ih
  | raise _ _ ih => exact ih
  | elapse _ ih => exact ih

end Responsive

namespace Scene

variable {σ : Type} {react : σ → WindowId → Event → Option Invocation} [Desktop σ]

/-- The calls that wait, and the events that are held back. -/
def weight (s : Scene (Responsive σ react)) : Nat :=
  s.world.calls.length + s.fleet.backlog.total

/-- A message is recorded at most once, and only if it is an event. -/
theorem heard_deliver (name : String) (w : WindowId) (m : Message)
    (s : Scene (Responsive σ react)) :
    (s.deliver name w m).world.heard.length ≤ s.world.heard.length + m.event?.toList.length := by
  rw [world_deliver]
  exact (Responsive.calls_handed w m (Desktop.deliver w m s.world.world).1
    { s.world with world := (Desktop.deliver w m s.world.world).2 }).2.1

/-- Events are recorded at most once each. -/
theorem heard_deliverAll (name : String) (w : WindowId) (es : List Event)
    (s : Scene (Responsive σ react)) :
    (s.deliverAll name w (es.map .event)).world.heard.length ≤
      s.world.heard.length + es.length := by
  induction es generalizing s with
  | nil => exact Nat.le_refl _
  | cons e rest ih =>
    have hfirst : (s.deliver name w (.event e)).world.heard.length ≤ s.world.heard.length + 1 :=
      heard_deliver name w (.event e) s
    have hrest := ih (s.deliver name w (.event e))
    show ((s.deliver name w (.event e)).deliverAll name w (rest.map .event)).world.heard.length ≤ _
    rw [List.length_cons]
    omega

/-- A flush has no more events recorded than were held back, since a satellite has one live window
at most. -/
theorem heard_flush {s : Scene (Responsive σ react)} (hu : s.fleet.roster.Unique) (name : String) :
    (s.flush name).world.heard.length ≤ s.world.heard.length + s.fleet.backlog.count name := by
  rw [flush_eq]
  split
  · exact Nat.le_add_right _ _
  · rcases hu.live_cases s.isAlive name with hnone | ⟨w, hw⟩
    · rw [hnone]
      exact Nat.le_add_right _ _
    · rw [hw]
      exact heard_deliverAll name w (s.fleet.backlog.held name) (s.letGo name)

/-- A window that registers is told things, but no event. -/
theorem heard_register (name : String) (w : WindowId) (s : Scene (Responsive σ react)) :
    (s.register name w).world.heard.length ≤ s.world.heard.length := by
  unfold register
  dsimp only
  split
  · exact Nat.le_trans (heard_deliver name w _ _) (heard_deliver name w _ _)
  · exact heard_deliver name w _ _

/-- Serving a call adds no more to the calls that wait than it takes from what is held back. -/
theorem weight_invoke {s : Scene (Responsive σ react)} (hu : s.fleet.roster.Unique)
    (operation : String) (caller : Caller) :
    (s.invoke operation caller).2.weight ≤ s.weight := by
  unfold invoke
  split
  · next c _ =>
    have hcalls := (Responsive.calls_of_reaches (writes_serveCall c caller s).world).2
    unfold weight
    cases c with
    | register =>
      cases hw : caller.window with
      | none =>
        simp only [serveCall, Caller.requireWindow, hw]
        exact Nat.le_refl _
      | some w =>
        have hheard := heard_register caller.name w s
        have hbacklog : (s.register caller.name w).fleet.backlog = s.fleet.backlog :=
          congrArg Handshake.backlog (handshake_register caller.name w s)
        simp only [serveCall, Caller.requireWindow, hw] at hcalls ⊢
        rw [hbacklog]
        omega
    | flush =>
      have hheard := heard_flush hu caller.name
      have hbacklog : (s.flush caller.name).fleet.backlog = s.fleet.backlog.release caller.name :=
        congrArg Handshake.backlog (handshake_flush caller.name s)
      have htotal := s.fleet.backlog.total_release caller.name
      simp only [serveCall] at hcalls ⊢
      rw [hbacklog]
      omega
    | registerChild =>
      simp only [serveCall, Caller.requireWindow]
      cases caller.window <;> exact Nat.le_refl _
    | unregisterChild => exact Nat.le_refl _
  · exact Nat.le_refl _

end Scene

namespace Coordinator

variable {σ : Type} {react : σ → WindowId → Event → Option Invocation} [Desktop σ]

/-- A coordinator whose desktop is seen as another one. -/
def seen {σ τ : Type} [Desktop σ] [Desktop τ] (v : Desktop.View σ τ) (c : Coordinator σ) :
    Coordinator τ :=
  { c with scene := c.scene.seen v }

/-- The coordinator of the same fleet on a desktop whose windows do not call back. -/
def undisturbed (c : Coordinator (Responsive σ react)) : Coordinator σ where
  scene := c.scene.seen Responsive.view
  feed := c.feed
  timeout := c.timeout
  clock := c.clock
  timers := c.timers
  running := c.running

/-- The events that windows take while a request is carried out. -/
def recorded (r : Request) (c : Coordinator (Responsive σ react)) : List (WindowId × Event) :=
  (c.serve r).2.scene.world.heard.drop c.scene.world.heard.length

/-- The calls that wait, and the events that are held back. -/
def weight (c : Coordinator (Responsive σ react)) : Nat := c.scene.weight

/-- A coordinator whose desktop has changed, and with which only some calls wait any more. -/
def leave (calls : List Invocation) (change : σ → σ) (c : Coordinator (Responsive σ react)) :
    Coordinator (Responsive σ react) :=
  { c with scene := { c.scene with world :=
    { c.scene.world with world := change c.scene.world.world, calls := calls } } }

/-- Calls are served one by one, the oldest first, and the desktop changes as it likes in between.
The number says how many are served. -/
inductive Attends : Coordinator (Responsive σ react) → Nat → Coordinator (Responsive σ react) → Prop
  | rest (c : Coordinator (Responsive σ react)) : Attends c 0 c
  | serve {c d : Coordinator (Responsive σ react)} {n : Nat} {call : Invocation}
      {calls : List Invocation} (change : σ → σ) (waiting : c.calls = call :: calls)
      (next : Attends ((c.leave calls change).serve (.invoke call.operation call.caller)).2 n d) :
      Attends c (n + 1) d

/-! ## The request itself -/

omit [Desktop σ] in
/-- A request is carried out on a desktop as on one that it is seen as, if events are seen as they
are. -/
theorem serve_seen {σ τ : Type} [Desktop σ] [Desktop τ] (v : Desktop.View σ τ) (hv : v.event = id)
    (r : Request) (c : Coordinator σ) : (c.seen v).serve r = (c.serve r).map id (seen v) := by
  have hperform : (c.seen v).scene.perform r = (c.scene.perform r).map id (Scene.seen v) := by
    have hseen := Scene.seen_perform v r c.scene
    rwa [hv, r.seen_id] at hseen
  have hjournal : ∀ s : Scene σ, (s.seen v).journal = s.journal := fun s => by
    show s.journal.seen v.event = s.journal
    rw [hv, s.journal.seen_id]
  have hbefore : (c.seen v).scene.journal = c.scene.journal := hjournal c.scene
  unfold serve advance
  dsimp only
  rw [hperform]
  dsimp only [Prod.map_fst, Prod.map_snd]
  rw [hjournal, hbefore]
  show (if c.running = true then _ else _) = _
  split
  · unfold arm
    dsimp only [id_eq, Prod.map_apply]
    have htimeout : (c.seen v).timeout = c.timeout := rfl
    rw [htimeout]
    cases r with
    | openSatellite name params preferred =>
      cases (c.scene.perform (.openSatellite name params preferred)).1 with
      | error f => rfl
      | ok answer =>
        cases answer with
        | opening result => cases result <;> cases c.timeout <;> rfl
        | _ => rfl
    | _ => rfl
  · rfl

/-- Windows that call back make no difference to how a request is carried out. -/
theorem serve_undisturbed (r : Request) (c : Coordinator (Responsive σ react)) :
    c.undisturbed.serve r = (c.serve r).map id undisturbed :=
  serve_seen Responsive.view rfl r c

/-- The calls that wait after a request are those that waited before, and at most one for each event
that windows took. -/
theorem calls_serve (r : Request) (c : Coordinator (Responsive σ react)) :
    (c.serve r).2.calls.length ≤ c.calls.length + (c.recorded r).length := by
  have hreaches : Desktop.Reaches c.scene.world (c.serve r).2.scene.world := by
    cases h : c.running with
    | true =>
      rw [(serve_of_running h r).1]
      exact (Scene.leads_perform r c.scene).world
    | false =>
      rw [serve_of_not_running h]
      exact .refl
  obtain ⟨hgrows, hcalls⟩ := Responsive.calls_of_reaches hreaches
  unfold recorded
  rw [List.length_drop]
  show (c.serve r).2.scene.world.calls.length ≤ c.scene.world.calls.length + _
  omega

/-! ## The calls that come of it -/

/-- No request registers a satellite twice. -/
theorem unique_serve {c : Coordinator σ} (hu : c.scene.fleet.roster.Unique) (r : Request) :
    (c.serve r).2.scene.fleet.roster.Unique := by
  cases h : c.running with
  | true =>
    rw [(serve_of_running h r).1]
    exact (Scene.turn_perform r c.scene).unique hu
  | false => rwa [serve_of_not_running h]

/-- A call that is served makes the coordinator's calls weigh no more. -/
theorem weight_serve_invoke {c : Coordinator (Responsive σ react)}
    (hu : c.scene.fleet.roster.Unique) (operation : String) (caller : Caller) :
    (c.serve (.invoke operation caller)).2.weight ≤ c.weight := by
  cases h : c.running with
  | true =>
    unfold weight
    rw [(serve_of_running h _).1]
    exact Scene.weight_invoke hu operation caller
  | false => exact Nat.le_of_eq (congrArg weight (serve_of_not_running h _))

/-- Every call is answered, and all of them together add no more to the calls that wait than they
take from what is held back. -/
theorem weight_serveCalls (calls : List Invocation) {c : Coordinator (Responsive σ react)}
    (hu : c.scene.fleet.roster.Unique) :
    (serveCalls calls c).1.length = calls.length ∧
      (serveCalls calls c).2.weight ≤ c.weight ∧
      (serveCalls calls c).2.scene.fleet.roster.Unique := by
  induction calls generalizing c with
  | nil => exact ⟨rfl, Nat.le_refl _, hu⟩
  | cons call rest ih =>
    obtain ⟨hlength, hweight, hunique⟩ :=
      ih (unique_serve hu (.invoke call.operation call.caller))
    exact ⟨congrArg Nat.succ hlength,
      Nat.le_trans hweight (weight_serve_invoke hu call.operation call.caller), hunique⟩

/-- A round takes from the calls that wait, and the events that are held back, as much as it serves
calls. -/
theorem weight_round {c : Coordinator (Responsive σ react)} (hu : c.scene.fleet.roster.Unique) :
    c.round.1.length = c.calls.length ∧ c.round.1.length + c.round.2.weight ≤ c.weight ∧
      c.round.2.scene.fleet.roster.Unique := by
  obtain ⟨hlength, hweight, hunique⟩ :=
    weight_serveCalls c.calls (c := c.hangUp) hu
  have hhungUp : c.hangUp.weight = c.scene.fleet.backlog.total := Nat.zero_add _
  have hbefore : c.weight = c.calls.length + c.scene.fleet.backlog.total := rfl
  rw [hhungUp] at hweight
  refine ⟨hlength, ?_, hunique⟩
  rw [hbefore, show c.round.1.length = c.calls.length from hlength]
  exact Nat.add_le_add_left hweight _

/-- However many rounds there are, no more calls are served than there is weight. Once there were as
many rounds, none waits. -/
theorem weight_rounds (n : Nat) {c : Coordinator (Responsive σ react)}
    (hu : c.scene.fleet.roster.Unique) :
    (rounds n c).1.length + (rounds n c).2.weight ≤ c.weight ∧
      (c.weight ≤ n → (rounds n c).2.calls = []) := by
  induction n generalizing c with
  | zero =>
    refine ⟨Nat.le_of_eq (Nat.zero_add _), fun hn => List.length_eq_zero_iff.mp ?_⟩
    have hcalls : c.calls.length ≤ c.weight := Nat.le_add_right _ _
    exact Nat.le_zero.mp (Nat.le_trans hcalls hn)
  | succ n ih =>
    unfold rounds
    split
    · next hempty => exact ⟨Nat.le_of_eq (Nat.zero_add _), fun _ => List.isEmpty_iff.mp hempty⟩
    · next hwaiting =>
      obtain ⟨hlength, hround, hunique⟩ := weight_round hu
      obtain ⟨hrest, hsettled⟩ := ih hunique
      have hpos : 0 < c.calls.length :=
        List.length_pos_iff.mpr fun hnil => hwaiting (List.isEmpty_iff.mpr hnil)
      refine ⟨?_, fun hn => hsettled (by omega)⟩
      show (c.round.1 ++ (rounds n c.round.2).1).length + (rounds n c.round.2).2.weight ≤ _
      rw [List.length_append]
      omega

/-- However the desktop changes meanwhile, no more calls are served, and wait in the end, than there
is weight. -/
theorem Attends.weight_le {c d : Coordinator (Responsive σ react)} {n : Nat} (h : Attends c n d)
    (hu : c.scene.fleet.roster.Unique) : n + d.calls.length ≤ c.weight := by
  induction h with
  | rest c => rw [Nat.zero_add]; exact Nat.le_add_right _ _
  | @serve c d n call calls change waiting next ih =>
    have hserved := weight_serve_invoke (c := c.leave calls change) hu call.operation call.caller
    have hrest := ih (unique_serve (c := c.leave calls change) hu _)
    have hbefore : c.weight = calls.length + 1 + c.scene.fleet.backlog.total := by
      show c.calls.length + _ = _
      rw [waiting]
      rfl
    have hleft : (c.leave calls change).weight =
        calls.length + c.scene.fleet.backlog.total := rfl
    omega

/-! ## Rounds of calls -/

/-- Calls that are attended to one after the other can be attended to in two stretches. -/
theorem Attends.trans {c d e : Coordinator (Responsive σ react)} {m n : Nat} (h : Attends c m d)
    (h' : Attends d n e) : Attends c (m + n) e := by
  induction h with
  | rest c => rwa [Nat.zero_add]
  | serve change waiting _ ih =>
    rw [Nat.add_right_comm]
    exact .serve change waiting (ih h')

/-- No satellite is registered twice while calls are served. -/
theorem Attends.unique {c d : Coordinator (Responsive σ react)} {n : Nat} (h : Attends c n d)
    (hu : c.scene.fleet.roster.Unique) : d.scene.fleet.roster.Unique := by
  induction h with
  | rest c => exact hu
  | serve change _ _ ih => exact ih (unique_serve (c := leave _ change _) hu _)

/-- A coordinator with which some calls wait that were made before all others. -/
def behindCalls (earlier : List Invocation) (c : Coordinator (Responsive σ react)) :
    Coordinator (Responsive σ react) :=
  c.seen (Responsive.ahead earlier)

/-- To wait behind no calls is not to wait. -/
theorem behindCalls_nil (c : Coordinator (Responsive σ react)) : c.behindCalls [] = c := by
  unfold behindCalls seen Scene.seen
  show { c with
    scene := Scene.mk (c.scene.fleet.seen id) c.scene.world (c.scene.journal.seen id) } = c
  rw [Fleet.seen_id, Journal.seen_id]

/-- When a round begins, all calls wait that it serves. -/
theorem behindCalls_hangUp (c : Coordinator (Responsive σ react)) :
    c.hangUp.behindCalls c.calls = c := by
  have hworld : { c.scene.world with calls := c.scene.world.calls ++ [] } = c.scene.world := by
    rw [List.append_nil]
  have hscene : c.hangUp.scene.seen (Responsive.ahead c.calls) = c.scene := by
    show Scene.mk (c.scene.fleet.seen id) _ (c.scene.journal.seen id) = c.scene
    rw [Fleet.seen_id, Journal.seen_id]
    exact congrArg (fun a => { c.scene with world := a }) hworld
  exact congrArg (fun s => { c with scene := s }) hscene

/-- To serve calls that were taken on together is to serve them one by one: those that are made
meanwhile wait behind them. -/
theorem attends_serveCalls (calls : List Invocation) (c : Coordinator (Responsive σ react)) :
    Attends (c.behindCalls calls) (serveCalls calls c).1.length (serveCalls calls c).2 := by
  induction calls generalizing c with
  | nil =>
    rw [behindCalls_nil]
    exact .rest c
  | cons call rest ih =>
    have hserved : ((c.behindCalls rest).serve (.invoke call.operation call.caller)).2 =
        (c.serve (.invoke call.operation call.caller)).2.behindCalls rest :=
      congrArg Prod.snd (serve_seen (Responsive.ahead rest) rfl _ c)
    have hrest := ih (c.serve (.invoke call.operation call.caller)).2
    rw [← hserved] at hrest
    exact .serve id rfl hrest

/-- Rounds serve calls one by one, the oldest first. -/
theorem attends_rounds (n : Nat) (c : Coordinator (Responsive σ react)) :
    Attends c (rounds n c).1.length (rounds n c).2 := by
  induction n generalizing c with
  | zero => exact .rest c
  | succ n ih =>
    unfold rounds
    split
    · exact .rest c
    · have hround : Attends c c.round.1.length c.round.2 := by
        have hcalls := attends_serveCalls c.calls c.hangUp
        rwa [behindCalls_hangUp] at hcalls
      show Attends c (c.round.1 ++ (rounds n c.round.2).1).length (rounds n c.round.2).2
      rw [List.length_append]
      exact hround.trans (ih c.round.2)

/-- To serve calls until none waits is to serve as many one by one as are answered. -/
theorem attends_settle (c : Coordinator (Responsive σ react)) :
    Attends c c.settle.1.length c.settle.2 :=
  attends_rounds c.cascadeBound c

/-- However many calls were served, and whatever the desktop did, no call waits in the end if the
others are served as well. -/
theorem Attends.goesOn {c d : Coordinator (Responsive σ react)} {n : Nat} (h : Attends c n d)
    (hu : c.scene.fleet.roster.Unique) : ∃ m e, Attends d m e ∧ e.calls = [] :=
  ⟨_, _, attends_settle d, (weight_rounds d.cascadeBound (h.unique hu)).2 (Nat.le_refl _)⟩

/-- On every run no satellite is registered twice. -/
theorem unique_run (settings : CoordinatorSettings) (platform : Platform) (session : Payload)
    (world : σ) (acts : List (Act σ)) :
    ((start settings platform session world).run acts).scene.fleet.roster.Unique := by
  rw [← (recorded_steps acts (start settings platform session world)).run_eq]
  exact (Course.of_run _ _).induct Turn.unique Roster.unique_empty

/-- Whenever a request is carried out, all calls that windows make because of it, and because of
such calls, can be served: sooner or later none waits. No more calls are ever served than waited
before, than events were taken by windows during the request, and than events were held back when it
was done, however the desktop changes between the calls. To serve them in rounds is one way to serve
them one by one, and each is answered; but whichever were served, and whatever the desktop did,
there is an end to the others. The request itself is answered and carried out as if no window called
back. -/
theorem cascade_ends (settings : CoordinatorSettings) (platform : Platform) (session : Payload)
    (world : Responsive σ react) (acts : List (Act (Responsive σ react))) (r : Request) :
    let c := (start settings platform session world).run acts
    let served := (c.serve r).2
    let bound := c.calls.length + (c.recorded r).length + served.scene.fleet.backlog.total
    served.settle.2.calls = [] ∧ served.settle.1.length ≤ bound ∧
      Attends served served.settle.1.length served.settle.2 ∧
      (∀ n d, Attends served n d →
        n + d.calls.length ≤ bound ∧ ∃ m e, Attends d m e ∧ e.calls = []) ∧
      c.undisturbed.serve r = (c.serve r).map id undisturbed := by
  intro c served bound
  have hunique : served.scene.fleet.roster.Unique :=
    unique_serve (unique_run settings platform session world acts) r
  have hbound : served.weight ≤ bound := Nat.add_le_add_right (calls_serve r c) _
  obtain ⟨hserved, hsettled⟩ := weight_rounds served.cascadeBound hunique
  refine ⟨hsettled (Nat.le_refl _), ?_, attends_settle served,
    fun n d h => ⟨Nat.le_trans (h.weight_le hunique) hbound, h.goesOn hunique⟩,
    serve_undisturbed r c⟩
  exact Nat.le_trans (Nat.le_trans (Nat.le_add_right _ _) hserved) hbound

end Coordinator

end SatelliteWindows
