import SatelliteWindows.Coordinator
import SatelliteWindows.Proofs.History

/-!
# The steps of a coordinator

A coordinator is asked things, time passes for it, it is shut down, and its desktop changes. Each of
these makes moves of its scene, at known moments; a wait makes one for every timer that goes off.
The steps of a run record them, and lead from one scene to the next.
-/

namespace SatelliteWindows.Coordinator

/-- What can happen to a coordinator. -/
inductive Act (σ : Type) where
  /-- Something is asked of it. Only timers ask it to give up an opening. -/
  | ask (request : Request) (allowed : request.givesUp = false)
  /-- Time passes. -/
  | wait (ms : Nat)
  /-- It is shut down. -/
  | shutdown
  /-- Its desktop changes. -/
  | shift (change : σ → σ)

/-- A move of the scene that a coordinator makes. -/
structure Step (σ : Type) where
  /-- When it is made. -/
  moment : Nat
  /-- The scene before it. -/
  before : Scene σ
  /-- The move. -/
  move : Move σ

namespace Step

variable {σ : Type} [Desktop σ]

/-- The scene after a step. -/
def after (x : Step σ) : Scene σ := x.before.move x.move

/-- What a step means for the handshake. -/
def happening (x : Step σ) : Happening := x.before.happening x.move

/-- A step makes of the handshake what it means. -/
theorem turn (x : Step σ) : Turn x.happening x.before.handshake x.after.handshake :=
  x.before.turn_move x.move

/-- The openings that a step reports as given up. -/
def timeouts (x : Step σ) : List (String × Nat) :=
  Journal.timeouts (x.after.journal.drop x.before.journal.length)

/-- Whether a step carries out a request to open a satellite. -/
def asksToOpen (x : Step σ) : Bool :=
  match x.move with
  | .request (.openSatellite ..) => true
  | _ => false

/-- The timer that is set in a step, if openings are given up after some span of time. -/
def timer? (span : Nat) (x : Step σ) : Option Timer :=
  match x.asksToOpen, x.happening with
  | true, .opened name generation => some ⟨x.moment + span, name, generation⟩
  | _, _ => none

/-- A timer is set only for an opening that was asked for by a request to open. -/
theorem timer?_eq_some {span : Nat} {x : Step σ} {t : Timer} (h : x.timer? span = some t) :
    x.asksToOpen = true ∧ ∃ name generation, x.happening = .opened name generation ∧
      t = ⟨x.moment + span, name, generation⟩ := by
  unfold timer? at h
  split at h
  · next name generation hasks hopened =>
    cases h
    exact ⟨hasks, name, generation, hopened, rfl⟩
  · cases h

/-- A step that leaves the openings given up as they are reports none. -/
theorem timeouts_eq_nil {x : Step σ} (h : Scene.Patient x.before x.after) : x.timeouts = [] := by
  obtain ⟨news, hnews⟩ := h.journal
  have htimeouts := h.timeouts
  unfold timeouts
  rw [← hnews, Journal.timeouts_append] at htimeouts
  rw [← hnews, List.drop_left]
  exact List.append_right_eq_self.mp htimeouts

/-- A request to give up an opening reports it together with the number of events dropped, if it
was given up, and reports nothing otherwise. -/
theorem timeouts_expire (moment : Nat) (s : Scene σ) (name : String) (generation : Nat) :
    timeouts ⟨moment, s, .request (.expire name generation)⟩ =
      if (s.expire name generation).1 then [(name, s.fleet.backlog.count name)] else [] := by
  cases h : (s.expire name generation).1 with
  | true =>
    have hjournal := (Scene.expire_of_awaited h).2.1
    show Journal.timeouts ((s.expire name generation).2.journal.drop s.journal.length) = _
    rw [hjournal, List.drop_left]
    rfl
  | false => exact timeouts_eq_nil (Scene.discreet_expire h).toPatient

end Step

/-- Steps lead from one scene to another, each beginning where the one before it ended. -/
inductive Recorded {σ : Type} [Desktop σ] : Scene σ → List (Step σ) → Scene σ → Prop where
  | nil (s : Scene σ) : Recorded s [] s
  | cons {x : Step σ} {xs : List (Step σ)} {t : Scene σ} (rest : Recorded x.after xs t) :
      Recorded x.before (x :: xs) t

namespace Recorded

variable {σ : Type} [Desktop σ] {s t u : Scene σ} {xs ys : List (Step σ)}

/-- One step leads from the scene before it to the scene after it. -/
theorem single (x : Step σ) : Recorded x.before [x] x.after := .cons (.nil _)

/-- Steps that begin where others ended can be put behind them. -/
theorem append (hs : Recorded s xs t) (ht : Recorded t ys u) : Recorded s (xs ++ ys) u := by
  induction hs with
  | nil => exact ht
  | cons _ ih => exact .cons (ih ht)

/-- The scene that steps lead to is that of the run of their moves. -/
theorem run_eq (h : Recorded s xs t) : s.run (xs.map Step.move) = t := by
  induction h with
  | nil => rfl
  | cons _ ih => exact ih

/-- What the steps mean is the history of their moves. -/
theorem history_eq (h : Recorded s xs t) :
    s.history (xs.map Step.move) = xs.map Step.happening := by
  induction h with
  | nil => rfl
  | cons _ ih => exact congrArg (_ :: ·) ih

/-- A step begins where the steps before it have led. -/
theorem split {o : Step σ} (h : Recorded s (xs ++ o :: ys) t) :
    Recorded s xs o.before ∧ Recorded o.after ys t := by
  induction xs generalizing s with
  | nil =>
    cases h with
    | cons rest => exact ⟨.nil _, rest⟩
  | cons x xs ih =>
    cases h with
    | cons rest =>
      obtain ⟨hfirst, hrest⟩ := ih rest
      exact ⟨.cons hfirst, hrest⟩

end Recorded

variable {σ : Type} [Desktop σ]

/-- What becomes of a coordinator. -/
def act (a : Act σ) (c : Coordinator σ) : Coordinator σ :=
  match a with
  | .ask r _ => (c.serve r).2
  | .wait ms => c.wait ms
  | .shutdown => c.shutdown.2
  | .shift change => { c with scene := c.scene.move (.shift change) }

/-- What becomes of a coordinator in the end. -/
def run : List (Act σ) → Coordinator σ → Coordinator σ
  | [], c => c
  | a :: rest, c => run rest (c.act a)

/-- The step that a request makes. -/
def served (r : Request) (c : Coordinator σ) : List (Step σ) :=
  if c.running then [⟨c.clock, c.scene, .request r⟩] else []

/-- A timer goes off when its time has come. -/
def ring (t : Timer) (c : Coordinator σ) : Coordinator σ := { c with clock := t.deadline }.fire t

/-- Timers go off one after the other. -/
def ringAll (due : List Timer) (c : Coordinator σ) : Coordinator σ :=
  due.foldl (fun c t => c.ring t) c

/-- The steps that timers make. -/
def rings : List Timer → Coordinator σ → List (Step σ)
  | [], _ => []
  | t :: rest, c =>
    { c with clock := t.deadline }.served (.expire t.name t.generation) ++ rings rest (c.ring t)

/-- The timers that go off until a given moment. -/
def due (moment : Nat) (c : Coordinator σ) : List Timer :=
  c.timers.takeWhile fun t => t.deadline ≤ moment

/-- A coordinator without the timers that go off until a given moment. -/
def unset (moment : Nat) (c : Coordinator σ) : Coordinator σ :=
  { c with timers := c.timers.dropWhile fun t => t.deadline ≤ moment }

/-- The steps that an act makes. -/
def stepsOf (a : Act σ) (c : Coordinator σ) : List (Step σ) :=
  match a with
  | .ask r _ => c.served r
  | .wait ms => rings (c.due (c.clock + delay ms)) (c.unset (c.clock + delay ms))
  | .shutdown => c.served .mainWindowClosed
  | .shift change => [⟨c.clock, c.scene, .shift change⟩]

/-- The steps of a run. -/
def steps : List (Act σ) → Coordinator σ → List (Step σ)
  | [], _ => []
  | a :: rest, c => c.stepsOf a ++ steps rest (c.act a)

/-! ## Carrying out a request -/

omit [Desktop σ] in
/-- Setting a timer changes only the timers. -/
theorem arm_eq (r : Request) (answer : Except Fault Answer) (c : Coordinator σ) :
    c.arm r answer = { c with timers := (c.arm r answer).timers } := by
  unfold arm
  split <;> rfl

/-- What a coordinator at work makes of its scene when it carries out a request. -/
theorem serve_of_running {c : Coordinator σ} (h : c.running = true) (r : Request) :
    (c.serve r).2.scene = c.scene.move (.request r) ∧ (c.serve r).2.clock = c.clock ∧
      (c.serve r).2.running = true ∧ (c.serve r).2.timeout = c.timeout := by
  unfold serve
  rw [if_pos h]
  dsimp only
  rw [arm_eq]
  exact ⟨rfl, rfl, h, rfl⟩

/-- A coordinator at work gives the answer of its scene. -/
theorem answer_serve {c : Coordinator σ} (h : c.running = true) (r : Request) :
    (c.serve r).1 = (c.scene.perform r).1 := by
  unfold serve
  rw [if_pos h]
  rfl

/-- A coordinator that has shut down does nothing about a request. -/
theorem serve_of_not_running {c : Coordinator σ} (h : c.running = false) (r : Request) :
    (c.serve r).2 = c := by
  unfold serve
  rw [if_neg (by rw [h]; exact Bool.false_ne_true)]

/-- No request shuts a coordinator down. -/
theorem running_serve (c : Coordinator σ) (r : Request) :
    (c.serve r).2.running = c.running := by
  cases h : c.running with
  | true => exact (serve_of_running h r).2.2.1
  | false =>
    rw [serve_of_not_running h]
    exact h

/-- Serving takes no time. -/
theorem clock_serve (c : Coordinator σ) (r : Request) : (c.serve r).2.clock = c.clock := by
  cases h : c.running with
  | true => exact (serve_of_running h r).2.1
  | false => rw [serve_of_not_running h]

/-- The only timer that a request sets is the one for the opening it was answered with. -/
theorem timers_serve {c : Coordinator σ} (h : c.running = true) {span : Nat}
    (ht : c.timeout = some span) (r : Request) : (c.serve r).2.timers =
      match Step.timer? span ⟨c.clock, c.scene, .request r⟩ with
      | some t => insertTimer t c.timers
      | none => c.timers := by
  have hserve : (c.serve r).2 =
      (c.advance (Scene.perform r)).2.arm r (c.scene.perform r).1 := by
    unfold serve
    rw [if_pos h]
    rfl
  have hadvance : (c.advance (Scene.perform r)).2.timeout = some span := ht
  rw [hserve]
  unfold arm Step.timer?
  rw [hadvance]
  cases r with
  | openSatellite name params preferred =>
    have hhappening : Step.happening
        ⟨c.clock, c.scene, .request (.openSatellite name params preferred)⟩ =
          c.scene.meaning (.openSatellite name params preferred) := rfl
    rw [hhappening]
    rcases c.scene.opening_cases name params preferred with ⟨g, hanswer, hmeaning⟩ |
      ⟨hanswer, hmeaning⟩
    · rw [hanswer, hmeaning]
      rfl
    · rw [hmeaning]
      split
      · next heq _ => exact absurd heq (hanswer _)
      · rfl
  | _ => rfl

omit [Desktop σ] in
/-- A coordinator at work makes one step when it serves a request, and one that has shut down makes
none. -/
theorem mem_served {y : Step σ} {r : Request} {c : Coordinator σ} (h : y ∈ c.served r) :
    c.running = true ∧ y = ⟨c.clock, c.scene, .request r⟩ := by
  unfold served at h
  split at h
  · next hrunning => exact ⟨hrunning, List.mem_singleton.mp h⟩
  · cases h

/-- The step leads to the scene that serving leads to. -/
theorem recorded_served (r : Request) (c : Coordinator σ) :
    Recorded c.scene (c.served r) (c.serve r).2.scene := by
  unfold served
  split
  · next h =>
    rw [(serve_of_running h r).1]
    exact .single ⟨c.clock, c.scene, .request r⟩
  · next h =>
    rw [serve_of_not_running (by simpa using h)]
    exact .nil _

/-! ## Timers that go off -/

/-- Giving up an opening touches neither the clock nor the timers. -/
theorem serve_expire (name : String) (generation : Nat) (c : Coordinator σ) :
    (c.serve (.expire name generation)).2.clock = c.clock ∧
      (c.serve (.expire name generation)).2.running = c.running ∧
      (c.serve (.expire name generation)).2.timeout = c.timeout ∧
      (c.serve (.expire name generation)).2.timers = c.timers := by
  unfold serve
  split
  · exact ⟨rfl, rfl, rfl, rfl⟩
  · exact ⟨rfl, rfl, rfl, rfl⟩

/-- A timer that goes off sets the clock, and it touches neither the other timers nor whether
requests are carried out. -/
theorem ring_eq (t : Timer) (c : Coordinator σ) :
    (c.ring t).clock = t.deadline ∧ (c.ring t).running = c.running ∧
      (c.ring t).timeout = c.timeout ∧ (c.ring t).timers = c.timers :=
  serve_expire t.name t.generation { c with clock := t.deadline }

/-- The steps of timers lead to the scene that they leave. -/
theorem recorded_rings (due : List Timer) (c : Coordinator σ) :
    Recorded c.scene (rings due c) (ringAll due c).scene := by
  induction due generalizing c with
  | nil => exact .nil _
  | cons t rest ih =>
    exact (recorded_served (.expire t.name t.generation)
      { c with clock := t.deadline }).append (ih (c.ring t))

/-- Timers that go off do not stop the coordinator, and they set no timers. -/
theorem ringAll_eq (due : List Timer) (c : Coordinator σ) :
    (ringAll due c).running = c.running ∧ (ringAll due c).timeout = c.timeout ∧
      (ringAll due c).timers = c.timers := by
  induction due generalizing c with
  | nil => exact ⟨rfl, rfl, rfl⟩
  | cons t rest ih =>
    obtain ⟨hrunning, htimeout, htimers⟩ := ih (c.ring t)
    obtain ⟨-, hrunning', htimeout', htimers'⟩ := c.ring_eq t
    exact ⟨hrunning.trans hrunning', htimeout.trans htimeout', htimers.trans htimers'⟩

/-- Timers go off one after the other. -/
theorem rings_append (first rest : List Timer) (c : Coordinator σ) :
    rings (first ++ rest) c = rings first c ++ rings rest (ringAll first c) := by
  induction first generalizing c with
  | nil => rfl
  | cons t first ih =>
    show _ ++ rings (first ++ rest) (c.ring t) = _
    rw [ih, ← List.append_assoc]
    rfl

/-- What is left of a coordinator when a wait is over. -/
theorem wait_fields (ms : Nat) (c : Coordinator σ) :
    (c.wait ms).clock = c.clock + delay ms ∧ (c.wait ms).running = c.running ∧
      (c.wait ms).timeout = c.timeout ∧
      (c.wait ms).timers = c.timers.dropWhile fun t => t.deadline ≤ c.clock + delay ms := by
  obtain ⟨hrunning, htimeout, htimers⟩ :=
    ringAll_eq (c.due (c.clock + delay ms)) (c.unset (c.clock + delay ms))
  exact ⟨rfl, hrunning, htimeout, htimers⟩

/-- A step that timers make is that of one of them. -/
theorem mem_rings {y : Step σ} {due : List Timer} {c : Coordinator σ} (h : y ∈ rings due c) :
    ∃ t ∈ due, y.moment = t.deadline ∧ y.move = .request (.expire t.name t.generation) := by
  induction due generalizing c with
  | nil => cases h
  | cons t rest ih =>
    rcases List.mem_append.mp h with hfirst | hrest
    · obtain ⟨-, rfl⟩ := mem_served hfirst
      exact ⟨t, List.mem_cons_self, rfl, rfl⟩
    · obtain ⟨u, hu, hmoment, hmove⟩ := ih hrest
      exact ⟨u, List.mem_cons_of_mem t hu, hmoment, hmove⟩

/-- A step that is to give up an opening means that if it can, and nothing else. -/
theorem happening_expire {y : Step σ} {name : String} {generation : Nat}
    (h : y.move = .request (.expire name generation)) : y.happening =
      if (y.before.expire name generation).1 then .expired name generation else .other := by
  unfold Step.happening
  rw [h]
  rfl

/-- A request to give up an opening either gives it up or does nothing. -/
theorem happening_of_expire {y : Step σ} {name : String} {generation : Nat}
    (h : y.move = .request (.expire name generation)) :
    y.happening = .expired name generation ∨ y.happening = .other := by
  rw [happening_expire h]
  split
  · exact .inl rfl
  · exact .inr rfl

/-! ## Whole runs -/

/-- A coordinator at work that shuts down has closed all satellites, and does no more. -/
theorem shutdown_of_running {c : Coordinator σ} (h : c.running = true) :
    c.shutdown.2.scene = c.scene.move (.request .mainWindowClosed) ∧
      c.shutdown.2.clock = c.clock ∧ c.shutdown.2.running = false ∧
      c.shutdown.2.timeout = c.timeout ∧ c.shutdown.2.timers = c.timers := by
  unfold shutdown
  rw [if_pos h]
  exact ⟨rfl, rfl, rfl, rfl, rfl⟩

/-- A coordinator can be shut down once only. -/
theorem shutdown_of_not_running {c : Coordinator σ} (h : c.running = false) :
    c.shutdown.2 = c := by
  unfold shutdown
  rw [if_neg (by rw [h]; exact Bool.false_ne_true)]

/-- The steps of an act lead to the scene that it leaves. -/
theorem recorded_stepsOf (a : Act σ) (c : Coordinator σ) :
    Recorded c.scene (c.stepsOf a) (c.act a).scene := by
  cases a with
  | ask r allowed => exact recorded_served r c
  | wait ms => exact recorded_rings _ (c.unset (c.clock + delay ms))
  | shutdown =>
    show Recorded c.scene (c.served .mainWindowClosed) c.shutdown.2.scene
    unfold served
    split
    · next h =>
      rw [(shutdown_of_running h).1]
      exact .single ⟨c.clock, c.scene, .request .mainWindowClosed⟩
    · next h =>
      rw [shutdown_of_not_running (by simpa using h)]
      exact .nil _
  | shift change => exact .single ⟨c.clock, c.scene, .shift change⟩

/-- Acts are done one after the other. -/
theorem run_append (first rest : List (Act σ)) (c : Coordinator σ) :
    c.run (first ++ rest) = (c.run first).run rest := by
  induction first generalizing c with
  | nil => rfl
  | cons a first ih => exact ih (c.act a)

/-- The steps of a run lead from the first scene to the last. -/
theorem recorded_steps (acts : List (Act σ)) (c : Coordinator σ) :
    Recorded c.scene (c.steps acts) (c.run acts).scene := by
  induction acts generalizing c with
  | nil => exact .nil _
  | cons a rest ih => exact (recorded_stepsOf a c).append (ih (c.act a))

/-- Only a request that is carried out can open a satellite anew. -/
theorem ask_of_opened {a : Act σ} {c : Coordinator σ} {o : Step σ} {name : String} {g : Nat}
    (h : o ∈ c.stepsOf a) (ho : o.happening = .opened name g) :
    ∃ r allowed, a = .ask r allowed ∧ c.running = true ∧ o = ⟨c.clock, c.scene, .request r⟩ := by
  cases a with
  | ask r allowed =>
    obtain ⟨hrunning, ho'⟩ := mem_served h
    exact ⟨r, allowed, rfl, hrunning, ho'⟩
  | wait ms =>
    obtain ⟨t, -, -, hmove⟩ := mem_rings h
    rcases happening_of_expire hmove with hexpired | hother
    · rw [hexpired] at ho
      cases ho
    · rw [hother] at ho
      cases ho
  | shutdown =>
    obtain ⟨-, rfl⟩ := mem_served h
    cases ho
  | shift change =>
    rw [List.mem_singleton.mp h] at ho
    cases ho

/-- A step that opens a satellite anew carries out a request, before which and after which the
other steps are made. -/
theorem exists_ask_of_opened {acts : List (Act σ)} {c : Coordinator σ}
    {earlier later : List (Step σ)} {o : Step σ} {name : String} {g : Nat}
    (h : c.steps acts = earlier ++ o :: later) (ho : o.happening = .opened name g) :
    ∃ first r allowed rest, acts = first ++ .ask r allowed :: rest ∧ earlier = c.steps first ∧
      (c.run first).running = true ∧
      o = ⟨(c.run first).clock, (c.run first).scene, .request r⟩ ∧
      later = ((c.run first).act (.ask r allowed)).steps rest := by
  induction acts generalizing c earlier with
  | nil => exact absurd h (by simp [steps])
  | cons a rest ih =>
    have hsplit : c.stepsOf a ++ (c.act a).steps rest = earlier ++ o :: later := h
    rcases List.append_eq_append_iff.mp hsplit with ⟨front, hfront, hrest⟩ | ⟨back, hback, hrest⟩
    · obtain ⟨first, r, allowed, tail, rfl, rfl, hrunning, ho', hlater⟩ := ih hrest
      exact ⟨a :: first, r, allowed, tail, rfl, hfront, hrunning, ho', hlater⟩
    · cases back with
      | nil =>
        have hnext : (c.act a).steps rest = [] ++ o :: later := hrest.symm
        obtain ⟨first, r, allowed, tail, rfl, hnone, hrunning, ho', hlater⟩ := ih hnext
        refine ⟨a :: first, r, allowed, tail, rfl, ?_, hrunning, ho', hlater⟩
        show earlier = c.stepsOf a ++ (c.act a).steps first
        rw [← hnone, hback]
        simp
      | cons b back =>
        obtain ⟨rfl, rfl⟩ := List.cons_eq_cons.mp hrest
        obtain ⟨r, allowed, rfl, hrunning, ho'⟩ := ask_of_opened (by rw [hback]; simp) ho
        have hone : c.stepsOf (.ask r allowed) = [⟨c.clock, c.scene, .request r⟩] := if_pos hrunning
        rw [hone, ← ho'] at hback
        obtain ⟨rfl, rfl⟩ : earlier = [] ∧ back = [] := by
          have hlength := congrArg List.length hback
          simp only [List.length_append, List.length_cons, List.length_nil] at hlength
          exact ⟨List.length_eq_zero_iff.mp (by omega), List.length_eq_zero_iff.mp (by omega)⟩
        exact ⟨[], r, allowed, rest, rfl, rfl, hrunning, ho', rfl⟩

end SatelliteWindows.Coordinator
