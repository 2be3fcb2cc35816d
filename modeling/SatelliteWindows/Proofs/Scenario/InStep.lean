import SatelliteWindows.Proofs.Mailbox
import SatelliteWindows.Proofs.Scenario.Log
import SatelliteWindows.Proofs.Scenario.Progress

/-!
# Runs in step

What happens in a run depends on how much time lies between two moments, and not on the moments
themselves. So two runs that agree in everything but the time, and in what the script has written
down and is still to do, go on in step: whoever has a turn in the one has the corresponding turn in
the other.

The runs are without interruption.
-/

namespace SatelliteWindows

/-! ## A later time -/

/-- The same timer, some time later. -/
def Timer.later (d : Nat) (t : Timer) : Timer := { t with deadline := t.deadline + d }

/-- Alarms that are the same some time later are the same. -/
theorem Timer.later_injective (d : Nat) : Function.Injective (Timer.later d) := by
  intro t u h
  cases t
  cases u
  simp only [Timer.later, Timer.mk.injEq, Nat.add_right_cancel_iff] at h ⊢
  exact h

namespace Party

/-- The same party, some time later. -/
def later (d : Nat) : Party → Party
  | .alarm t => .alarm (t.later d)
  | p => p

/-- So are parties. -/
theorem later_injective (d : Nat) : Function.Injective (later d) := by
  intro p q h
  cases p with
  | alarm t =>
    cases q with
    | alarm u => exact congrArg _ (Timer.later_injective d (Party.alarm.inj h))
    | _ => cases h
  | _ => cases q <;> first | rfl | cases h

/-- The script is the script some time later. -/
theorem later_eq_script {d : Nat} {p : Party} : p.later d = .script ↔ p = .script := by
  cases p <;> simp [later]

end Party

/-- The same letter, some time later. -/
def Letter.later (d : Nat) : Letter → Letter
  | .request sender req => .request (sender.later d) req
  | .farewell => .farewell

/-- The same wait, some time later. -/
def Hold.later (d : Nat) : Hold → Hold
  | .moment time => .moment (time + d)
  | h => h

namespace Coordinator

variable {σ : Type} {d : Nat}

/-- The same coordinator, some time later. -/
def later (d : Nat) (c : Coordinator σ) : Coordinator σ :=
  { c with clock := c.clock + d, timers := c.timers.map (Timer.later d) }

/-- Alarms are set in the same order some time later. -/
theorem insertTimer_later (t : Timer) (l : List Timer) :
    insertTimer (t.later d) (l.map (Timer.later d)) = (insertTimer t l).map (Timer.later d) := by
  induction l with
  | nil => rfl
  | cons u rest ih =>
    have hless : (t.later d).deadline < (u.later d).deadline ↔ t.deadline < u.deadline :=
      Nat.add_lt_add_iff_right
    rw [List.map_cons, insertTimer, insertTimer]
    by_cases h : t.deadline < u.deadline
    · rw [if_pos (hless.mpr h), if_pos h]
      rfl
    · rw [if_neg (mt hless.mp h), if_neg h, ih]
      rfl

/-- A request sets the same alarm, some time later. -/
theorem arm_later (r : Request) (answer : Except Fault Answer) (c : Coordinator σ) :
    (c.later d).arm r answer = (c.arm r answer).later d := by
  unfold arm
  have htimeout : (c.later d).timeout = c.timeout := rfl
  rw [htimeout]
  split
  · next name _ _ generation span _ =>
    have htimer : (⟨(c.later d).clock + span, name, generation⟩ : Timer) =
        Timer.later d ⟨c.clock + span, name, generation⟩ := by
      simp only [later, Timer.later, Timer.mk.injEq, and_self, and_true]
      omega
    rw [htimer]
    simp only [later, insertTimer_later]
  · rfl

variable [Desktop σ]

/-- A request is carried out as it would be at another time. -/
theorem serve_later (r : Request) (c : Coordinator σ) :
    (c.later d).serve r = ((c.serve r).1, (c.serve r).2.later d) := by
  unfold serve
  have hrunning : (c.later d).running = c.running := rfl
  rw [hrunning]
  split
  · have hadvance : (c.later d).advance (Scene.perform r) =
        ((c.advance (Scene.perform r)).1, (c.advance (Scene.perform r)).2.later d) := rfl
    rw [hadvance]
    dsimp only
    rw [arm_later]
  · rfl

/-- A coordinator that shuts down some time later shuts down in the same way. -/
theorem shutdown_later (c : Coordinator σ) :
    (c.later d).shutdown.2 = c.shutdown.2.later d := by
  unfold shutdown
  have hrunning : (c.later d).running = c.running := rfl
  rw [hrunning]
  split <;> rfl

end Coordinator

/-! ## Turns -/

/-- The same parties are to have a turn in the same order, apart from the script. -/
structure Turns.InStep (d : Nat) (t t' : Turns) : Prop where
  /-- The same parties queue. -/
  queue : t'.queue = t.queue.map (Party.later d)
  /-- The same parties rest, whether the script does or not. -/
  resting : t'.resting.filter (· ≠ .script) =
    (t.resting.filter (· ≠ .script)).map (Party.later d)

/-- The script is to have a turn at the same time. -/
structure Turns.SameScript (t t' : Turns) : Prop where
  /-- It is awake at the same time. -/
  awake : t'.scriptAwake = t.scriptAwake
  /-- It rests at the same time. -/
  rests : .script ∈ t'.resting ↔ .script ∈ t.resting

namespace Turns

variable {d : Nat} {t t' : Turns}

/-- The corresponding party rests, unless it is the script. -/
theorem InStep.mem_resting (h : InStep d t t') {p : Party} (hp : p ≠ .script) :
    p.later d ∈ t'.resting ↔ p ∈ t.resting := by
  have hp' : p.later d ≠ .script := fun heq => hp (Party.later_eq_script.mp heq)
  have hfiltered : p.later d ∈ t'.resting.filter (· ≠ .script) ↔
      p ∈ t.resting.filter (· ≠ .script) := by
    rw [h.resting]
    exact List.mem_map_of_injective (Party.later_injective d)
  simpa [hp, hp'] using hfiltered

/-- Turns remain in step when a party is woken and the corresponding one. -/
theorem InStep.wake (h : InStep d t t') (p : Party) :
    InStep d (t.wake p) (t'.wake (p.later d)) := by
  refine ⟨?_, by rw [resting_wake, resting_wake, h.resting]⟩
  have hthere : (p.later d = .script ∨ p.later d ∈ t'.queue ∨ p.later d ∈ t'.resting) ↔
      (p = .script ∨ p ∈ t.queue ∨ p ∈ t.resting) := by
    by_cases hp : p = .script
    · exact ⟨fun _ => .inl hp, fun _ => .inl (Party.later_eq_script.mpr hp)⟩
    · rw [h.queue, h.mem_resting hp, Party.later_eq_script,
        List.mem_map_of_injective (Party.later_injective d)]
  rw [queue_wake, queue_wake]
  by_cases hin : p = .script ∨ p ∈ t.queue ∨ p ∈ t.resting
  · rw [if_pos hin, if_pos (hthere.mpr hin)]
    exact h.queue
  · rw [if_neg hin, if_neg (mt hthere.mp hin), List.map_append, List.map_singleton, h.queue]

/-- They remain so when several are. -/
theorem InStep.wakeAll (h : InStep d t t') (ps : List Party) :
    InStep d (ps.foldl (fun t p => t.wake p) t)
      ((ps.map (Party.later d)).foldl (fun t p => t.wake p) t') := by
  induction ps generalizing t t' with
  | nil => exact h
  | cons p rest ih => exact ih (h.wake p)

/-- They remain so when alarms are. -/
theorem InStep.wakeAlarms (h : InStep d t t') (alarms : List Timer) :
    InStep d (alarms.foldl (fun t a => t.wake (.alarm a)) t)
      ((alarms.map (Timer.later d)).foldl (fun t a => t.wake (.alarm a)) t') := by
  induction alarms generalizing t t' with
  | nil => exact h
  | cons a rest ih => exact ih (h.wake (.alarm a))

/-- They remain so when a request was served. -/
theorem InStep.served (h : InStep d t t') (news : Bool) (alarms : List Timer) (sender : Party) :
    InStep d (t.served news alarms sender)
      (t'.served news (alarms.map (Timer.later d)) (sender.later d)) := by
  have hnews : InStep d (if news then t.wake .listener else t)
      (if news then t'.wake .listener else t') := by
    split
    · exact h.wake .listener
    · exact h
  unfold Turns.served
  by_cases hsender : sender = .script
  · rw [if_pos hsender, if_pos (Party.later_eq_script.mpr hsender)]
    exact (hnews.wakeAlarms alarms).wake .script
  · rw [if_neg hsender, if_neg (mt Party.later_eq_script.mp hsender)]
    exact hnews.wakeAlarms alarms

/-- They remain so when a party rests and the corresponding one. -/
theorem InStep.rest (h : InStep d t t') {p : Party} (hp : p ≠ .script) :
    InStep d (t.rest p) (t'.rest (p.later d)) := by
  refine ⟨h.queue, ?_⟩
  have hp' : p.later d ≠ .script := mt Party.later_eq_script.mp hp
  unfold Turns.rest
  dsimp only
  rw [List.filter_cons_of_pos (by simpa using hp'), List.filter_cons_of_pos (by simpa using hp),
    h.resting]
  rfl

/-- For the others it makes no difference that the script rests. -/
theorem resting_rest_script (t : Turns) :
    (t.rest .script).resting.filter (· ≠ .script) = t.resting.filter (· ≠ .script) :=
  List.filter_cons_of_neg (by simp)

/-- A script is as awake as itself. -/
theorem SameScript.refl (t : Turns) : SameScript t t := ⟨rfl, Iff.rfl⟩

/-- If one script is as awake as another, the other is as awake as the one. -/
theorem SameScript.symm (h : SameScript t t') : SameScript t' t := ⟨h.awake.symm, h.rests.symm⟩

/-- If it is as awake as a third, so is the one. -/
theorem SameScript.trans {t'' : Turns} (h : SameScript t t') (h' : SameScript t' t'') :
    SameScript t t'' := ⟨h'.awake.trans h.awake, h'.rests.trans h.rests⟩

/-- To wake another party does not wake the script. -/
theorem sameScript_wake {p : Party} (hp : p ≠ .script) (t : Turns) : SameScript t (t.wake p) := by
  refine ⟨?_, by rw [resting_wake]⟩
  rw [scriptAwake_wake, decide_eq_false hp, Bool.false_or]

/-- Scripts are as awake as each other when the same party is woken. -/
theorem SameScript.wake (h : SameScript t t') (p : Party) : SameScript (t.wake p) (t'.wake p) := by
  refine ⟨?_, by rw [resting_wake, resting_wake, h.rests]⟩
  rw [scriptAwake_wake, scriptAwake_wake, h.awake]

/-- They are so when a party is woken and the corresponding one. -/
theorem SameScript.wake_later (h : SameScript t t') (p : Party) :
    SameScript (t.wake p) (t'.wake (p.later d)) := by
  by_cases hp : p = .script
  · subst hp
    exact h.wake .script
  · have hp' : p.later d ≠ .script := mt Party.later_eq_script.mp hp
    exact (sameScript_wake hp t).symm.trans (h.trans (sameScript_wake hp' t'))

/-- Alarms that are woken do not wake the script. -/
theorem sameScript_wakeAlarms (alarms : List Timer) (t : Turns) :
    SameScript t (alarms.foldl (fun t a => t.wake (.alarm a)) t) := by
  induction alarms generalizing t with
  | nil => exact .refl t
  | cons a rest ih => exact (sameScript_wake (Party.noConfusion ·) t).trans (ih _)

/-- Serving a request of somebody else does not wake the script. -/
theorem sameScript_served (news : Bool) (alarms : List Timer) {sender : Party}
    (h : sender ≠ .script) (t : Turns) : SameScript t (t.served news alarms sender) := by
  have hnews : SameScript t (if news then t.wake .listener else t) := by
    split
    · exact sameScript_wake (Party.noConfusion ·) t
    · exact .refl t
  unfold Turns.served
  rw [if_neg h]
  exact hnews.trans (sameScript_wakeAlarms alarms _)

/-- They are as awake as each other when both were told an answer. -/
theorem SameScript.served (h : SameScript t t') (news news' : Bool) (alarms alarms' : List Timer) :
    SameScript (t.served news alarms .script) (t'.served news' alarms' .script) := by
  have hothers : ∀ (u : Turns) (n : Bool) (l : List Timer),
      SameScript (u.wake .script) (u.served n l .script) := by
    intro u n l
    have hserved : SameScript u (u.served n l .listener) :=
      sameScript_served n l (Party.noConfusion ·) u
    exact hserved.wake .script
  exact ((hothers t news alarms).symm.trans (h.wake .script)).trans (hothers t' news' alarms')

/-- A script is as awake as before when another party rests. -/
theorem sameScript_rest {p : Party} (hp : p ≠ .script) (t : Turns) : SameScript t (t.rest p) :=
  ⟨rfl, by simp [Turns.rest, Ne.symm hp]⟩

/-- Who queues does not depend on the script. -/
theorem wakeAll_congr (ps : List Party) (queue : t'.queue = t.queue)
    (resting : t'.resting = t.resting) :
    (ps.foldl (fun t p => t.wake p) t').queue = (ps.foldl (fun t p => t.wake p) t).queue ∧
      (ps.foldl (fun t p => t.wake p) t').resting = t.resting := by
  induction ps generalizing t t' with
  | nil => exact ⟨queue, resting⟩
  | cons p rest ih =>
    have hqueued : (t'.wake p).queue = (t.wake p).queue := by
      rw [queue_wake, queue_wake, queue, resting]
    obtain ⟨hqueue, hresting⟩ := ih hqueued (by rw [resting_wake, resting_wake, resting])
    exact ⟨hqueue, hresting.trans (resting_wake p t)⟩

/-- When parties are woken, the others queue as if the script were not among them. -/
theorem wakeAll_others (ps : List Party) (t : Turns) :
    (ps.foldl (fun t p => t.wake p) t).queue =
        ((ps.filter (· ≠ .script)).foldl (fun t p => t.wake p) t).queue ∧
      (ps.foldl (fun t p => t.wake p) t).scriptAwake =
        (decide (.script ∈ ps) || t.scriptAwake) := by
  induction ps generalizing t with
  | nil => exact ⟨rfl, rfl⟩
  | cons p rest ih =>
    obtain ⟨hqueue, hawake⟩ := ih (t.wake p)
    refine ⟨hqueue.trans ?_, hawake.trans ?_⟩
    · by_cases hp : p = .script
      · rw [List.filter_cons_of_neg (by simpa using hp), hp]
        have hsame : (t.wake .script).queue = t.queue := rfl
        exact (wakeAll_congr _ hsame rfl).1
      · rw [List.filter_cons_of_pos (by simpa using hp)]
        rfl
    · rw [scriptAwake_wake]
      by_cases hp : p = .script
      · simp [hp]
      · simp [hp, Ne.symm hp]

/-- Turns remain in step when those who rest are woken. -/
theorem InStep.wakeResting (h : InStep d t t') : InStep d t.wakeResting t'.wakeResting := by
  have hnobody : InStep d { t with resting := [] } { t' with resting := [] } := ⟨h.queue, rfl⟩
  have hwoken := hnobody.wakeAll (t.resting.filter (· ≠ .script))
  rw [← h.resting] at hwoken
  refine ⟨?_, ?_⟩
  · unfold Turns.wakeResting
    rw [(wakeAll_others _ _).1, (wakeAll_others t.resting _).1]
    exact hwoken.queue
  · unfold Turns.wakeResting
    rw [(wakeAll_congr _ rfl rfl).2, (wakeAll_congr t.resting rfl rfl).2]
    rfl

/-- Scripts are as awake as each other then. -/
theorem SameScript.wakeResting (h : SameScript t t') :
    SameScript t.wakeResting t'.wakeResting := by
  unfold Turns.wakeResting
  refine ⟨?_, ?_⟩
  · rw [(wakeAll_others _ _).2, (wakeAll_others t.resting _).2]
    simp only [h.awake, h.rests]
  · rw [(wakeAll_congr _ rfl rfl).2, (wakeAll_congr t.resting rfl rfl).2]

/-- Nobody but the script is to have a turn. -/
def OthersQuiet (t : Turns) : Prop := t.queue = [] ∧ t.resting.filter (· ≠ .script) = []

/-- All is quiet if nobody else is to have a turn and the script is asleep and does not rest. -/
theorem isQuiet_iff (t : Turns) :
    t.isQuiet = true ↔ t.OthersQuiet ∧ t.scriptAwake = false ∧ .script ∉ t.resting := by
  unfold isQuiet OthersQuiet
  simp only [Bool.and_eq_true, List.isEmpty_iff, Bool.not_eq_true']
  constructor
  · rintro ⟨⟨hqueue, hresting⟩, hawake⟩
    rw [hresting]
    exact ⟨⟨hqueue, rfl⟩, hawake, List.not_mem_nil⟩
  · rintro ⟨⟨hqueue, hothers⟩, hawake, hscript⟩
    refine ⟨⟨hqueue, List.eq_nil_iff_forall_not_mem.mpr fun p hp => ?_⟩, hawake⟩
    by_cases hself : p = .script
    · exact hscript (hself ▸ hp)
    · have hmem : p ∈ t.resting.filter (· ≠ .script) :=
        List.mem_filter.mpr ⟨hp, by simpa using hself⟩
      rw [hothers] at hmem
      cases hmem

/-- In turns that are in step others are quiet in both or in neither. -/
theorem InStep.othersQuiet (h : InStep d t t') : t'.OthersQuiet ↔ t.OthersQuiet := by
  unfold OthersQuiet
  rw [h.queue, h.resting, List.map_eq_nil_iff, List.map_eq_nil_iff]

/-- All is quiet in both or in neither if the scripts are as awake as each other. -/
theorem InStep.isQuiet (h : InStep d t t') (hscript : SameScript t t') :
    t'.isQuiet = t.isQuiet := by
  rw [Bool.eq_iff_iff, isQuiet_iff, isQuiet_iff, h.othersQuiet, hscript.awake, hscript.rests]

end Turns

namespace Mailbox

/-- The same mailbox, some time later. -/
def later (d : Nat) (m : Mailbox Party Letter) : Mailbox Party Letter :=
  m.relabel (Party.later d) (Letter.later d)

end Mailbox

/-- Why a step failed, wherever it stands. -/
def RunFault.reason : RunFault → Option (String × StepFault)
  | .flawed _ => none
  | .failed _ action cause => some (action, cause)

/-- Two scripts agree on what comes of their steps. -/
structure Script.Agrees (s s' : Script) : Prop where
  /-- Windows are as large. -/
  defaultSize : s'.defaultSize = s.defaultSize
  /-- They have failed for the same reason, if they have. -/
  fault : s'.fault.map RunFault.reason = s.fault.map RunFault.reason
  /-- They have counted the same. -/
  metrics : s'.metrics = s.metrics
  /-- They have found the same windows. -/
  satellites : s'.satellites = s.satellites

namespace Run

/-- The second run is some time behind the first. What they are at is the same, apart from the
script. -/
structure InStep (d : Nat) (r r' : Run) : Prop where
  /-- The coordinators and their desktops. -/
  coordinator : r'.coordinator = r.coordinator.later d
  /-- The letters. -/
  mailbox : r'.mailbox = r.mailbox.later d
  /-- Who is to have a turn. -/
  turns : r.turns.InStep d r'.turns
  /-- The alarms that sleep. -/
  alarms : r'.alarms = r.alarms.map (Timer.later d)
  /-- The listeners. -/
  listener : r'.listener = r.listener
  /-- Whether they have read everything. -/
  heardOut : r'.heardOut = r.heardOut
  /-- The watchers. -/
  watcher : r'.watcher = r.watcher

/-- The scripts agree as well, and are to have a turn at the same time. -/
structure Abreast (d : Nat) (r r' : Run) : Prop extends InStep d r r' where
  /-- The scripts are to have a turn at the same time. -/
  script : r.turns.SameScript r'.turns
  /-- They agree. -/
  agrees : r.script.Agrees r'.script

/-- The scripts are at the same, with such steps to be done. -/
structure Echoes (d : Nat) (l l' : List Step) (r r' : Run) : Prop extends Abreast d r r' where
  /-- They wait for the same. -/
  hold : r'.script.hold = r.script.hold.later d
  /-- The steps of the one. -/
  steps : r.script.steps = l
  /-- The steps of the other. -/
  steps' : r'.script.steps = l'

variable {d : Nat} {l l' : List Step} {p : Party} {r r' : Run}

/-! ## Letters and turns -/

/-- The clock of the later run is that much ahead. -/
theorem InStep.clock (h : InStep d r r') : r'.clock = r.clock + d := by
  unfold Run.clock
  rw [h.coordinator]
  rfl

/-- A letter is sent in both runs, or the corresponding party waits in both. -/
theorem InStep.send (h : InStep d r r') (p : Party) (letter : Letter) :
    (r'.send (p.later d) (letter.later d)).1 = (r.send p letter).1 ∧
      InStep d (r.send p letter).2 (r'.send (p.later d) (letter.later d)).2 := by
  have hreserve : r'.mailbox.reserve (p.later d) =
      (r.mailbox.reserve p).map id (Mailbox.later d) := by
    rw [h.mailbox]
    exact Mailbox.reserve_relabel (Party.later_injective d) (Letter.later d) p r.mailbox
  cases hplace : (r.mailbox.reserve p).1 with
  | true =>
    have hplace' : (r'.mailbox.reserve (p.later d)).1 = true := by rw [hreserve]; exact hplace
    rw [send_of_place hplace, send_of_place hplace']
    refine ⟨rfl, { h with mailbox := ?_, turns := h.turns.wake .coordinator }⟩
    dsimp only
    rw [hreserve]
    exact (Mailbox.relabel_put _ _ _ _).symm
  | false =>
    have hplace' : (r'.mailbox.reserve (p.later d)).1 = false := by rw [hreserve]; exact hplace
    rw [send_of_full hplace, send_of_full hplace']
    refine ⟨rfl, { h with mailbox := ?_ }⟩
    dsimp only
    rw [hreserve]
    rfl

/-- To send a letter does not wake the script. -/
theorem sameScript_send (p : Party) (letter : Letter) (r : Run) :
    r.turns.SameScript (r.send p letter).2.turns := by
  cases hplace : (r.mailbox.reserve p).1 with
  | true =>
    rw [send_of_place hplace]
    exact Turns.sameScript_wake (p := .coordinator) (Party.noConfusion ·) _
  | false =>
    rw [send_of_full hplace]
    exact .refl _

/-- What is none of the script's business leaves the scripts as they are. -/
theorem Echoes.keep (h : Echoes d l l' r r') {u u' : Run} (instep : InStep d u u')
    (script : u.script = r.script) (script' : u'.script = r'.script)
    (turns : u.turns.SameScript u'.turns) : Echoes d l l' u u' where
  toInStep := instep
  script := turns
  hold := by rw [script, script', h.hold]
  agrees := by rw [script, script']; exact h.agrees
  steps := by rw [script, h.steps]
  steps' := by rw [script', h.steps']

/-- Two runs have gone on in step, and if their scripts were at the same they still are. -/
structure Keeps (d : Nat) (r r' u u' : Run) : Prop extends InStep d u u' where
  /-- The scripts are to have a turn at the same time still. -/
  script : r.turns.SameScript r'.turns → u.turns.SameScript u'.turns
  /-- The scripts are at the same still. -/
  echoes : ∀ l l', Echoes d l l' r r' → Echoes d l l' u u'

/-- Runs that are left alone keep in step. -/
theorem Keeps.refl (h : InStep d r r') : Keeps d r r' r r' := ⟨h, id, fun _ _ => id⟩

/-- Runs that keep in step twice keep in step. -/
theorem Keeps.trans {u u' v v' : Run} (h : Keeps d r r' u u') (h' : Keeps d u u' v v') :
    Keeps d r r' v v' :=
  ⟨h'.toInStep, h'.script ∘ h.script, fun l l' he => h'.echoes l l' (h.echoes l l' he)⟩

/-- The scripts have not been concerned. -/
theorem InStep.keeps {u u' : Run} (h : InStep d u u') (script : u.script = r.script)
    (script' : u'.script = r'.script)
    (turns : r.turns.SameScript r'.turns → u.turns.SameScript u'.turns) : Keeps d r r' u u' :=
  ⟨h, turns, fun _ _ he => he.keep h script script' (turns he.script)⟩

/-! ## The turns of the others -/

/-- They keep in step when corresponding letters are sent. -/
theorem InStep.keeps_send (h : InStep d r r') (p : Party) (letter : Letter) :
    Keeps d r r' (r.send p letter).2 (r'.send (p.later d) (letter.later d)).2 :=
  (h.send p letter).2.keeps (script_send _ _ r) (script_send _ _ r') fun hscript =>
    (sameScript_send _ _ r).symm.trans (hscript.trans (sameScript_send _ _ r'))

/-- A letter is taken out of both mailboxes, and its place handed on. -/
theorem InStep.release (h : InStep d r r') {letter : Letter} {rest : List Letter}
    (hletters : r.mailbox.letters = letter :: rest) :
    ∃ m m', r.mailbox.take? = some (letter, m) ∧ r'.mailbox.take? = some (letter.later d, m') ∧
      Keeps d r r' (r.grant m.release) (r'.grant m'.release) := by
  let m : Mailbox Party Letter := { r.mailbox with letters := rest }
  have hletters' : r'.mailbox.letters = letter.later d :: rest.map (Letter.later d) := by
    rw [h.mailbox]
    exact congrArg (List.map (Letter.later d)) hletters
  refine ⟨m, m.later d, by rw [Mailbox.take?, hletters], ?_, ?_⟩
  · rw [Mailbox.take?, hletters', h.mailbox]
    rfl
  · have hrelease : (m.later d).release =
        m.release.map (Option.map (Party.later d)) (Mailbox.later d) :=
      Mailbox.release_relabel _ _ m
    have hstep : InStep d (r.grant m.release) (r'.grant (m.later d).release) := by
      rw [grant_eq, grant_eq, hrelease]
      refine { h with mailbox := rfl, turns := ?_ }
      dsimp only
      rw [Prod.map_fst]
      cases m.release.1 with
      | none => exact h.turns
      | some p => exact h.turns.wake p
    refine hstep.keeps (by rw [grant_eq]) (by rw [grant_eq]) ?_
    rw [grant_eq, grant_eq, hrelease, Prod.map_fst]
    cases m.release.1 with
    | none => exact id
    | some p => exact fun hscript => hscript.wake_later p

/-- A request is carried out in both runs, and whoever made it is told the same. -/
theorem InStep.serve (h : InStep d r r') (hwatch : r.watcher.watch ≠ .awaiting) (sender : Party)
    (req : Request) : Keeps d r r' (r.serve sender req) (r'.serve (sender.later d) req) := by
  have hserve : r'.coordinator.serve req =
      ((r.coordinator.serve req).1, (r.coordinator.serve req).2.later d) := by
    rw [h.coordinator, Coordinator.serve_later]
  have hfeed : r'.coordinator.feed = r.coordinator.feed := by
    rw [h.coordinator]
    rfl
  have hwatch' : r'.watcher.watch ≠ .awaiting := by
    rw [h.watcher]
    exact hwatch
  have hstep : InStep d (r.serve sender req) (r'.serve (sender.later d) req) := by
    rw [serve_eq hwatch, serve_eq hwatch', hserve, hfeed]
    exact { h with coordinator := rfl, turns := h.turns.served _ _ sender }
  have hscript := (serve_fields sender req r).2.2
  have hscript' := (serve_fields (sender.later d) req r').2.2
  by_cases hsender : sender = .script
  · subst hsender
    rw [if_pos rfl] at hscript
    rw [if_pos (by rfl), hserve] at hscript'
    have hturns : r.turns.SameScript r'.turns →
        (r.serve .script req).turns.SameScript (r'.serve .script req).turns := fun hsame => by
      rw [serve_eq hwatch, serve_eq hwatch']
      exact hsame.served _ _ _ _
    refine ⟨hstep, hturns, fun l l' he => ⟨⟨hstep, hturns he.script, ?_⟩, ?_, ?_, ?_⟩⟩
    · rw [hscript, hscript']
      exact { he.agrees with }
    · rw [hscript, hscript']
      rfl
    · rw [hscript]
      exact he.steps
    · rw [hscript']
      exact he.steps'
  · have hsender' : sender.later d ≠ .script := mt Party.later_eq_script.mp hsender
    rw [if_neg hsender] at hscript
    rw [if_neg hsender'] at hscript'
    refine hstep.keeps hscript hscript' fun hsame => ?_
    rw [serve_eq hwatch, serve_eq hwatch']
    exact (Turns.sameScript_served _ _ hsender _).symm.trans
      (hsame.trans (Turns.sameScript_served _ _ hsender' _))

/-- They keep in step when both coordinators stop. -/
theorem InStep.stop (h : InStep d r r') : Keeps d r r' r.stop r'.stop := by
  refine InStep.keeps { h with coordinator := ?_, turns := h.turns.wake .listener } rfl rfl
    fun hscript => hscript.wake .listener
  show r'.coordinator.shutdown.2 = r.coordinator.shutdown.2.later d
  rw [h.coordinator, Coordinator.shutdown_later]

/-- They keep in step when corresponding parties rest. -/
theorem InStep.keeps_rest (h : InStep d r r') (hp : p ≠ .script) :
    Keeps d r r' (r.rest p) (r'.rest (p.later d)) := by
  have hp' : p.later d ≠ .script := mt Party.later_eq_script.mp hp
  exact InStep.keeps { h with turns := h.turns.rest hp } rfl rfl fun hscript =>
    (Turns.sameScript_rest hp _).symm.trans (hscript.trans (Turns.sameScript_rest hp' _))

/-- They keep in step while both coordinators work. -/
theorem InStep.work (n : Nat) (h : InStep d r r') (hwatch : r.watcher.watch ≠ .awaiting) :
    Keeps d r r' (r.work n) (r'.work n) := by
  induction n generalizing r r' with
  | zero => exact h.keeps_rest (p := .coordinator) (Party.noConfusion ·)
  | succ n ih =>
    unfold Run.work
    cases hletters : r.mailbox.letters with
    | nil =>
      have hletters' : r'.mailbox.letters = [] := by
        rw [h.mailbox]
        exact congrArg (List.map (Letter.later d)) hletters
      rw [Mailbox.take?, Mailbox.take?, hletters, hletters']
      exact .refl h
    | cons letter rest =>
      obtain ⟨m, m', htake, htake', hkeeps⟩ := h.release hletters
      rw [htake, htake']
      cases letter with
      | request sender req =>
        have hwatch' : (r.grant m.release).watcher.watch ≠ .awaiting := by
          rw [grant_eq]
          exact hwatch
        have hserved := hkeeps.toInStep.serve hwatch' sender req
        exact hkeeps.trans (hserved.trans
          (ih hserved.toInStep (by rw [serve_eq hwatch']; exact hwatch')))
      | farewell => exact hkeeps.trans hkeeps.toInStep.stop

/-- They keep in step when both listeners read. -/
theorem InStep.listen (h : InStep d r r') : Keeps d r r' r.listen r'.listen := by
  have hread : r'.coordinator.feed.receiveSome Turns.allowance r'.listener =
      r.coordinator.feed.receiveSome Turns.allowance r.listener := by
    rw [h.coordinator, h.listener]
    rfl
  unfold Run.listen
  rw [hread]
  obtain ⟨given, feed⟩ := r.coordinator.feed.receiveSome Turns.allowance r.listener
  dsimp only
  have hcoordinator : { r'.coordinator with feed := feed } =
      ({ r.coordinator with feed := feed } : Coordinator Simulation).later d := by
    rw [h.coordinator]
    rfl
  have hrunning : r'.coordinator.running = r.coordinator.running := by
    rw [h.coordinator]
    rfl
  split
  · have hstep : InStep d
        { r with
          coordinator := { r.coordinator with feed := feed }
          collected := r.collected ++ Feed.itemsOf (given.getD []) }
        { r' with
          coordinator := { r'.coordinator with feed := feed }
          collected := r'.collected ++ Feed.itemsOf (given.getD []) } :=
      { h with coordinator := hcoordinator }
    exact Keeps.trans (hstep.keeps rfl rfl id)
      (hstep.keeps_rest (p := .listener) (Party.noConfusion ·))
  · refine InStep.keeps { h with coordinator := hcoordinator, heardOut := ?_ } rfl rfl id
    exact congrArg (!·) hrunning

/-- They keep in step when both watchers have their turns. -/
theorem InStep.watch {capacity : Nat} {busy busy' : Option Party} (h : InStep d r r')
    (hlive : Live capacity busy r) (hlive' : Live capacity busy' r') :
    Keeps d r r' r.watch r'.watch := by
  rw [hlive.watch_eq, hlive'.watch_eq, h.watcher]
  split
  · refine InStep.keeps { h with watcher := ?_, turns := h.turns.wake .script } rfl rfl
      fun hscript => hscript.wake .script
    exact congrArg (fun w : Watcher => { w with watch := .over }) h.watcher
  · exact .refl h

/-- They keep in step when corresponding alarms do. -/
theorem InStep.ring (h : InStep d r r') (t : Timer) :
    Keeps d r r' (r.ring t) (r'.ring (t.later d)) := by
  have hdue : (t.later d).deadline ≤ r'.clock ↔ t.deadline ≤ r.clock := by
    rw [h.clock]
    exact Nat.add_le_add_iff_right
  unfold Run.ring
  by_cases ht : t.deadline ≤ r.clock
  · rw [if_pos ht, if_pos (hdue.mpr ht)]
    exact h.keeps_send (.alarm t) (.request (.alarm t) (.expire t.name t.generation))
  · rw [if_neg ht, if_neg (mt hdue.mp ht)]
    refine InStep.keeps { h with alarms := ?_ } rfl rfl id
    dsimp only
    rw [h.alarms, List.map_append, List.map_singleton]

/-- Others have their turns at the same time. -/
theorem InStep.turn {capacity : Nat} (h : InStep d r r') (hp : p ≠ .script)
    (hlive : Live capacity (some p) r) (hlive' : Live capacity (some (p.later d)) r') :
    Keeps d r r' (r.turn p) (r'.turn (p.later d)) := by
  cases p with
  | script => exact absurd rfl hp
  | coordinator => exact h.work Turns.allowance hlive.not_awaiting
  | listener => exact h.listen
  | watcher => exact h.watch hlive hlive'
  | alarm t => exact h.ring t

end Run

end SatelliteWindows
