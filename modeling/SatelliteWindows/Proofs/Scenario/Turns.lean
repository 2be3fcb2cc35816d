import Mathlib.Data.List.Basic
import SatelliteWindows.Proofs.Coordinator.Steps
import SatelliteWindows.Scenario.Run

/-!
# What a turn does to a run

A run has many parts, and what the parties do in their turns touches few of them. Here it is said
once which: sending a letter, giving a place away, and serving a request, for which the listener, an
alarm and the script may have to be woken.
-/

namespace SatelliteWindows

/-- Who is to have a turn when a request has been served: the listener if there is news, the alarms
that were set, and the script if it asked. -/
def Turns.served (news : Bool) (alarms : List Timer) (sender : Party) (t : Turns) : Turns :=
  let t := if news then t.wake .listener else t
  let t := alarms.foldl (fun t a => t.wake (.alarm a)) t
  if sender = .script then t.wake .script else t

namespace Turns

variable {p q : Party} {t : Turns}

/-- The script is awake if it has been woken, or was awake before. -/
theorem scriptAwake_wake (p : Party) (t : Turns) :
    (t.wake p).scriptAwake = (p = .script || t.scriptAwake) := by
  unfold wake
  split
  · next hp => simp [hp]
  · next hp => split <;> simp [hp]

/-- Those who rest are not concerned when others are woken. -/
theorem resting_wake (p : Party) (t : Turns) : (t.wake p).resting = t.resting := by
  unfold wake
  split
  · rfl
  · split <;> rfl

/-- Nor are they when alarms are. -/
theorem resting_wakeAlarms (alarms : List Timer) (t : Turns) :
    (alarms.foldl (fun t a => t.wake (.alarm a)) t).resting = t.resting := by
  induction alarms generalizing t with
  | nil => rfl
  | cons a rest ih => exact (ih _).trans (resting_wake _ t)

/-- A party that is woken is the last in the queue, unless it is to have a turn anyway. -/
theorem queue_wake (p : Party) (t : Turns) : (t.wake p).queue =
    if p = .script ∨ p ∈ t.queue ∨ p ∈ t.resting then t.queue else t.queue ++ [p] := by
  unfold wake
  split
  · next hp => simp [hp]
  · next hp =>
    split
    · next hthere => simp [hthere]
    · next hthere => simp [hp, hthere]

/-- Whoever queues when a party was woken has queued before or is that party. -/
theorem mem_queue_wake (h : q ∈ (t.wake p).queue) : q ∈ t.queue ∨ q = p ∧ p ≠ .script := by
  rw [queue_wake] at h
  split at h
  · exact .inl h
  · next hnew =>
    refine (List.mem_append.mp h).imp id fun hlast => ⟨List.mem_singleton.mp hlast, fun hp => ?_⟩
    exact hnew (.inl hp)

/-- Whoever queues when several were woken has queued before or is one of them. -/
theorem mem_queue_wakeAll {ps : List Party} (h : q ∈ (ps.foldl (fun t p => t.wake p) t).queue) :
    q ∈ t.queue ∨ q ∈ ps ∧ q ≠ .script := by
  induction ps generalizing t with
  | nil => exact .inl h
  | cons p rest ih =>
    rcases ih h with hq | ⟨hq, hne⟩
    · exact (mem_queue_wake hq).imp id fun ⟨hself, hne⟩ => ⟨hself ▸ List.mem_cons_self, hself ▸ hne⟩
    · exact .inr ⟨List.mem_cons_of_mem _ hq, hne⟩

/-- Whoever queues when alarms were woken has queued before or is one of them. -/
theorem mem_queue_wakeAlarms {alarms : List Timer}
    (h : q ∈ (alarms.foldl (fun t a => t.wake (.alarm a)) t).queue) :
    q ∈ t.queue ∨ ∃ a ∈ alarms, q = .alarm a := by
  have hwoken : q ∈ t.queue ∨ q ∈ alarms.map Party.alarm ∧ q ≠ .script :=
    mem_queue_wakeAll (by rwa [List.foldl_map])
  refine hwoken.imp id fun ⟨hq, _⟩ => ?_
  obtain ⟨a, ha, hself⟩ := List.mem_map.mp hq
  exact ⟨a, ha, hself.symm⟩

end Turns

namespace Run

variable {p : Party} {r : Run}

/-- A letter is sent when there is a place for it. -/
theorem send_of_place (h : (r.mailbox.reserve p).1 = true) (letter : Letter) :
    r.send p letter = (true, { r with
      mailbox := (r.mailbox.reserve p).2.put letter
      turns := r.turns.wake .coordinator }) := by
  unfold send
  split
  · next m hreserve =>
    rw [hreserve]
    rfl
  · next m hreserve =>
    rw [hreserve] at h
    cases h

/-- Otherwise its sender waits. -/
theorem send_of_full (h : (r.mailbox.reserve p).1 = false) (letter : Letter) :
    r.send p letter = (false, { r with mailbox := (r.mailbox.reserve p).2 }) := by
  unfold send
  split
  · next m hreserve =>
    rw [hreserve] at h
    cases h
  · next m hreserve => rw [hreserve]

/-- Sending changes nothing that the script has noted. -/
theorem script_send (p : Party) (letter : Letter) (r : Run) :
    (r.send p letter).2.script = r.script := by
  unfold send
  split <;> rfl

/-- Sending is nothing to the coordinator yet. -/
theorem coordinator_send (p : Party) (letter : Letter) (r : Run) :
    (r.send p letter).2.coordinator = r.coordinator := by
  unfold send
  split <;> rfl

/-- A letter that was sent is the last one. -/
theorem letters_send (p : Party) (letter : Letter) (r : Run) :
    (r.send p letter).2.mailbox.letters =
      r.mailbox.letters ++ if (r.send p letter).1 then [letter] else [] := by
  cases hplace : (r.mailbox.reserve p).1 with
  | true =>
    rw [send_of_place hplace]
    show (r.mailbox.reserve p).2.letters ++ [letter] = _
    rw [Mailbox.letters_reserve]
    rfl
  | false =>
    rw [send_of_full hplace]
    show (r.mailbox.reserve p).2.letters = _
    rw [Mailbox.letters_reserve]
    exact (List.append_nil _).symm

/-- A place is given away. -/
theorem grant_eq (given : Option Party × Mailbox Party Letter) (r : Run) :
    r.grant given = { r with
      mailbox := given.2
      turns := given.1.elim r.turns fun p => r.turns.wake p } := by
  unfold grant
  cases given.1 <;> rfl

/-- Alarms that are woken are to have turns, and nothing else happens. -/
theorem wakeAll_eq (alarms : List Timer) (r : Run) :
    alarms.foldl (fun r t => r.wake (.alarm t)) r =
      { r with turns := alarms.foldl (fun t a => t.wake (.alarm a)) r.turns } := by
  induction alarms generalizing r with
  | nil => rfl
  | cons t rest ih => exact ih (r.wake (.alarm t))

/-- Serving a request is the coordinator's affair, and a script that asked is told the answer. -/
theorem serve_fields (sender : Party) (request : Request) (r : Run) :
    (r.serve sender request).coordinator = { (r.coordinator.serve request).2 with timers := [] } ∧
      (r.serve sender request).mailbox = r.mailbox ∧
      (r.serve sender request).script = if sender = .script then
          { r.script with hold := .answer (some (r.coordinator.serve request).1) }
        else r.script := by
  unfold serve
  dsimp only
  rw [wakeAll_eq]
  by_cases hsent : r.coordinator.feed.sent < (r.coordinator.serve request).2.feed.sent
  · simp only [hsent, if_true]
    cases sender with
    | watcher =>
      unfold reply
      dsimp only
      split <;> exact ⟨rfl, rfl, rfl⟩
    | _ => exact ⟨rfl, rfl, rfl⟩
  · simp only [hsent, if_false]
    cases sender with
    | watcher =>
      unfold reply
      dsimp only
      split <;> exact ⟨rfl, rfl, rfl⟩
    | _ => exact ⟨rfl, rfl, rfl⟩

/-- What becomes of a run when a request is served, as long as the watcher wants no answer. -/
theorem serve_eq (hwatch : r.watcher.watch ≠ .awaiting) (sender : Party) (request : Request) :
    r.serve sender request = { r with
      coordinator := { (r.coordinator.serve request).2 with timers := [] }
      turns := r.turns.served
        (r.coordinator.feed.sent < (r.coordinator.serve request).2.feed.sent)
        (r.coordinator.serve request).2.timers sender
      script := if sender = .script then
          { r.script with hold := .answer (some (r.coordinator.serve request).1) }
        else r.script } := by
  unfold serve Turns.served
  dsimp only
  rw [wakeAll_eq]
  by_cases hsent : r.coordinator.feed.sent < (r.coordinator.serve request).2.feed.sent
  · simp only [hsent, if_true, decide_true]
    cases sender with
    | watcher =>
      unfold reply
      exact if_neg hwatch
    | _ => rfl
  · simp only [hsent, if_false, decide_false, Bool.false_eq_true]
    cases sender with
    | watcher =>
      unfold reply
      exact if_neg hwatch
    | _ => rfl

/-- What becomes of a run when time passes, as long as the watcher waits for no moment. -/
theorem passTime_eq (hmoment : r.watcher.moment = none) {time : Nat}
    (htime : r.moments.min? = some time) : r.passTime = { r with
      coordinator := { r.coordinator with clock := time }
      alarms := r.alarms.filter fun t => !decide (t.deadline ≤ time)
      turns := (r.alarms.filter fun t => t.deadline ≤ time).foldl (fun t a => t.wake (.alarm a))
        (if r.script.hold.moment? = some time then r.turns.wake .script else r.turns) } := by
  unfold passTime wakeAt
  rw [htime]
  dsimp only
  rw [List.partition_eq_filter_filter, wakeAll_eq]
  have hnone : r.watcher.moment ≠ some time := by
    rw [hmoment]
    exact nofun
  by_cases hscript : r.script.hold.moment? = some time
  · simp only [hscript, if_true, wake, hnone, if_false]
    rfl
  · simp only [hscript, if_false, hnone]
    rfl

/-! ## The script -/

/-- The script has come to wait for something, and letters of its own were sent before. -/
structure Halts (letters : List Letter) (hold : Hold) (r r' : Run) : Prop where
  /-- The coordinator has not had a turn. -/
  coordinator : r'.coordinator = r.coordinator
  /-- Of the script, only what it waits for is another. -/
  script : r'.script = { r.script with hold := hold }
  /-- The letters were sent. -/
  letters : r'.mailbox.letters = r.mailbox.letters ++ letters

/-- A letter was sent, or else the script waits for a place for it. -/
theorem halts_send {r' : Run} {sent : Bool} {letter : Letter} (placed full : Hold)
    (h : r.send .script letter = (sent, r')) :
    Halts (if sent then [letter] else []) (if sent then placed else full) r
      (r'.hold (if sent then placed else full)) := by
  have hscript := script_send .script letter r
  have hcoordinator := coordinator_send .script letter r
  have hletters := letters_send .script letter r
  rw [h] at hscript hcoordinator hletters
  exact ⟨hcoordinator, congrArg (fun script : Script =>
    { script with hold := if sent then placed else full }) hscript, hletters⟩

/-- Whether or not a letter was sent, no other was. -/
theorem eq_of_sent {letters : List Letter} {letter : Letter} {waiting sent : Prop}
    (h : letters = [] ∧ waiting ∨ letters = [letter] ∧ sent) : ∀ l ∈ letters, l = letter := by
  rcases h with ⟨rfl, -⟩ | ⟨rfl, -⟩
  · exact fun _ hl => absurd hl List.not_mem_nil
  · exact fun _ => List.mem_singleton.mp

/-- A script that makes a request waits for a place or for the answer. -/
theorem halts_request (req : Request) (n : Nat) (r : Run) : ∃ letters hold,
    Halts letters hold r (r.request req n) ∧ (letters = [] ∧ hold = .place req ∨
      letters = [.request .script req] ∧ hold = .answer none) := by
  cases n with
  | zero => exact ⟨[], _, ⟨rfl, rfl, (List.append_nil _).symm⟩, .inl ⟨rfl, rfl⟩⟩
  | succ n =>
    simp only [request]
    split
    · next heq => exact ⟨_, _, halts_send (.answer none) (.place req) heq, .inl ⟨rfl, rfl⟩⟩
    · next heq =>
      have hsent := halts_send (.answer none) (.place req) heq
      split
      · exact ⟨_, _, ⟨hsent.coordinator, hsent.script, hsent.letters⟩, .inr ⟨rfl, rfl⟩⟩
      · exact ⟨_, _, hsent, .inr ⟨rfl, rfl⟩⟩

/-- A script that sends its last letter waits for a place or for the end. -/
theorem halts_leave (r : Run) : ∃ letters hold, Halts letters hold r r.leave ∧
    (letters = [] ∧ hold = .farewell ∨ letters = [.farewell] ∧ hold = .ending) := by
  unfold leave
  split
  · next heq => exact ⟨_, _, halts_send .ending .farewell heq, .inr ⟨rfl, rfl⟩⟩
  · next heq => exact ⟨_, _, halts_send .ending .farewell heq, .inl ⟨rfl, rfl⟩⟩

/-- A script that leaves waits for the watcher, for a place or for the end. -/
theorem halts_part (r : Run) : ∃ letters hold, Halts letters hold r r.part ∧
    (letters = [] ∧ (hold = .farewell ∨ hold = .watcher) ∨
      letters = [.farewell] ∧ hold = .ending) := by
  unfold part
  split
  · obtain ⟨letters, hold, hhalts, hwhich⟩ := halts_leave r
    exact ⟨letters, hold, hhalts, hwhich.imp (And.imp id .inl) id⟩
  · exact ⟨[], .watcher, ⟨rfl, rfl, (List.append_nil _).symm⟩, .inl ⟨rfl, .inr rfl⟩⟩

/-- A script that dismisses the watcher waits for its end, or for its own. -/
theorem halts_dismiss (r : Run) : ∃ letters hold, Halts letters hold r r.dismiss.part ∧
    (letters = [] ∧ (hold = .farewell ∨ hold = .watcher) ∨
      letters = [.farewell] ∧ hold = .ending) := by
  have hdismiss : r.dismiss.coordinator = r.coordinator ∧ r.dismiss.script = r.script ∧
      r.dismiss.mailbox = r.mailbox := by
    unfold dismiss
    split <;> exact ⟨rfl, rfl, rfl⟩
  obtain ⟨hcoordinator, hscript, hmailbox⟩ := hdismiss
  obtain ⟨letters, hold, hhalts, hwhich⟩ := halts_part r.dismiss
  exact ⟨letters, hold, ⟨hhalts.coordinator.trans hcoordinator, hscript ▸ hhalts.script,
    hmailbox ▸ hhalts.letters⟩, hwhich⟩

/-- Of the coordinator, the steps change the desktop only. -/
def Reshapes (r r' : Run) : Prop :=
  ∃ world, r'.coordinator =
    { r.coordinator with scene := { r.coordinator.scene with world := world } }

/-- The desktop may stay as it is. -/
theorem reshapes_of_eq {r' : Run} (h : r'.coordinator = r.coordinator) : Reshapes r r' := ⟨_, h⟩

/-- Making a request does not change it. -/
theorem reshapes_request (req : Request) (n : Nat) (r : Run) : Reshapes r (r.request req n) := by
  obtain ⟨letters, hold, hhalts, -⟩ := halts_request req n r
  exact reshapes_of_eq hhalts.coordinator

/-- Dismissing the watcher does not change it. -/
theorem reshapes_dismiss (r : Run) : Reshapes r r.dismiss.part := by
  obtain ⟨letters, hold, hhalts, -⟩ := halts_dismiss r
  exact reshapes_of_eq hhalts.coordinator

/-- Taking steps changes only the desktop. -/
theorem reshapes_proceed (n : Nat) (l : List Step) (r : Run) : Reshapes r (r.proceed n l) := by
  induction l generalizing n r with
  | nil => exact reshapes_request .metrics n { r with script := { r.script with steps := [] } }
  | cons s rest ih =>
    unfold proceed
    dsimp only
    split
    · exact reshapes_request .metrics n _
    · exact reshapes_request _ n { r with script := { r.script with steps := s :: rest } }
    · next f _ =>
      obtain ⟨world, hworld⟩ := ih n ((({ r with
        script := { r.script with steps := s :: rest } }).alterDesktop f).record s
          (s.outcome .done) rest)
      exact ⟨world, hworld⟩
    · split
      · exact reshapes_of_eq rfl
      · split
        · obtain ⟨world, hworld⟩ := ih _ _
          exact ⟨world, hworld⟩
        · exact reshapes_of_eq rfl

/-- So does going on behind a step. -/
theorem reshapes_finishStep (answer : Answer) (r : Run) : Reshapes r (r.finishStep answer) := by
  unfold finishStep
  split
  · exact reshapes_of_eq rfl
  · next s rest _ => exact reshapes_proceed _ rest (r.record s (s.outcome answer) rest)

/-- So does a script's turn. -/
theorem reshapes_goOn (r : Run) : Reshapes r r.goOn := by
  unfold goOn
  split
  · exact reshapes_proceed _ _ r
  · exact reshapes_request _ _ r
  · exact reshapes_of_eq rfl
  · unfold resume
    split
    · exact reshapes_dismiss (r.conclude _)
    · exact reshapes_dismiss r
    · exact reshapes_finishStep _ r
    · exact reshapes_request .metrics _ (r.fail _ _)
  · split
    · exact reshapes_finishStep _ r
    · exact reshapes_of_eq rfl
  · obtain ⟨letters, hold, hhalts, -⟩ := halts_part r
    exact reshapes_of_eq hhalts.coordinator
  · obtain ⟨letters, hold, hhalts, -⟩ := halts_leave r
    exact reshapes_of_eq hhalts.coordinator
  · exact reshapes_of_eq rfl

end Run

end SatelliteWindows
