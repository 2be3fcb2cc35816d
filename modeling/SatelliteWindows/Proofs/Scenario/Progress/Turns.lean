import SatelliteWindows.Proofs.Office.Conduct
import SatelliteWindows.Proofs.Scenario.Progress.Load

/-!
# No turn adds to what there is to do

Whatever comes of a turn weighs no more than what the party has dealt with in it. That a party had a
turn at all counts as something dealt with.
-/

namespace SatelliteWindows.Run

variable {u : Nat} {p : Party} {r : Run}

/-! ## The script -/

/-- What comes of a request that the script makes is less than a step may lead to. -/
theorem load_request (req : Request) (n : Nat) (r : Run) :
    (r.request req n).load u ≤ r.others u + stepLoad u * r.script.steps.length
      + (u + 3) + (2 * u + 5) + if n ≤ 1 then 2 else 0 := by
  have hnothing : ∀ clock, Party.load u clock .script = 0 := fun _ => rfl
  cases n with
  | zero =>
    have hrest := others_rest (u := u) .script (r.hold (.place req))
    rw [hnothing] at hrest
    show ((r.hold (.place req)).rest .script).others u
      + (stepLoad u * r.script.steps.length + (u + 3) + (2 * u + 5)) ≤ _
    rw [hrest, if_pos (Nat.zero_le 1)]
    show r.others u + _ + _ + _ ≤ _
    omega
  | succ n =>
    have hletter : (Letter.request .script req).load u ≤ 2 * u + 4 := by
      unfold Letter.load
      split <;> omega
    have hsend := others_send (u := u) .script (.request .script req) r
    have hscript := script_send .script (.request .script req) r
    simp only [request]
    generalize r.send .script (.request .script req) = sent at *
    obtain ⟨sent, r'⟩ := sent
    dsimp only at hsend hscript
    cases sent with
    | true =>
      rw [if_pos rfl] at hsend
      dsimp only
      split
      · next hn =>
        have hrest := others_rest (u := u) .script (r'.hold (.answer none))
        rw [hnothing] at hrest
        show ((r'.hold (.answer none)).rest .script).others u
          + (stepLoad u * r'.script.steps.length + (u + 3)) ≤ _
        rw [hrest, hscript, if_pos (by omega)]
        show r'.others u + _ + _ + _ ≤ _
        omega
      · show r'.others u + (stepLoad u * r'.script.steps.length + (u + 3)) ≤ _
        rw [hscript]
        omega
    | false =>
      rw [if_neg Bool.false_ne_true] at hsend
      have hpatience : Party.patience u .script = 0 := rfl
      show r'.others u
        + (stepLoad u * r'.script.steps.length + (u + 3) + (2 * u + 5)) ≤ _
      rw [hscript]
      omega

/-- What comes of the last letter is no more than a letter weighs. -/
theorem load_leave (r : Run) : r.leave.load u ≤ r.others u + (u + 1) := by
  have hletter : Letter.farewell.load u = u := rfl
  have hpatience : Party.patience u .script = 0 := rfl
  have hsend := others_send (u := u) .script .farewell r
  unfold leave
  generalize r.send .script .farewell = sent at *
  obtain ⟨sent, r'⟩ := sent
  cases sent with
  | true =>
    rw [if_pos rfl] at hsend
    show r'.others u + 0 ≤ _
    dsimp only at hsend
    omega
  | false =>
    rw [if_neg Bool.false_ne_true] at hsend
    show r'.others u + (u + 1) ≤ _
    dsimp only at hsend
    omega

/-- So it is if the script waits for the watcher before. -/
theorem load_part (r : Run) : r.part.load u ≤ r.others u + (u + 1) := by
  unfold part
  split
  · exact load_leave r
  · exact Nat.le_refl _

/-- The watcher is to have a turn besides if it is dismissed. -/
theorem load_dismiss (r : Run) : r.dismiss.part.load u ≤ r.others u + (u + 3) := by
  have hpart := load_part (u := u) r.dismiss
  have hdismiss : r.dismiss.others u ≤ r.others u + 2 := by
    unfold dismiss
    split
    · exact Nat.le_add_right _ _
    · exact others_wake .watcher { r with watcher := { r.watcher with dismissed := true } }
  omega

/-- A request weighs no more than a step. -/
theorem load_request_le (req : Request) (n : Nat) (r : Run) : (r.request req n).load u ≤
    r.others u + stepLoad u * (r.script.steps.length + 1) + (u + 3) := by
  have hrequest := load_request (u := u) req n r
  have hif : (if n ≤ 1 then 2 else 0) ≤ 2 := by split <;> omega
  have hstep : stepLoad u = 2 * u + 7 := rfl
  rw [Nat.mul_succ]
  omega

/-- When the script goes on with some steps, these and the end are what it means to do. -/
theorem load_proceed (n : Nat) (l : List Step) (r : Run) : (r.proceed n l).load u ≤
    r.others u + stepLoad u * (l.length + 1) + (u + 3) := by
  have hstep : stepLoad u = 2 * u + 7 := rfl
  induction l generalizing n r with
  | nil => exact load_request_le .metrics n { r with script := { r.script with steps := [] } }
  | cons s rest ih =>
    have hmul : stepLoad u * (rest.length + 1 + 1) =
        stepLoad u * (rest.length + 1) + stepLoad u := Nat.mul_succ _ _
    unfold proceed
    dsimp only
    split
    · next cause _ =>
      have hrequest := load_request_le (u := u) .metrics n
        ({ r with script := { r.script with steps := s :: rest } }.fail s cause)
      have hmul' := Nat.mul_le_mul_left (stepLoad u) (Nat.zero_le (rest.length + 1))
      refine Nat.le_trans hrequest ?_
      show r.others u + stepLoad u * (0 + 1) + (u + 3) ≤
        r.others u + stepLoad u * (rest.length + 1 + 1) + (u + 3)
      omega
    · exact load_request_le _ n { r with script := { r.script with steps := s :: rest } }
    · refine Nat.le_trans (ih n _) ?_
      show r.others u + stepLoad u * (rest.length + 1) + (u + 3) ≤
        r.others u + stepLoad u * (rest.length + 1 + 1) + (u + 3)
      omega
    · next ms _ =>
      have hmoment : Hold.load u r.clock (rest.length + 1) (.moment (r.clock + delay ms)) ≤
          stepLoad u * (rest.length + 1) + (u + 3) + 3 :=
        Nat.add_le_add_left (by split <;> omega) _
      split
      · have hrest := others_rest (u := u) .script
          ({ r with script := { r.script with steps := s :: rest } }.hold
            (.moment (r.clock + delay ms)))
        refine Nat.le_trans (Nat.le_of_eq (congrArg (· + _) hrest)) ?_
        show r.others u + 2 + 0
          + Hold.load u r.clock (rest.length + 1) (.moment (r.clock + delay ms)) ≤
            r.others u + stepLoad u * (rest.length + 1 + 1) + (u + 3)
        omega
      · split
        · refine Nat.le_trans (ih _ _) ?_
          show r.others u + stepLoad u * (rest.length + 1) + (u + 3) ≤
            r.others u + stepLoad u * (rest.length + 1 + 1) + (u + 3)
          omega
        · show r.others u
            + Hold.load u r.clock (rest.length + 1) (.moment (r.clock + delay ms)) ≤
              r.others u + stepLoad u * (rest.length + 1 + 1) + (u + 3)
          omega

/-- A step that is finished counts no more. -/
theorem load_finishStep {s : Step} {rest : List Step} (h : r.script.steps = s :: rest)
    (answer : Answer) : (r.finishStep answer).load u ≤
      r.others u + stepLoad u * r.script.steps.length + (u + 3) := by
  unfold finishStep
  rw [h]
  exact load_proceed _ rest (r.record s (s.outcome answer) rest)

/-- Whatever the answer, what is left is no more than the steps that remain. -/
theorem load_resume (answer : Except Fault Answer) (r : Run) : (r.resume answer).load u ≤
    r.others u + stepLoad u * r.script.steps.length + (u + 3) := by
  unfold resume
  split
  · next m _ =>
    have hdismiss := load_dismiss (u := u) (r.conclude m)
    have hothers : (r.conclude m).others u = r.others u := rfl
    omega
  · have hdismiss := load_dismiss (u := u) r
    omega
  · next hsteps => exact load_finishStep hsteps _
  · next s rest f hsteps =>
    refine Nat.le_trans (load_request_le .metrics _ (r.fail s (.refused f))) ?_
    rw [hsteps]
    show r.others u + stepLoad u * (0 + 1) + (u + 3) ≤
      r.others u + stepLoad u * (rest.length + 1) + (u + 3)
    have hmul : stepLoad u ≤ stepLoad u * (rest.length + 1) :=
      Nat.le_mul_of_pos_right _ (Nat.succ_pos _)
    omega

/-- The script never makes more work than it does away with. -/
theorem load_goOn (r : Run) : r.goOn.load u ≤ r.load u := by
  unfold goOn
  have hload : r.load u =
      r.others u + r.script.hold.load u r.clock r.script.steps.length := rfl
  rw [hload]
  cases hhold : r.script.hold with
  | free =>
    refine Nat.le_trans (load_proceed _ _ r) ?_
    show _ ≤ r.others u + (stepLoad u * (r.script.steps.length + 1) + (u + 3))
    omega
  | place req =>
    have hrequest := load_request (u := u) req Turns.allowance r
    rw [if_neg (by decide)] at hrequest
    refine Nat.le_trans hrequest ?_
    show _ ≤ r.others u
      + (stepLoad u * r.script.steps.length + (u + 3) + (2 * u + 5))
    omega
  | answer given =>
    cases given with
    | none => exact Nat.le_of_eq (hload.trans (by rw [hhold]))
    | some answer =>
      refine Nat.le_trans (load_resume answer r) ?_
      show _ ≤ r.others u + (stepLoad u * r.script.steps.length + (u + 3))
      omega
  | moment time =>
    dsimp only
    split
    · cases hsteps : r.script.steps with
      | nil =>
        unfold finishStep
        rw [hsteps]
        exact Nat.le_of_eq (hload.trans (by rw [hhold, hsteps]))
      | cons s rest =>
        have hfinish := load_finishStep (u := u) hsteps .done
        rw [hsteps] at hfinish
        refine Nat.le_trans hfinish ?_
        show _ ≤ r.others u + (stepLoad u * (s :: rest).length + (u + 3)
          + if r.clock < time then 3 else 0)
        omega
    · exact Nat.le_of_eq (hload.trans (by rw [hhold]))
  | watcher => exact load_part r
  | farewell => exact load_leave r
  | ending => exact Nat.le_of_eq (hload.trans (by rw [hhold]))

/-! ## The coordinator -/

/-- The feed keeps only so much, and no timer is left behind in the coordinator. -/
structure Tidy (slots : Nat) (r : Run) : Prop where
  /-- The feed keeps no more than it has slots for. -/
  bounded : r.coordinator.feed.Bounded
  /-- How many slots it has. -/
  slots : r.coordinator.feed.slots = slots
  /-- Timers are alarms. -/
  timers : r.coordinator.timers = []

/-- A coordinator is tidy as long as its feed and its timers are the same. -/
theorem Tidy.alike {slots : Nat} {r' : Run} (h : r.Tidy slots)
    (feed : r'.coordinator.feed = r.coordinator.feed)
    (timers : r'.coordinator.timers = r.coordinator.timers) : r'.Tidy slots :=
  ⟨feed ▸ h.bounded, feed ▸ h.slots, timers.trans h.timers⟩

/-- An alarm is set for an opening only, and such a letter weighs more. -/
theorem load_timers {c : Coordinator Simulation} (h : c.timers = []) (sender : Party)
    (request : Request) (clock : Nat) :
    ((c.serve request).2.timers.map fun a => 1 + (Party.alarm a).load u clock).sum + u ≤
      (Letter.request sender request).load u := by
  have hnone : (([] : List Timer).map fun a => 1 + (Party.alarm a).load u clock).sum + u ≤
      (Letter.request sender request).load u := by
    rw [List.map_nil, List.sum_nil]
    unfold Letter.load
    split <;> omega
  unfold Coordinator.serve
  split
  · unfold Coordinator.arm
    dsimp only
    split
    · next hanswer htimeout =>
      show ((Coordinator.insertTimer _ c.timers).map _).sum + u ≤ 2 * u + 4
      rw [h]
      show 1 + _ + 0 + u ≤ 2 * u + 4
      unfold Party.load
      dsimp only
      split <;> omega
    · show (c.timers.map _).sum + u ≤ _
      rw [h]
      exact hnone
  · rw [h]
    exact hnone

/-- The listener never finds more to read than the feed keeps. -/
theorem bounded_serve {c : Coordinator Simulation} (h : c.feed.Bounded) (request : Request) :
    (c.serve request).2.feed.Bounded ∧ (c.serve request).2.feed.slots = c.feed.slots := by
  cases hrunning : c.running with
  | true =>
    rw [Office.feed_serve hrunning]
    exact ⟨h.sendAll _, Feed.slots_sendAll _ _⟩
  | false =>
    rw [Coordinator.serve_of_not_running hrunning]
    exact ⟨h, rfl⟩

/-- A coordinator that shuts down keeps no more than its feed has slots for. -/
theorem bounded_shutdown {c : Coordinator Simulation} (h : c.feed.Bounded) :
    c.shutdown.2.feed.Bounded ∧ c.shutdown.2.feed.slots = c.feed.slots ∧
      c.shutdown.2.timers = c.timers := by
  cases hrunning : c.running with
  | true =>
    rw [Office.feed_shutdown hrunning]
    exact ⟨h.sendAll _, Feed.slots_sendAll _ _,
      (Coordinator.shutdown_of_running hrunning).2.2.2.2⟩
  | false =>
    rw [Coordinator.shutdown_of_not_running hrunning]
    exact ⟨h, rfl, rfl⟩

/-- A coordinator that has served a request is tidy. -/
theorem Tidy.serve {slots : Nat} (h : r.Tidy slots) (hwatch : r.watcher.watch ≠ .awaiting)
    (sender : Party) (request : Request) : (r.serve sender request).Tidy slots := by
  obtain ⟨hbounded, hslots⟩ := bounded_serve h.bounded request
  rw [serve_eq hwatch]
  exact ⟨hbounded, hslots.trans h.slots, rfl⟩

/-- Giving the place of a letter away wakes one party, and whoever is woken has waited. -/
theorem load_grant {letter : Letter} {rest : List Letter} (h : r.mailbox.letters = letter :: rest) :
    (r.grant (Mailbox.release { r.mailbox with letters := rest })).others u
      + letter.load u ≤ r.others u + 3 := by
  have hrelease := Mailbox.load_release (u := u) h
  rw [grant_eq]
  show Turns.load u r.clock ((Mailbox.release { r.mailbox with letters := rest }).1.elim r.turns
    fun p => r.turns.wake p) + (Mailbox.release { r.mailbox with letters := rest }).2.load u
      + r.aside u + letter.load u ≤ _
  have hothers : r.others u = r.turns.load u r.clock + r.mailbox.load u + r.aside u :=
    rfl
  cases hgiven : (Mailbox.release { r.mailbox with letters := rest }).1 with
  | none =>
    rw [hgiven] at hrelease
    simp only [Option.elim_none] at hrelease ⊢
    omega
  | some p =>
    rw [hgiven] at hrelease
    simp only [Option.elim_some] at hrelease ⊢
    have hwake := Turns.load_wake (u := u) (c := r.clock) p r.turns
    have hwaited : p.load u r.clock ≤ p.patience u + 2 := by
      cases p with
      | alarm t =>
        unfold Party.load Party.patience
        dsimp only
        split <;> omega
      | watcher => exact Nat.le_add_left _ _
      | _ => exact Nat.zero_le _
    omega

/-- What comes of a letter weighs less than the letter. -/
theorem load_serve {slots : Nat} {sender : Party} (h : r.Tidy slots)
    (hunit : u = slots + 8) (hwatch : r.watcher.watch ≠ .awaiting)
    (hsender : sender = .script → r.script.hold = .answer none) (request : Request) :
    (r.serve sender request).load u + 5 ≤
      r.load u + (Letter.request sender request).load u := by
  obtain ⟨hbounded, hslots⟩ := bounded_serve h.bounded request
  have hunread := hbounded.unread_le r.listener
  rw [hslots, h.slots] at hunread
  have htimers := load_timers (u := u) h.timers sender request r.coordinator.clock
  have hserved := Turns.load_served (u := u) (c := r.coordinator.clock)
    (r.coordinator.feed.sent < (r.coordinator.serve request).2.feed.sent)
    (r.coordinator.serve request).2.timers sender r.turns
  have hclock := Coordinator.clock_serve r.coordinator request
  have hscript : Hold.load u r.coordinator.clock (if sender = .script then { r.script with
      hold := .answer (some (r.coordinator.serve request).1) } else r.script).steps.length
        (if sender = .script then { r.script with
          hold := .answer (some (r.coordinator.serve request).1) } else r.script).hold =
            r.script.hold.load u r.coordinator.clock r.script.steps.length := by
    split
    · next hself => rw [hsender hself]; rfl
    · rfl
  rw [serve_eq hwatch]
  unfold load others aside clock
  dsimp only
  rw [hclock, hscript]
  omega

/-- The last letter weighs more than what comes of stopping. -/
theorem load_stop {slots : Nat} (h : r.Tidy slots) (hunit : u = slots + 8) :
    r.stop.load u + 6 ≤ r.load u + u ∧ r.stop.Tidy slots := by
  obtain ⟨hbounded, hslots, htimers⟩ := bounded_shutdown h.bounded
  have hunread := hbounded.unread_le r.listener
  rw [hslots, h.slots] at hunread
  have hwake := Turns.load_wake (u := u) (c := r.coordinator.clock) .listener r.turns
  have hnothing : Party.load u r.coordinator.clock .listener = 0 := rfl
  have hclock : r.coordinator.shutdown.2.clock = r.coordinator.clock := by
    cases hrunning : r.coordinator.running with
    | true => exact (Coordinator.shutdown_of_running hrunning).2.1
    | false => rw [Coordinator.shutdown_of_not_running hrunning]
  refine ⟨?_, hbounded, hslots.trans h.slots, htimers.trans h.timers⟩
  unfold stop wake load others aside clock
  dsimp only
  rw [hclock]
  omega

/-- A place that is given away leaves everything but the mailbox and the turns alone. -/
theorem grant_fields (given : Option Party × Mailbox Party Letter) (r : Run) :
    (r.grant given).coordinator = r.coordinator ∧ (r.grant given).watcher = r.watcher ∧
      (r.grant given).script = r.script := by
  rw [grant_eq]
  exact ⟨rfl, rfl, rfl⟩

/-- The coordinator makes the whole lighter unless there is nothing to read. -/
theorem load_work {slots capacity : Nat} (hlive : Live capacity (some .coordinator) r)
    (h : r.Tidy slots) (hunit : u = slots + 8) (n : Nat) :
    (r.work n).load u ≤ r.load u + (if n = 0 then 2 else 0) ∧ (r.work n).Tidy slots := by
  induction n generalizing r with
  | zero =>
    have hrest := others_rest (u := u) .coordinator r
    have hnothing : Party.load u r.clock .coordinator = 0 := rfl
    refine ⟨?_, h.alike rfl rfl⟩
    show (r.rest .coordinator).others u
      + r.script.hold.load u r.clock r.script.steps.length ≤ _
    unfold load
    rw [if_pos rfl]
    omega
  | succ n ih =>
    unfold work Mailbox.take?
    cases hletters : r.mailbox.letters with
    | nil => exact ⟨Nat.le_add_right _ _, h⟩
    | cons letter rest =>
      obtain ⟨hcoordinator, hwatcher, hscript⟩ :=
        grant_fields (Mailbox.release { r.mailbox with letters := rest }) r
      have hgrant := load_grant (u := u) hletters
      have htidy : (r.grant (Mailbox.release { r.mailbox with letters := rest })).Tidy slots :=
        h.alike (by rw [hcoordinator]) (by rw [hcoordinator])
      have hload : (r.grant (Mailbox.release { r.mailbox with letters := rest })).load u
          + letter.load u ≤ r.load u + 3 := by
        unfold load clock
        rw [hscript, hcoordinator]
        omega
      -- the letter is off the load, which pays for what serving it brings about
      rw [if_neg (Nat.succ_ne_zero n)]
      cases letter with
      | request sender request =>
        have hwatch := hlive.not_awaiting
        have hown : sender = .script → r.script.hold = .answer none := by
          rintro rfl
          have hown := hlive.own
          rw [hletters] at hown
          exact hown.request.1
        have hserve := load_serve htidy hunit (hwatcher ▸ hwatch) (hscript ▸ hown) request
        obtain ⟨hih, htidy'⟩ := ih (hlive.serve hletters)
          (htidy.serve (hwatcher ▸ hwatch) sender request)
        refine ⟨?_, htidy'⟩
        have hif : (if n = 0 then 2 else 0) ≤ 2 := by split <;> omega
        refine Nat.le_trans hih ?_
        omega
      | farewell =>
        obtain ⟨hstop, htidy'⟩ := load_stop htidy hunit
        have hletter : Letter.farewell.load u = u := rfl
        refine ⟨?_, htidy'⟩
        have hless : ((r.grant (Mailbox.release { r.mailbox with letters := rest })).stop).load u
            ≤ r.load u + 0 := by omega
        exact hless

/-! ## The listener, the watcher and the alarms -/

/-- The listener has less to do once it has read. -/
theorem load_listen {slots : Nat} (h : r.Tidy slots) :
    r.listen.load u ≤ r.load u ∧ r.listen.Tidy slots := by
  have hunread := Feed.unread_receiveSome Turns.allowance r.listener r.coordinator.feed
  have hfeed := Feed.receiveSome_eq Turns.allowance r.listener r.coordinator.feed
  have hbounded : (r.coordinator.feed.receiveSome Turns.allowance r.listener).2.Bounded := by
    rw [hfeed]
    exact h.bounded
  have hslots : (r.coordinator.feed.receiveSome Turns.allowance r.listener).2.slots = slots := by
    rw [hfeed]
    exact h.slots
  unfold listen
  dsimp only
  split
  · next hall =>
    have hrest := Turns.load_rest (u := u) (c := r.coordinator.clock) .listener r.turns
    have hnothing : Party.load u r.coordinator.clock .listener = 0 := rfl
    have hallowance : Turns.allowance = 128 := rfl
    refine ⟨?_, hbounded, hslots, h.timers⟩
    unfold rest load others aside clock
    dsimp only
    omega
  · refine ⟨?_, hbounded, hslots, h.timers⟩
    unfold load others aside clock
    dsimp only
    omega

/-- A watcher that is not to interrupt the run wakes the script at most. -/
theorem load_watch {slots capacity : Nat} (hlive : Live capacity (some .watcher) r)
    (h : r.Tidy slots) : r.watch.load u ≤ r.load u + 1 ∧ r.watch.Tidy slots := by
  rw [hlive.watch_eq]
  split
  · have hwake := others_wake (u := u) .script
      { r with watcher := { r.watcher with watch := .over } }
    refine ⟨?_, h.alike rfl rfl⟩
    show (wake .script { r with watcher := { r.watcher with watch := .over } }).others u
      + r.script.hold.load u r.clock r.script.steps.length ≤
        r.others u + r.script.hold.load u r.clock r.script.steps.length + 1
    have hsame : ({ r with watcher := { r.watcher with watch := .over } } : Run).others u =
        r.others u := rfl
    have hnothing : Party.load u
        ({ r with watcher := { r.watcher with watch := .over } } : Run).clock .script = 0 := rfl
    omega
  · exact ⟨Nat.le_add_right _ _, h⟩

/-- An alarm that has had its turn sleeps, or its letter is under way. -/
theorem load_ring {slots : Nat} (t : Timer) (h : r.Tidy slots) :
    (r.ring t).load u ≤ r.load u + (Party.alarm t).load u r.clock ∧
      (r.ring t).Tidy slots := by
  unfold ring
  split
  · next hdue =>
    have hsend := others_send (u := u) (.alarm t)
      (.request (.alarm t) (.expire t.name t.generation)) r
    have hscript := script_send (.alarm t) (.request (.alarm t) (.expire t.name t.generation)) r
    have hcoordinator := coordinator_send (.alarm t)
      (.request (.alarm t) (.expire t.name t.generation)) r
    have hletter : (Letter.request (.alarm t) (.expire t.name t.generation)).load u = u :=
      rfl
    have hpatience : Party.patience u (.alarm t) = u + 1 := rfl
    have hparty : Party.load u r.clock (.alarm t) = u + 1 := if_pos hdue
    refine ⟨?_, h.alike (by rw [hcoordinator]) (by rw [hcoordinator])⟩
    unfold load clock
    rw [hscript, hcoordinator]
    have hif : (if (r.send (.alarm t) (.request (.alarm t) (.expire t.name t.generation))).1
        then u + 1 else u + 1) = u + 1 := ite_self _
    rw [hletter, hpatience, hif] at hsend
    have hparty' : Party.load u r.coordinator.clock (.alarm t) = u + 1 := hparty
    omega
  · next hdue =>
    have hparty : Party.load u r.coordinator.clock (.alarm t) = u + 3 := if_neg hdue
    refine ⟨?_, h.alike rfl rfl⟩
    unfold load others aside clock
    dsimp only
    rw [List.length_append, List.length_singleton, Nat.mul_succ]
    omega

end SatelliteWindows.Run
