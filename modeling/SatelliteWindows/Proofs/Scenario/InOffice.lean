import SatelliteWindows.Proofs.Office.Books
import SatelliteWindows.Proofs.Scenario.Turns

/-!
# A run takes place in an office

In a run the parties take turns by the rules of one executor. An office has no such rules, and so it
can do whatever a run does. All parties are clients in it, the alarms as well, and have the letters
to write that they write in the run. When one of them sends a letter in the run its client has a
turn; for each letter that the coordinator serves it has a turn; and as time passes in the run, and
as the steps change the desktop, so it does here. Nobody waits for a place, because the mailbox has
one for each letter: a party that waits in the run has its turn later here.

So what holds in offices, whoever has turns in whatever order, holds in runs, and in those that are
interrupted, too.
-/

namespace SatelliteWindows

namespace Letter

/-- Who sends a letter. -/
def sender : Letter → Party
  | request sender _ => sender
  | farewell => .script

/-- What its sender orders. -/
def order : Letter → Office.Order
  | request _ r => .request r
  | farewell => .shutdown

/-- What it is in an office in which all parties are clients. -/
def inOffice (l : Letter) : Office.Letter Party := ⟨.client l.sender, l.order⟩

/-- What a party has to order, given the letters that are sent. -/
def ordersOf (letters : List Letter) (p : Party) : List Office.Order :=
  (letters.filter fun l => l.sender = p).map order

end Letter

namespace Coordinator

variable {σ : Type} {c d e : Coordinator σ}

/-- Coordinators are alike if they have done the same, whatever others have read of it. -/
def Alike (c d : Coordinator σ) : Prop := ∃ feed, d = { c with feed := feed }

/-- A coordinator is like itself. -/
theorem Alike.of_eq (h : d = c) : Alike c d := ⟨c.feed, h⟩

/-- What is like something that is like a third is like the third. -/
theorem Alike.trans (hcd : Alike c d) (hde : Alike d e) : Alike c e := by
  obtain ⟨_, rfl⟩ := hcd
  obtain ⟨feed, rfl⟩ := hde
  exact ⟨feed, rfl⟩

/-- What is like something is what the other is like. -/
theorem Alike.symm (h : Alike c d) : Alike d c := by
  obtain ⟨feed, rfl⟩ := h
  exact ⟨c.feed, rfl⟩

variable [Desktop σ]

/-- They go on to do the same. -/
theorem Alike.serve (h : Alike c d) (r : Request) : Alike (c.serve r).2 (d.serve r).2 := by
  obtain ⟨feed, rfl⟩ := h
  unfold Coordinator.serve
  dsimp only
  split
  · unfold arm advance
    dsimp only
    split <;> exact ⟨_, rfl⟩
  · exact ⟨feed, rfl⟩

/-- They shut down alike. -/
theorem Alike.shutdown (h : Alike c d) : Alike c.shutdown.2 d.shutdown.2 := by
  obtain ⟨feed, rfl⟩ := h
  unfold Coordinator.shutdown
  dsimp only
  split
  · exact ⟨_, rfl⟩
  · exact ⟨feed, rfl⟩

end Coordinator

namespace Office

open Coordinator

/-! ## An office and a run at the same point -/

/-- An office is where a run is, and its clients have the letters to write that are still sent in
the run. Letters that a coordinator will not read any more do not matter. -/
structure Stages (letters : List SatelliteWindows.Letter) (o : Office Party Simulation) (r : Run) :
    Prop where
  /-- The coordinator has done the same. -/
  coordinator : Alike r.coordinator o.coordinator
  /-- It has no timers. -/
  timers : o.coordinator.timers = []
  /-- It has the same letters to read, as long as it reads any. -/
  unread : r.coordinator.running = true →
    o.mailbox.letters = r.mailbox.letters.map Letter.inOffice
  /-- The mailbox is open. -/
  isOpen : o.isClosed = false
  /-- The clients have the letters to write. -/
  orders : o.orders = Letter.ordersOf letters
  /-- There is a place for each. -/
  room : letters.length ≤ o.mailbox.free
  /-- Nobody waits for a place. -/
  waiting : o.mailbox.waiting = []
  /-- Nobody was given one before. -/
  granted : o.mailbox.granted = []
  /-- Nobody waits for an answer. -/
  impatient : ∀ p, o.isPatient p = false

variable {letters later : List SatelliteWindows.Letter} {l : SatelliteWindows.Letter}
  {o : Office Party Simulation} {r r' : Run}

/-- The scene is the same. -/
theorem Stages.scene (h : Stages letters o r) :
    o.coordinator.scene = r.coordinator.scene := by
  obtain ⟨feed, hfeed⟩ := h.coordinator
  rw [hfeed]

/-- A letter that is sent is posted in the turn of its sender. -/
theorem Stages.send (h : Stages (l :: later) o r) (same : Alike r.coordinator r'.coordinator)
    (sent : r'.mailbox.letters = r.mailbox.letters ++ [l]) :
    Stages later (o.send l.sender) r' := by
  have hroom : later.length + 1 ≤ o.mailbox.free := h.room
  have horders : o.orders l.sender = l.order :: Letter.ordersOf later l.sender := by
    rw [h.orders, Letter.ordersOf, List.filter_cons_of_pos (by simp)]
    rfl
  have hmay : o.mayWrite l.sender = true := by
    unfold mayWrite
    rw [h.impatient, Bool.false_and, Bool.not_false]
  have hgranted : Correspondent.client l.sender ∉ o.mailbox.granted := by
    rw [h.granted]
    exact List.not_mem_nil
  have hplace : o.mailbox.reserve (.client l.sender) =
      (true, { o.mailbox with free := o.mailbox.free - 1 }) := by
    unfold Mailbox.reserve
    rw [if_neg hgranted, if_pos (Nat.lt_of_lt_of_le (Nat.succ_pos _) hroom)]
  have hsend : o.send l.sender =
      (({ o with
        mailbox := ({ o.mailbox with free := o.mailbox.free - 1 }).put l.inOffice }).record
          (.posted l.inOffice :: l.inOffice.receipt)).leave l.sender
            (Letter.ordersOf later l.sender) := by
    unfold Office.send post
    rw [horders]
    dsimp only
    rw [h.isOpen, if_neg Bool.false_ne_true, if_pos hmay, hplace]
    rfl
  rw [hsend]
  refine ⟨same.symm.trans h.coordinator, h.timers, fun running => ?_, h.isOpen, funext fun p => ?_,
    Nat.le_sub_one_of_lt hroom, h.waiting, h.granted, h.impatient⟩
  · have hrunning : r.coordinator.running = true := by
      obtain ⟨feed, hfeed⟩ := same
      rw [hfeed] at running
      exact running
    show o.mailbox.letters ++ [l.inOffice] = _
    rw [h.unread hrunning, sent, List.map_append]
    rfl
  · show (if p = l.sender then _ else o.orders p) = _
    split
    · next hp => rw [hp]
    · next hp =>
      rw [h.orders, Letter.ordersOf, List.filter_cons_of_neg (by simpa using Ne.symm hp)]
      rfl

/-- Letters are posted one after the other. -/
theorem Stages.sendAll (h : Stages (letters ++ later) o r)
    (same : Alike r.coordinator r'.coordinator)
    (sent : r'.mailbox.letters = r.mailbox.letters ++ letters) :
    Stages later (o.run (letters.map fun l => .send l.sender)) r' := by
  induction letters generalizing o r with
  | nil =>
    rw [List.append_nil] at sent
    refine { h with coordinator := same.symm.trans h.coordinator, unread := fun running => ?_ }
    obtain ⟨feed, hfeed⟩ := same
    rw [sent]
    refine h.unread ?_
    rw [hfeed] at running
    exact running
  | cons l rest ih =>
    have hfirst : Stages (rest ++ later) (o.send l.sender)
        { r with mailbox := { r.mailbox with letters := r.mailbox.letters ++ [l] } } :=
      h.send (.of_eq rfl) rfl
    exact ih hfirst same (by rw [sent, List.append_assoc, List.singleton_append])

/-- The coordinator reads a letter of the run in its turn. Its place comes free. -/
theorem Stages.work_eq (h : Stages letters o r) (running : r.coordinator.running = true)
    {rest : List SatelliteWindows.Letter} (unread : r.mailbox.letters = l :: rest) :
    o.coordinator.running = true ∧ o.work =
      ({ o with mailbox := { o.mailbox with
        letters := rest.map Letter.inOffice, free := o.mailbox.free + 1 } }).handle l.inOffice := by
  have hunread := h.unread running
  rw [unread, List.map_cons] at hunread
  have hrunning : o.coordinator.running = true := by
    obtain ⟨feed, hfeed⟩ := h.coordinator
    rw [hfeed]
    exact running
  refine ⟨hrunning, ?_⟩
  rw [work_of_letter hrunning hunread]
  unfold Mailbox.release
  dsimp only
  rw [h.waiting]

/-- A request that is served is carried out in a turn of the coordinator. -/
theorem Stages.serve (h : Stages letters o r) (running : r.coordinator.running = true)
    {sender : Party} {request : Request} {rest : List SatelliteWindows.Letter}
    (unread : r.mailbox.letters = .request sender request :: rest)
    (served : r'.coordinator = { (r.coordinator.serve request).2 with timers := [] })
    (unread' : r'.mailbox.letters = rest) : Stages letters o.work r' := by
  obtain ⟨feed, hfeed⟩ := h.coordinator.serve request
  rw [(h.work_eq running unread).2]
  refine ⟨⟨feed, ?_⟩, rfl, fun _ => congrArg _ unread'.symm, h.isOpen, h.orders,
    Nat.le_succ_of_le h.room, h.waiting, h.granted, h.impatient⟩
  show { (o.coordinator.serve request).2 with timers := [] } = _
  rw [hfeed, served]

/-- At the last letter the coordinator shuts down. -/
theorem Stages.stop (h : Stages letters o r) (running : r.coordinator.running = true)
    {rest : List SatelliteWindows.Letter} (unread : r.mailbox.letters = .farewell :: rest)
    (stopped : r'.coordinator = r.coordinator.shutdown.2) : Stages letters o.work r' := by
  obtain ⟨hrunning, hwork⟩ := h.work_eq running unread
  obtain ⟨-, -, hover, -⟩ := shutdown_of_running running
  obtain ⟨-, -, -, -, htimers⟩ := shutdown_of_running hrunning
  rw [hwork]
  refine ⟨?_, htimers.trans h.timers, fun hstill => ?_, h.isOpen, h.orders,
    Nat.le_succ_of_le h.room, h.waiting, h.granted, h.impatient⟩
  · rw [stopped]
    exact h.coordinator.shutdown
  · rw [stopped, hover] at hstill
    cases hstill

/-- A coordinator that has stopped reads no letters. -/
theorem Stages.over (h : Stages letters o r) (stopped : r.coordinator.running = false)
    (same : r'.coordinator = r.coordinator) : Stages letters o r' := by
  refine { h with coordinator := ?_, unread := fun running => ?_ }
  · rw [same]
    exact h.coordinator
  · rw [same, stopped] at running
    cases running

end Office

namespace Run

open Coordinator Office

/-! ## What turns of a run are in an office -/

/-- What happens between two points of a run happens in an office, if turns are taken suitably. -/
def Plays (r r' : Run) : Prop :=
  ∃ letters : List Letter, ∀ later o, Stages (letters ++ later) o r →
    ∃ acts : List (Act Party Simulation), (∀ a ∈ acts, a.IsDealing) ∧
      Stages later (o.run acts) r'

variable {r r' r'' : Run} {letters : List Letter}

/-- An office that has got to one point has got to the other as well. -/
theorem plays_of_stages
    (h : ∀ {letters : List Letter} {o}, Stages letters o r → Stages letters o r') : Plays r r' :=
  ⟨[], fun _ _ hstages => ⟨[], fun _ ha => absurd ha List.not_mem_nil, h hstages⟩⟩

/-- An office gets from one point to the other in one turn. -/
theorem plays_of_act {a : Act Party Simulation} (ha : a.IsDealing)
    (h : ∀ {letters : List Letter} {o}, Stages letters o r → Stages letters (o.act a) r') :
    Plays r r' :=
  ⟨[], fun _ _ hstages => ⟨[a], fun b hb => by
    rw [List.mem_singleton.mp hb]
    exact ha, h hstages⟩⟩

/-- What has not moved is where it was. -/
theorem Plays.refl (r : Run) : Plays r r := plays_of_stages id

/-- What happens in two stretches happens in one office. -/
theorem Plays.trans (h : Plays r r') (h' : Plays r' r'') : Plays r r'' := by
  obtain ⟨first, hfirst⟩ := h
  obtain ⟨second, hsecond⟩ := h'
  refine ⟨first ++ second, fun later o hstages => ?_⟩
  rw [List.append_assoc] at hstages
  obtain ⟨acts, hacts, hmiddle⟩ := hfirst _ o hstages
  obtain ⟨acts', hacts', hend⟩ := hsecond later _ hmiddle
  refine ⟨acts ++ acts', fun a ha => (List.mem_append.mp ha).elim (hacts a) (hacts' a), ?_⟩
  rw [Office.run_append]
  exact hend

/-- Letters are sent, and nothing else happens to the coordinator than that others read. -/
theorem plays_of_sent (same : Alike r.coordinator r'.coordinator)
    (sent : r'.mailbox.letters = r.mailbox.letters ++ letters) : Plays r r' :=
  ⟨letters, fun _ _ h => ⟨_, fun a ha => by
    obtain ⟨l, -, rfl⟩ := List.mem_map.mp ha
    trivial, h.sendAll same sent⟩⟩

/-- Nothing happens that an office knows of. -/
theorem plays_of_same (same : Alike r.coordinator r'.coordinator)
    (unread : r'.mailbox.letters = r.mailbox.letters) : Plays r r' :=
  @plays_of_sent r r' [] same (unread.trans (List.append_nil _).symm)

/-- A script that comes to wait has sent its letters before. -/
theorem plays_of_halts {hold : Hold} (h : Halts letters hold r r') : Plays r r' :=
  plays_of_sent (.of_eq h.coordinator) h.letters

/-- A letter is sent, or its sender waits, which an office does not know of. -/
theorem plays_send (p : Party) (letter : Letter) (r : Run) : Plays r (r.send p letter).2 :=
  plays_of_sent (.of_eq (coordinator_send p letter r)) (letters_send p letter r)

/-- The desktop changes. -/
theorem plays_alterDesktop {f : Simulation → Simulation} (hf : ∃ p : Dealing, p.move = .shift f)
    (r : Run) : Plays r (r.alterDesktop f) := by
  refine plays_of_act (a := .shift f) hf fun {letters o} h => ?_
  obtain ⟨feed, hfeed⟩ := h.coordinator
  refine { h with coordinator := ⟨feed, ?_⟩ }
  show { o.coordinator with scene := o.coordinator.scene.move (.shift f) } = _
  rw [hfeed]
  rfl

/-- Time passes. -/
theorem run_passes {o : Office Party Simulation} (timers : o.coordinator.timers = []) (n : Nat) :
    o.run (List.replicate n (.pass 1)) =
      { o with coordinator := { o.coordinator with clock := o.coordinator.clock + n } } := by
  induction n generalizing o with
  | zero => rfl
  | succ n ih =>
    have hpass : o.act (.pass 1) =
        { o with coordinator := { o.coordinator with clock := o.coordinator.clock + 1 } } := by
      show { o with coordinator := o.coordinator.wait 1 } = _
      unfold Coordinator.wait Coordinator.waitUntil
      rw [timers]
      show { o with coordinator := { o.coordinator with
        timers := [], clock := o.coordinator.clock + 1 } } = _
      rw [← timers]
    have hrest := ih (o := o.act (.pass 1)) (by rw [hpass]; exact timers)
    rw [List.replicate_succ]
    refine hrest.trans ?_
    rw [hpass]
    dsimp only
    rw [Nat.add_right_comm, Nat.add_assoc]

/-- The clock moves on. -/
theorem plays_clock {time : Nat} (h : r.clock ≤ time) :
    Plays r { r with coordinator := { r.coordinator with clock := time } } := by
  refine ⟨[], fun later o hstages => ⟨List.replicate (time - r.clock) (.pass 1),
    fun a ha => by rw [List.eq_of_mem_replicate ha]; trivial, ?_⟩⟩
  rw [run_passes hstages.timers]
  obtain ⟨feed, hfeed⟩ := hstages.coordinator
  refine { hstages with coordinator := ⟨feed, ?_⟩ }
  have hclock : o.coordinator.clock + (time - r.clock) = time := by
    rw [hfeed]
    exact Nat.add_sub_cancel' h
  dsimp only
  rw [hclock, hfeed]

/-! ## The coordinator -/

/-- The coordinator serves a letter, or refuses to if it has stopped. -/
theorem plays_serve {sender : Party} {request : Request} {rest : List Letter}
    (unread : r.mailbox.letters = .request sender request :: rest)
    (served : r'.coordinator = { (r.coordinator.serve request).2 with timers := [] })
    (unread' : r'.mailbox.letters = rest) : Plays r r' := by
  cases running : r.coordinator.running with
  | true => exact plays_of_act (a := .work) trivial fun h => h.serve running unread served unread'
  | false =>
    have hrefused : (r.coordinator.serve request).2 = r.coordinator := by
      unfold Coordinator.serve
      rw [running]
      rfl
    refine plays_of_stages fun h => h.over running ?_
    have htimers : r.coordinator.timers = [] := by
      obtain ⟨feed, hfeed⟩ := h.coordinator.symm
      rw [hfeed]
      exact h.timers
    rw [served, hrefused, ← htimers]

/-- The coordinator stops at the last letter. -/
theorem plays_stop {rest : List Letter} (unread : r.mailbox.letters = .farewell :: rest)
    (stopped : r'.coordinator = r.coordinator.shutdown.2) : Plays r r' := by
  cases running : r.coordinator.running with
  | true => exact plays_of_act (a := .work) trivial fun h => h.stop running unread stopped
  | false =>
    exact plays_of_stages fun h => h.over running
      (stopped.trans (shutdown_of_not_running running))

/-- In each of its turns in a run the coordinator has several turns in the office, one for each
letter. -/
theorem plays_work (n : Nat) (r : Run) : Plays r (r.work n) := by
  induction n generalizing r with
  | zero => exact plays_of_same (.of_eq rfl) rfl
  | succ n ih =>
    unfold work Mailbox.take?
    cases hletters : r.mailbox.letters with
    | nil => exact .refl r
    | cons letter rest =>
      have hgrant := grant_eq ({ r.mailbox with letters := rest }).release r
      have hunread : (r.grant ({ r.mailbox with letters := rest }).release).mailbox.letters =
          rest := by
        rw [hgrant]
        exact Mailbox.letters_release _
      have hcoordinator : (r.grant ({ r.mailbox with letters := rest }).release).coordinator =
          r.coordinator := by
        rw [hgrant]
      dsimp only
      cases letter with
      | request sender request =>
        obtain ⟨hserved, hmailbox, -⟩ := serve_fields sender request
          (r.grant ({ r.mailbox with letters := rest }).release)
        rw [hcoordinator] at hserved
        exact (plays_serve hletters hserved ((congrArg _ hmailbox).trans hunread)).trans (ih _)
      | farewell => exact plays_stop hletters (congrArg (fun c => c.shutdown.2) hcoordinator)

/-! ## The script -/

/-- A deed that is done to a window. -/
theorem deed_to_window {x : Except StepFault WindowId} {toWindow : WindowId → Deed} {deed : Deed}
    (h : (do let w ← x; return toWindow w) = Except.ok deed) : ∃ w, deed = toWindow w := by
  cases x with
  | error cause => cases h
  | ok w => exact ⟨w, (Except.ok.inj h).symm⟩

/-- What a step changes is something that is dealt. -/
theorem dealing_of_deed {s : Step} {size : Size} {d : Simulation} {f : Simulation → Simulation}
    (h : s.deed size d = .ok (.change f)) : ∃ p : Dealing, p.move = .shift f := by
  cases s with
  | kill name =>
    obtain ⟨w, hw⟩ := deed_to_window h
    cases hw
    exact ⟨.kill w, rfl⟩
  | failDeliveries name failing =>
    obtain ⟨w, hw⟩ := deed_to_window h
    cases hw
    exact ⟨.fail w failing, rfl⟩
  | move name size position =>
    obtain ⟨w, hw⟩ := deed_to_window h
    cases hw
    exact ⟨.place w ⟨size, position⟩, rfl⟩
  | denyOpens deny =>
    cases h
    exact ⟨.deny deny, rfl⟩
  | register name =>
    obtain ⟨w, hw⟩ := deed_to_window h
    cases hw
  | _ => cases h

/-- A request is made. -/
theorem plays_request (req : Request) (n : Nat) (r : Run) : Plays r (r.request req n) := by
  obtain ⟨letters, hold, hhalts, -⟩ := halts_request req n r
  exact plays_of_halts hhalts

/-- The watcher is dismissed, and the last letter may be sent. -/
theorem plays_dismiss (r : Run) : Plays r r.dismiss.part := by
  obtain ⟨letters, hold, hhalts, -⟩ := halts_dismiss r
  exact plays_of_halts hhalts

/-- The script has its notes to itself. -/
theorem plays_script (script : Script) (r : Run) : Plays r { r with script := script } :=
  plays_of_same (.of_eq rfl) rfl

/-- Steps are taken. Those that change the desktop do so here. -/
theorem plays_proceed (n : Nat) (l : List Step) (r : Run) : Plays r (r.proceed n l) := by
  induction l generalizing n r with
  | nil => exact (plays_script { r.script with steps := [] } r).trans (plays_request .metrics n _)
  | cons s rest ih =>
    have hsteps := plays_script { r.script with steps := s :: rest } r
    unfold proceed
    dsimp only
    refine hsteps.trans ?_
    generalize { r with script := { r.script with steps := s :: rest } } = r
    split
    · exact (plays_script _ r).trans (plays_request .metrics n _)
    · exact plays_request _ n r
    · next f hdeed =>
      have hchange := plays_alterDesktop (dealing_of_deed hdeed) r
      exact (hchange.trans (plays_script _ _)).trans (ih n _)
    · next ms _ =>
      have hhold := plays_script { r.script with hold := .moment (r.clock + delay ms) } r
      split
      · exact hhold.trans (plays_of_same (.of_eq rfl) rfl)
      · split
        · exact (hhold.trans (plays_script _ _)).trans (ih _ _)
        · exact hhold

/-- A step is finished, and others are taken. -/
theorem plays_finishStep (answer : Answer) (r : Run) : Plays r (r.finishStep answer) := by
  unfold finishStep
  split
  · exact .refl r
  · exact (plays_script _ r).trans (plays_proceed _ _ _)

/-- The script has its turn. -/
theorem plays_goOn (r : Run) : Plays r r.goOn := by
  unfold goOn
  split
  · exact plays_proceed _ _ r
  · exact plays_request _ _ r
  · exact .refl r
  · unfold resume
    split
    · exact (plays_script _ r).trans (plays_dismiss (r.conclude _))
    · exact plays_dismiss r
    · exact plays_finishStep _ r
    · exact (plays_script _ r).trans (plays_request .metrics _ (r.fail _ _))
  · split
    · exact plays_finishStep _ r
    · exact .refl r
  · obtain ⟨letters, hold, hhalts, -⟩ := halts_part r
    exact plays_of_halts hhalts
  · obtain ⟨letters, hold, hhalts, -⟩ := halts_leave r
    exact plays_of_halts hhalts
  · exact .refl r

/-! ## The other parties -/

/-- Reading is nothing to an office. -/
theorem plays_listen (r : Run) : Plays r r.listen := by
  unfold listen
  dsimp only
  split <;> exact plays_of_same ⟨_, rfl⟩ rfl

/-- The watcher may have a letter to send. -/
theorem plays_watch (r : Run) : Plays r r.watch := by
  unfold watch
  split
  · rw [grant_eq]
    exact plays_of_same (.of_eq rfl) (Mailbox.letters_withdraw _ _)
  · split
    · have hsend := plays_send .watcher (.request .watcher .mainWindowClosed) r
      split
      · exact .refl r
      · split
        · next heq =>
          rw [heq] at hsend
          exact hsend.trans (plays_of_same (.of_eq rfl) rfl)
        · next heq =>
          rw [heq] at hsend
          exact hsend
    · exact plays_of_same (.of_eq rfl) rfl
    · exact .refl r
    · exact .refl r

/-- So may an alarm. -/
theorem plays_ring (t : Timer) (r : Run) : Plays r (r.ring t) := by
  unfold ring
  split
  · exact plays_send _ _ r
  · exact plays_of_same (.of_eq rfl) rfl

/-! ## Rounds -/

/-- Whoever has a turn in the run, there are turns in the office for it. -/
theorem plays_turn (p : Party) (r : Run) : Plays r (r.turn p) := by
  cases p with
  | script => exact plays_goOn r
  | coordinator => exact plays_work _ r
  | listener => exact plays_listen r
  | watcher => exact plays_watch r
  | alarm t => exact plays_ring t r

/-- Whose turn it is, an office does not know. -/
theorem plays_turns (turns : Turns) (r : Run) : Plays r { r with turns := turns } :=
  plays_of_same (.of_eq rfl) rfl

/-- So there are for several turns. -/
theorem plays_takeTurns (n : Nat) (r : Run) : Plays r (r.takeTurns n) := by
  induction n generalizing r with
  | zero => exact .refl r
  | succ n ih =>
    unfold takeTurns
    split
    · exact .refl r
    · exact ((plays_turns _ r).trans (plays_turn _ _)).trans (ih _)

/-- Who is woken when time has passed is nothing to an office. -/
theorem plays_wakeAt (time : Nat) (r : Run) : Plays r (r.wakeAt time) := by
  have hwake : ∀ (c : Prop) [Decidable c] (p : Party) (r : Run),
      Plays r (if c then r.wake p else r) := by
    intro c _ p r
    split
    · exact plays_turns _ r
    · exact .refl r
  unfold wakeAt
  dsimp only
  rw [wakeAll_eq]
  exact ((hwake _ .script r).trans (hwake _ .watcher _)).trans (plays_of_same (.of_eq rfl) rfl)

/-- Time passes up to the next moment that somebody waits for. -/
theorem plays_passTime (r : Run) : Plays r r.passTime := by
  unfold passTime
  split
  · next time htime =>
    have hafter : r.clock ≤ time := by
      have hmem := List.min?_mem htime
      simp only [moments, List.mem_filter, decide_eq_true_eq] at hmem
      exact Nat.le_of_lt hmem.2
    exact (plays_clock hafter).trans (plays_wakeAt time _)
  · exact .refl r

/-- A round is a number of turns. -/
theorem plays_round (r : Run) : Plays r r.round := by
  have hscript : Plays r r.scriptTurn := by
    unfold scriptTurn
    split
    · exact (plays_turns _ r).trans (plays_goOn _)
    · exact .refl r
  unfold round
  dsimp only
  refine (hscript.trans (plays_takeTurns Turns.perRound _)).trans ?_
  split
  · exact plays_passTime _
  · exact plays_turns _ _

/-- So are several rounds. -/
theorem plays_rounds (n : Nat) (r : Run) : Plays r (r.rounds n) := by
  induction n generalizing r with
  | zero => exact .refl r
  | succ n ih =>
    unfold rounds
    split
    · exact .refl r
    · exact (plays_round r).trans (ih r.round)

/-! ## Runs -/

/-- The office in which a run takes place: the clients have the letters to write that are sent in
the run, and there is a place for each. -/
def office (letters : List Letter) (r : Run) : Office Party Simulation :=
  Office.assemble letters.length (Letter.ordersOf letters) (fun _ => false) r.coordinator

/-- The office is where the run is before anything has happened. -/
theorem stages_office (timers : r.coordinator.timers = []) (unread : r.mailbox.letters = [])
    (letters : List Letter) : Stages letters (r.office letters) r where
  coordinator := .of_eq (by
    show { r.coordinator with timers := [] } = r.coordinator
    rw [← timers])
  timers := rfl
  unread _ := by
    rw [unread]
    rfl
  isOpen := rfl
  orders := rfl
  room := Nat.le_max_left _ _
  waiting := rfl
  granted := rfl
  impatient _ := rfl

/-- Every run takes place in an office, interrupted or not. After any number of rounds the
coordinator is where it is in the office after certain turns, and it has the same letters to read.
Windows are only dealt with meanwhile. -/
theorem rounds_inOffice (settings : Settings) (s : Scenario) (interruption : Option Nat) (n : Nat) :
    ∃ letters acts, (∀ a ∈ acts, a.IsDealing) ∧
      Stages [] (((start settings s interruption).office letters).run acts)
        ((start settings s interruption).rounds n) := by
  obtain ⟨letters, hplays⟩ := plays_rounds n (start settings s interruption)
  refine ⟨letters, hplays [] _ ?_⟩
  rw [List.append_nil]
  exact stages_office rfl rfl letters

/-- So what is counted in a run was reported, as often as it was counted. -/
theorem reports_rounds (settings : Settings) (s : Scenario) (interruption : Option Nat) (n : Nat) :
    let r := (start settings s interruption).rounds n
    r.coordinator.scene.journal.Reports r.coordinator.scene.fleet.tally := by
  obtain ⟨letters, acts, -, hstages⟩ := rounds_inOffice settings s interruption n
  intro r
  rw [← hstages.scene]
  exact Office.reports_run _ _ _ Roster.unique_empty rfl rfl acts

/-- And the windows are in order from any round to any later one. -/
theorem inOrder_rounds (settings : Settings) (s : Scenario) (interruption : Option Nat)
    (n m : Nat) :
    let first := (start settings s interruption).coordinator.scene
    let r := (start settings s interruption).rounds n
    ∃ ps : List Dealing, r.coordinator.scene = first.dealings ps ∧
      Scene.InOrder (first.madeIn ps) (first.heededIn ps) r.coordinator.scene
        (r.rounds m).coordinator.scene := by
  intro first r
  obtain ⟨earlier, hearlier⟩ := plays_rounds n (start settings s interruption)
  obtain ⟨later, hlater⟩ := plays_rounds m r
  obtain ⟨acts, hacts, hstages⟩ :=
    hearlier later _ (stages_office rfl rfl (earlier ++ later))
  rw [← List.append_nil later] at hstages
  obtain ⟨acts', hacts', hstages'⟩ := hlater [] _ hstages
  obtain ⟨ps, hps, horder⟩ := Office.inOrder_run (c := (start settings s interruption).coordinator)
    _ _ _ (Simulation.household_nil settings.screen) hacts hacts'
  refine ⟨ps, ?_, ?_⟩
  · rw [← hstages.scene]
    refine (conduct_run _ _ _ _ acts).scene.trans ?_
    rw [hps]
    rfl
  · rw [← hstages.scene, ← hstages'.scene]
    exact horder

end Run

end SatelliteWindows
