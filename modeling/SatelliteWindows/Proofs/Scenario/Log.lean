import SatelliteWindows.Proofs.Feed.Standing
import SatelliteWindows.Proofs.Office.Conduct
import SatelliteWindows.Proofs.Scenario.Turns

/-!
# The log of a run

Turn by turn it is written down what the parties of a run do to the fleet and its desktop, and what
the listener reads. The moves in the log lead to the scene of the run, and what the listener has
collected are the first activities in its journal, unless it was told that it has lost some.

The log is read off the run before each turn; it has no influence on what happens.
-/

namespace SatelliteWindows

/-- Whether a receipt tells of items that were lost. -/
def Receipt.isLoss {α : Type} : Receipt α → Bool
  | item _ => false
  | lagged _ => true

/-! ## Listening -/

namespace Feed

variable {α : Type} {i past : Nat} {items : List α} {f : Feed α}

/-- What is sent to a subscriber is there for it to be read. -/
theorem Stands.sendAll (h : Stands i items past f) (new : List α) :
    Stands i (items ++ new) past (f.sendAll new) := by
  induction new generalizing items f with
  | nil =>
    rw [List.append_nil]
    exact h
  | cons a rest ih =>
    have hsent : Stands i (items ++ [a]) past (f.send a) := h.use (u := .send a) nofun
    rw [List.append_cons]
    exact ih hsent

/-- A subscriber reads the first receipts that it is owed. -/
theorem Stands.receiveSome (h : Stands i items past f) (limit : Nat) :
    (f.receiveSome limit i).1.getD [] = (owed f.slots items past).take limit ∧
      Stands i items (past + span ((f.receiveSome limit i).1.getD []))
        (f.receiveSome limit i).2 := by
  have hreading : f.reading i (.receiveSome limit i) = (f.receiveSome limit i).1.getD [] :=
    if_pos rfl
  have hshare := h.reading_eq (.receiveSome limit i)
  have hstands := h.use (u := .receiveSome limit i) nofun
  rw [hreading] at hshare hstands
  have hitem : (Usage.receiveSome limit i : Usage α).item?.toList = [] := rfl
  rw [hitem, List.append_nil] at hstands
  exact ⟨hshare.trans (if_pos rfl), hstands⟩

/-- A subscriber that is told of no loss reads the items that come next. -/
theorem owed_take_of_lossless {slots n : Nat}
    (h : ((owed slots items past).take n).any Receipt.isLoss = false) :
    ∃ k, (owed slots items past).take n = ((items.drop past).take k).map .item := by
  rcases Nat.lt_or_ge slots (items.length - past) with hlost | hkept
  · rw [owed_of_lost hlost] at h ⊢
    cases n with
    | zero => exact ⟨0, rfl⟩
    | succ n => cases h
  · rw [owed_of_kept hkept, ← List.map_take]
    exact ⟨n, rfl⟩

end Feed

/-- Something that happens in a run. -/
inductive Occurrence where
  /-- A request is carried out, or the desktop changes. -/
  | move (m : Move Simulation)
  /-- The listener reads. -/
  | read (receipts : List (Receipt Activity))

namespace Occurrence

/-- The move that is made, if any. -/
def move? : Occurrence → Option (Move Simulation)
  | move m => some m
  | read _ => none

/-- What the listener reads. -/
def receipts : Occurrence → List (Receipt Activity)
  | move _ => []
  | read receipts => receipts

/-- The moves in a log. -/
def moves (log : List Occurrence) : List (Move Simulation) := log.filterMap move?

/-- What the listener has read. -/
def readings (log : List Occurrence) : List (Receipt Activity) := log.flatMap receipts

/-- Whether the listener was told that it has lost something. -/
def lagged (log : List Occurrence) : Bool := (readings log).any Receipt.isLoss

/-- The moves of two stretches are those of the one and of the other. -/
theorem moves_append (log more : List Occurrence) : moves (log ++ more) = moves log ++ moves more :=
  List.filterMap_append

/-- So is what was read. -/
theorem readings_append (log more : List Occurrence) :
    readings (log ++ more) = readings log ++ readings more := List.flatMap_append

end Occurrence

namespace Run

open Occurrence

/-! ## What is written down -/

/-- What is written down when a request is served. -/
def serveLog (request : Request) (r : Run) : List Occurrence :=
  if r.coordinator.running then [.move (.request request)] else []

/-- What is written down when the coordinator stops. -/
def stopLog (r : Run) : List Occurrence :=
  if r.coordinator.running then [.move (.request .mainWindowClosed)] else []

/-- What is written down in the coordinator's turn. -/
def workLog : Nat → Run → List Occurrence
  | 0, _ => []
  | n + 1, r =>
    match r.mailbox.take? with
    | none => []
    | some (letter, mailbox) =>
      let r := r.grant mailbox.release
      match letter with
      | .request sender request => r.serveLog request ++ workLog n (r.serve sender request)
      | .farewell => r.stopLog

/-- What is written down in the listener's turn. -/
def listenLog (r : Run) : List Occurrence :=
  [.read ((r.coordinator.feed.receiveSome Turns.allowance r.listener).1.getD [])]

/-- What is written down when the script goes on with some steps. -/
def proceedLog (n : Nat) : List Step → Run → List Occurrence
  | [], _ => []
  | s :: rest, r =>
    let r := { r with script := { r.script with steps := s :: rest } }
    match s.deed r.script.defaultSize r.desktop with
    | .ok (.change f) =>
      .move (.shift f) :: proceedLog n rest ((r.alterDesktop f).record s (s.outcome .done) rest)
    | .ok (.pause ms) =>
      let r := r.hold (.moment (r.clock + delay ms))
      match n with
      | 0 => []
      | n + 1 => if ms = 0 then proceedLog n rest (r.record s (s.outcome .done) rest) else []
    | _ => []

/-- What is written down when the step at work is finished. -/
def finishLog (answer : Answer) (r : Run) : List Occurrence :=
  match r.script.steps with
  | [] => []
  | s :: rest => (r.record s (s.outcome answer) rest).proceedLog (Turns.allowance - 1) rest

/-- What is written down when the script goes on with the answer to a request. -/
def resumeLog (answer : Except Fault Answer) (r : Run) : List Occurrence :=
  match answer with
  | .ok a => r.finishLog a
  | .error _ => []

/-- What is written down in the script's turn. -/
def goOnLog (r : Run) : List Occurrence :=
  match r.script.hold with
  | .free => r.proceedLog Turns.allowance r.script.steps
  | .answer (some answer) => r.resumeLog answer
  | .moment time => if time ≤ r.clock then r.finishLog .done else []
  | _ => []

/-- What is written down in a party's turn. -/
def turnLog : Party → Run → List Occurrence
  | .script, r => r.goOnLog
  | .coordinator, r => r.workLog Turns.allowance
  | .listener, r => r.listenLog
  | _, _ => []

/-- What is written down in turns from the queue. -/
def takeTurnsLog : Nat → Run → List Occurrence
  | 0, _ => []
  | n + 1, r =>
    match r.turns.queue with
    | [] => []
    | p :: rest =>
      let r := { r with turns := { r.turns with queue := rest } }
      r.turnLog p ++ takeTurnsLog n (r.turn p)

/-- What is written down in a round. -/
def roundLog (r : Run) : List Occurrence :=
  (if r.turns.scriptAwake then
      { r with turns := { r.turns with scriptAwake := false } }.goOnLog
    else []) ++ r.scriptTurn.takeTurnsLog Turns.perRound

/-- What is written down in rounds. -/
def roundsLog : Nat → Run → List Occurrence
  | 0, _ => []
  | n + 1, r => if r.heardOut then [] else r.roundLog ++ roundsLog n r.round

/-! ## What is not written down -/

/-- From one state of a run to another nothing has happened to the fleet, the desktop and what the
listener has read. -/
def Aside (r r' : Run) : Prop :=
  ∃ clock mailbox turns alarms watcher script, r' = { r with
    coordinator := { r.coordinator with clock := clock }
    mailbox := mailbox
    turns := turns
    alarms := alarms
    watcher := watcher
    script := script }

variable {r r' : Run}

/-- Nothing is done when nothing changes. -/
theorem Aside.refl (r : Run) : Aside r r := ⟨_, _, _, _, _, _, rfl⟩

/-- What is done aside twice is done aside. -/
theorem Aside.trans {r'' : Run} (h : Aside r r') (h' : Aside r' r'') : Aside r r'' := by
  obtain ⟨_, _, _, _, _, _, rfl⟩ := h
  obtain ⟨_, _, _, _, _, _, rfl⟩ := h'
  exact ⟨_, _, _, _, _, _, rfl⟩

/-- A party is woken aside. -/
theorem aside_wake (p : Party) (r : Run) : Aside r (r.wake p) := ⟨_, _, _, _, _, _, rfl⟩

/-- What the script waits for is an aside. -/
theorem aside_hold (h : Hold) (r : Run) : Aside r (r.hold h) := ⟨_, _, _, _, _, _, rfl⟩

/-- A place is given away aside. -/
theorem aside_grant (given : Option Party × Mailbox Party Letter) (r : Run) :
    Aside r (r.grant given) := by
  rw [grant_eq]
  exact ⟨_, _, _, _, _, _, rfl⟩

/-- A letter is sent aside, and served later. -/
theorem aside_send (p : Party) (letter : Letter) (r : Run) : Aside r (r.send p letter).2 := by
  cases hplace : (r.mailbox.reserve p).1 with
  | true =>
    rw [send_of_place hplace]
    exact ⟨_, _, _, _, _, _, rfl⟩
  | false =>
    rw [send_of_full hplace]
    exact ⟨_, _, _, _, _, _, rfl⟩

/-- An answer is told aside. -/
theorem aside_reply (sender : Party) (answer : Except Fault Answer) (r : Run) :
    Aside r (r.reply sender answer) := by
  unfold reply
  split
  · exact ⟨_, _, _, _, _, _, rfl⟩
  · split
    · exact ⟨_, _, _, _, _, _, rfl⟩
    · exact .refl r
  · exact .refl r

/-- Besides what the coordinator does, serving a request is a matter of turns and answers. -/
theorem aside_serve (sender : Party) (request : Request) (r : Run) :
    Aside { r with coordinator := { (r.coordinator.serve request).2 with timers := [] } }
      (r.serve sender request) := by
  unfold serve
  dsimp only
  rw [wakeAll_eq]
  refine Aside.trans ?_ (aside_reply sender _ _)
  split <;> exact ⟨_, _, _, _, _, _, rfl⟩

/-- A request is made aside, and served later. -/
theorem aside_request (req : Request) (n : Nat) (r : Run) : Aside r (r.request req n) := by
  have hsend := aside_send .script (.request .script req) r
  cases n with
  | zero => exact ⟨_, _, _, _, _, _, rfl⟩
  | succ n =>
    simp only [request]
    split
    · next heq =>
      rw [heq] at hsend
      exact hsend.trans (aside_hold _ _)
    · next heq =>
      rw [heq] at hsend
      have hheld := hsend.trans (aside_hold (.answer none) _)
      split
      · exact hheld.trans ⟨_, _, _, _, _, _, rfl⟩
      · exact hheld

/-- The last letter is sent aside. -/
theorem aside_leave (r : Run) : Aside r r.leave := by
  have hsend := aside_send .script .farewell r
  unfold leave
  split
  all_goals
    next heq =>
    rw [heq] at hsend
    exact hsend.trans (aside_hold _ _)

/-- So it is when the watcher is done. -/
theorem aside_part (r : Run) : Aside r r.part := by
  unfold part
  split
  · exact aside_leave r
  · exact aside_hold _ r

/-- So is the watcher dismissed. -/
theorem aside_dismiss (r : Run) : Aside r r.dismiss.part := by
  have hdismiss : Aside r r.dismiss := by
    unfold dismiss
    split
    · exact .refl r
    · exact ⟨_, _, _, _, _, _, rfl⟩
  exact hdismiss.trans (aside_part r.dismiss)

/-- The watcher has its turn aside. -/
theorem aside_watch (r : Run) : Aside r r.watch := by
  have hsend := aside_send .watcher (.request .watcher .mainWindowClosed) r
  unfold watch
  split
  · exact (aside_grant _ r).trans ⟨_, _, _, _, _, _, rfl⟩
  · split
    · split
      · exact .refl r
      · split
        · next heq =>
          rw [heq] at hsend
          exact hsend.trans ⟨_, _, _, _, _, _, rfl⟩
        · next heq =>
          rw [heq] at hsend
          exact hsend
    · exact ⟨_, _, _, _, _, _, rfl⟩
    · exact .refl r
    · exact .refl r

/-- So has an alarm. -/
theorem aside_ring (t : Timer) (r : Run) : Aside r (r.ring t) := by
  unfold ring
  split
  · exact aside_send _ _ r
  · exact ⟨_, _, _, _, _, _, rfl⟩

/-- Time passes aside. -/
theorem aside_passTime (r : Run) : Aside r r.passTime := by
  unfold passTime wakeAt
  split
  · dsimp only
    rw [wakeAll_eq]
    split <;> split <;> exact ⟨_, _, _, _, _, _, rfl⟩
  · exact .refl r

/-! ## What the log says -/

/-- The log of a run tells how its scene came about, and what the listener has read. -/
structure Logged (first : Scene Simulation) (log : List Occurrence) (r : Run) : Prop where
  /-- The moves lead to the scene. -/
  scene : r.coordinator.scene = first.run (moves log)
  /-- Activity was sent since the listener subscribed, and it has some of it behind it. -/
  stands : Feed.Stands r.listener r.coordinator.scene.journal.activities
    (Feed.span (readings log)) r.coordinator.feed
  /-- The listener has collected what it has read. -/
  read : r.collected = Feed.itemsOf (readings log)
  /-- A listener that has lost nothing has collected all that it has behind it. -/
  collected : lagged log = false → r.collected =
    r.coordinator.scene.journal.activities.take (Feed.span (readings log))
  /-- A listener that was to read to the end has everything behind it. -/
  heardOut : r.heardOut = true → r.coordinator.running = false ∧
    Feed.span (readings log) = r.coordinator.scene.journal.activities.length

namespace Logged

variable {first : Scene Simulation} {log : List Occurrence}

/-- What is done aside is not written down. -/
theorem aside (h : Logged first log r) (haside : Aside r r') : Logged first log r' := by
  obtain ⟨_, _, _, _, _, _, rfl⟩ := haside
  exact ⟨h.scene, h.stands, h.read, h.collected, h.heardOut⟩

/-- Nothing more is written down when nothing happens. -/
theorem still (h : Logged first log r) : Logged first (log ++ []) r :=
  (List.append_nil log).symm ▸ h

/-- What is done aside is not logged. -/
theorem aside_still (h : Logged first log r) (haside : Aside r r') :
    Logged first (log ++ []) r' := (h.aside haside).still

/-- Activity is sent to the listener when a running coordinator makes a move. -/
theorem publish (h : Logged first log r) (hrunning : r.coordinator.running = true)
    {c : Coordinator Simulation} {m : Move Simulation}
    (scene : c.scene = r.coordinator.scene.move m)
    (feed : c.feed = r.coordinator.feed.sendAll (Journal.activities
      ((r.coordinator.scene.move m).journal.drop r.coordinator.scene.journal.length))) :
    Logged first (log ++ [.move m]) { r with coordinator := c } := by
  have hmoves : moves (log ++ [.move m]) = moves log ++ [m] := moves_append log [.move m]
  have hread : readings (log ++ [.move m]) = readings log := by
    rw [readings_append]
    exact List.append_nil _
  have hlagged : lagged (log ++ [.move m]) = lagged log := by
    unfold lagged
    rw [hread]
  obtain ⟨news, hnews⟩ := Scene.journal_run [m] r.coordinator.scene
  have hjournal : (r.coordinator.scene.move m).journal = r.coordinator.scene.journal ++ news :=
    hnews.symm
  rw [hjournal, List.drop_left] at feed
  have hactivities : c.scene.journal.activities =
      r.coordinator.scene.journal.activities ++ Journal.activities news := by
    rw [scene, hjournal, Journal.activities_append]
  have hstands := h.stands.sendAll (Journal.activities news)
  rw [← feed, ← hactivities] at hstands
  constructor
  · rw [hmoves, Scene.run_append, ← h.scene]
    exact scene
  · rw [hread]
    exact hstands
  · rw [hread]
    exact h.read
  · rw [hlagged, hread]
    intro hnone
    have hbehind := h.stands.past_le
    show r.collected = c.scene.journal.activities.take _
    rw [hactivities, List.take_append_of_le_length hbehind]
    exact h.collected hnone
  · intro hheard
    have hoff := (h.heardOut hheard).1
    rw [hrunning] at hoff
    cases hoff

/-- A request that is served is logged with what it reports. -/
theorem serve (h : Logged first log r) (sender : Party) (request : Request) :
    Logged first (log ++ r.serveLog request) (r.serve sender request) := by
  refine Logged.aside ?_ (aside_serve sender request r)
  unfold serveLog
  cases hrunning : r.coordinator.running with
  | true =>
    obtain ⟨hscene, -, -, -⟩ := Coordinator.serve_of_running hrunning request
    exact h.publish hrunning hscene (Office.feed_serve hrunning request)
  | false =>
    rw [Coordinator.serve_of_not_running hrunning]
    exact Logged.still ⟨h.scene, h.stands, h.read, h.collected, h.heardOut⟩

/-- That the coordinator stops is logged. -/
theorem stop (h : Logged first log r) : Logged first (log ++ r.stopLog) r.stop := by
  refine Logged.aside ?_ (aside_wake .listener { r with coordinator := r.coordinator.shutdown.2 })
  unfold stopLog
  cases hrunning : r.coordinator.running with
  | true =>
    obtain ⟨hscene, -, -, -⟩ := Coordinator.shutdown_of_running hrunning
    exact h.publish hrunning hscene (Office.feed_shutdown hrunning)
  | false =>
    rw [Coordinator.shutdown_of_not_running hrunning]
    exact h.still

/-- What it does in a turn is logged. -/
theorem work (h : Logged first log r) (n : Nat) :
    Logged first (log ++ r.workLog n) (r.work n) := by
  induction n generalizing log r with
  | zero => exact h.aside_still ⟨_, _, _, _, _, _, rfl⟩
  | succ n ih =>
    unfold workLog Run.work
    cases r.mailbox.take? with
    | none => exact h.still
    | some taken =>
      obtain ⟨letter, mailbox⟩ := taken
      have hgranted := h.aside (aside_grant mailbox.release r)
      cases letter with
      | request sender request =>
        dsimp only
        rw [← List.append_assoc]
        exact ih (hgranted.serve sender request)
      | farewell => exact hgranted.stop

/-- What the listener reads comes next, unless it has lost something. -/
theorem listen (h : Logged first log r) : Logged first (log ++ r.listenLog) r.listen := by
  obtain ⟨hread, hstands⟩ := h.stands.receiveSome Turns.allowance
  unfold listenLog Run.listen
  generalize r.coordinator.feed.receiveSome Turns.allowance r.listener = received at hread hstands ⊢
  obtain ⟨given, feed⟩ := received
  dsimp only at hread hstands ⊢
  generalize given.getD [] = read at hread hstands ⊢
  have hmoves : moves (log ++ [.read read]) = moves log := by
    rw [moves_append]
    exact List.append_nil _
  have hreadings : readings (log ++ [.read read]) = readings log ++ read := by
    rw [readings_append]
    exact congrArg _ (List.append_nil _)
  have hspan : Feed.span (readings (log ++ [.read read])) =
      Feed.span (readings log) + Feed.span read := by
    rw [hreadings, Feed.span_append]
  rw [← hspan] at hstands
  have hcollected : lagged (log ++ [.read read]) = false → r.collected ++ Feed.itemsOf read =
      r.coordinator.scene.journal.activities.take
        (Feed.span (readings (log ++ [.read read]))) := by
    intro hnone
    have hboth : (readings log).any Receipt.isLoss = false ∧ read.any Receipt.isLoss = false := by
      unfold lagged at hnone
      rw [hreadings, List.any_append, Bool.or_eq_false_iff] at hnone
      exact hnone
    rw [hread] at hboth
    -- nothing was lost, so what was read is what comes next in the journal
    obtain ⟨k, hk⟩ := Feed.owed_take_of_lossless hboth.2
    rw [← hread] at hk
    rw [hspan, hk, Feed.itemsOf_items, Feed.span_items, h.collected hboth.1, List.take_add]
    refine congrArg _ (List.take_eq_take_iff.mpr ?_)
    rw [List.length_take, Nat.min_assoc, Nat.min_self]
  have hitems : r.collected ++ Feed.itemsOf read =
      Feed.itemsOf (readings (log ++ [.read read])) := by
    rw [hreadings, Feed.itemsOf_append, h.read]
  have hbehind := hstands.past_le
  split
  · refine ⟨hmoves ▸ h.scene, hstands, hitems, hcollected, fun hheard => ?_⟩
    obtain ⟨hoff, hall⟩ := h.heardOut hheard
    have hstill : Feed.span (readings (log ++ [.read read])) =
        r.coordinator.scene.journal.activities.length := by omega
    exact ⟨hoff, hstill⟩
  · next hless =>
    refine ⟨hmoves ▸ h.scene, hstands, hitems, hcollected,
      fun hheard => ⟨by simpa using hheard, ?_⟩⟩
    -- it was allowed to read more than it has found
    have hshort : (Feed.owed r.coordinator.feed.slots r.coordinator.scene.journal.activities
        (Feed.span (readings log))).length ≤ Turns.allowance := by
      rw [hread, List.length_take] at hless
      omega
    rw [List.take_of_length_le hshort] at hread
    have hleft := Feed.span_owed r.coordinator.feed.slots r.coordinator.scene.journal.activities
      (Feed.span (readings log))
    have hbefore := h.stands.past_le
    rw [← hread] at hleft
    show Feed.span (readings (log ++ [.read read])) = r.coordinator.scene.journal.activities.length
    omega

/-- A change of the desktop is a move. -/
theorem alterDesktop (h : Logged first log r) (f : Simulation → Simulation) :
    Logged first (log ++ [.move (.shift f)]) (r.alterDesktop f) := by
  have hmoves : moves (log ++ [.move (.shift f)]) = moves log ++ [.shift f] :=
    moves_append log [.move (.shift f)]
  have hread : readings (log ++ [.move (.shift f)]) = readings log := by
    rw [readings_append]
    exact List.append_nil _
  have hlagged : lagged (log ++ [.move (.shift f)]) = lagged log := by
    unfold lagged
    rw [hread]
  refine ⟨?_, hread ▸ h.stands, hread ▸ h.read, fun hnone => ?_, hread ▸ h.heardOut⟩
  · rw [hmoves, Scene.run_append, ← h.scene]
    rfl
  · rw [hread]
    exact h.collected (hlagged ▸ hnone)

/-! ### The script -/

/-- What steps do to the desktop is logged. -/
theorem proceed (h : Logged first log r) (n : Nat) (l : List Step) :
    Logged first (log ++ r.proceedLog n l) (r.proceed n l) := by
  induction l generalizing n log r with
  | nil =>
    have hover : Aside r { r with script := { r.script with steps := [] } } :=
      ⟨_, _, _, _, _, _, rfl⟩
    exact h.aside_still (hover.trans (aside_request .metrics n _))
  | cons s rest ih =>
    have hbegun : Aside r { r with script := { r.script with steps := s :: rest } } :=
      ⟨_, _, _, _, _, _, rfl⟩
    unfold proceedLog Run.proceed
    generalize { r with script := { r.script with steps := s :: rest } } = r' at hbegun ⊢
    have hhere := h.aside hbegun
    dsimp only
    cases s.deed r'.script.defaultSize r'.desktop with
    | error cause =>
      have hfailed : Aside r' (r'.fail s cause) := ⟨_, _, _, _, _, _, rfl⟩
      exact hhere.aside_still (hfailed.trans (aside_request .metrics n _))
    | ok deed =>
      cases deed with
      | ask req => exact hhere.aside_still (aside_request req n r')
      | change f =>
        have hrecorded : Aside (r'.alterDesktop f)
            ((r'.alterDesktop f).record s (s.outcome .done) rest) := ⟨_, _, _, _, _, _, rfl⟩
        have hchanged := ((hhere.alterDesktop f).aside hrecorded)
        dsimp only
        rw [List.append_cons]
        exact ih hchanged n
      | pause ms =>
        have hheld := aside_hold (.moment (r'.clock + delay ms)) r'
        cases n with
        | zero => exact hhere.aside_still (hheld.trans ⟨_, _, _, _, _, _, rfl⟩)
        | succ n =>
          dsimp only
          split
          · exact ih (hhere.aside (hheld.trans ⟨_, _, _, _, _, _, rfl⟩)) n
          · exact hhere.aside_still hheld

/-- So is what the steps behind a finished one do. -/
theorem finishStep (h : Logged first log r) (answer : Answer) :
    Logged first (log ++ r.finishLog answer) (r.finishStep answer) := by
  unfold finishLog Run.finishStep
  cases r.script.steps with
  | nil => exact h.still
  | cons s rest =>
    have hrecorded : Aside r (r.record s (s.outcome answer) rest) := ⟨_, _, _, _, _, _, rfl⟩
    exact (h.aside hrecorded).proceed _ rest

/-- So is what the script does with an answer. -/
theorem resume (h : Logged first log r) (answer : Except Fault Answer) :
    Logged first (log ++ r.resumeLog answer) (r.resume answer) := by
  unfold Run.resume
  cases hsteps : r.script.steps with
  | nil =>
    have hnothing : r.resumeLog answer = [] := by
      unfold resumeLog finishLog
      rw [hsteps]
      cases answer <;> rfl
    have hconcluded : ∀ m, Aside r (r.conclude m) := fun _ => ⟨_, _, _, _, _, _, rfl⟩
    rw [hnothing]
    cases answer with
    | error f => exact h.aside_still (aside_dismiss r)
    | ok a =>
      cases a with
      | metrics m => exact h.aside_still ((hconcluded m).trans (aside_dismiss _))
      | _ => exact h.aside_still (aside_dismiss r)
  | cons s rest =>
    cases answer with
    | error f =>
      have hfailed : Aside r (r.fail s (.refused f)) := ⟨_, _, _, _, _, _, rfl⟩
      exact h.aside_still (hfailed.trans (aside_request .metrics _ _))
    | ok a => exact h.finishStep a

/-- So is its turn. -/
theorem goOn (h : Logged first log r) : Logged first (log ++ r.goOnLog) r.goOn := by
  unfold goOnLog Run.goOn
  cases r.script.hold with
  | free => exact h.proceed _ _
  | place req => exact h.aside_still (aside_request req _ r)
  | answer given =>
    cases given with
    | none => exact h.still
    | some answer => exact h.resume answer
  | moment time =>
    dsimp only
    split
    · exact h.finishStep .done
    · exact h.still
  | watcher => exact h.aside_still (aside_part r)
  | farewell => exact h.aside_still (aside_leave r)
  | ending => exact h.still

/-! ### Rounds -/

/-- So is the turn of any party. -/
theorem turn (h : Logged first log r) (p : Party) :
    Logged first (log ++ r.turnLog p) (r.turn p) := by
  cases p with
  | script => exact h.goOn
  | coordinator => exact h.work _
  | listener => exact h.listen
  | watcher => exact h.aside_still (aside_watch r)
  | alarm t => exact h.aside_still (aside_ring t r)

end Logged

end Run

end SatelliteWindows
