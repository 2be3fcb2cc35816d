import SatelliteWindows.Proofs.Scenario.Log
import SatelliteWindows.Proofs.Scenario.Progress
import SatelliteWindows.Proofs.Scenario.Punctuality

/-!
# Orderly runs

Besides that everything is seen to, three things hold of a run at every moment: alarms are punctual,
no activity escapes the listener, and the watcher is not disturbed before the steps are over.

The runs are without interruption.
-/

namespace SatelliteWindows

/-! ## A feed with one subscriber -/

namespace Feed

variable {α : Type} {width next : Nat} {all : List α}

/-- A feed with one subscriber, which has some of the items that were sent behind it. -/
def solo (width : Nat) (all : List α) (next : Nat) : Feed α where
  capacity := width
  sent := all.length
  kept := all.drop (all.length - ({ capacity := width } : Feed α).slots)
  cursors := [some next]

/-- A feed with one subscriber keeps the last of what it was sent. -/
theorem keeps_solo : Keeps all (solo width all next) := ⟨rfl, rfl⟩

/-- The subscriber stands where it has read to. -/
theorem stands_solo (h : next ≤ all.length) : Stands 0 all next (solo width all next) :=
  ⟨⟨[], keeps_solo, by rw [List.length_nil, Nat.zero_add]; rfl⟩, h⟩

/-- It keeps the last of what it is sent as well. -/
theorem sendAll_solo (items : List α) :
    (solo width all next).sendAll items = solo width (all ++ items) next := by
  induction items generalizing all with
  | nil => rw [List.append_nil]; rfl
  | cons a rest ih =>
    have hsubscribers : (solo width all next).subscribers ≠ 0 := Nat.one_ne_zero
    have hsend : (solo width all next).send a = solo width (all ++ [a]) next := by
      have hkept := (keeps_solo.send hsubscribers a).kept
      have hsent := (keeps_solo.send hsubscribers a).sent
      unfold send at hkept hsent ⊢
      rw [if_neg hsubscribers] at hkept hsent ⊢
      exact (Feed.mk.injEq ..).mpr ⟨rfl, hsent, hkept, rfl⟩
    rw [List.append_cons, ← ih, ← hsend]
    rfl

/-- It reads the first receipts that it is owed; if there are no more of them than it may read, it
has everything behind it. -/
theorem receiveSome_solo (width : Nat) (h : next ≤ all.length) (limit : Nat) : ∃ next' ≤ all.length,
    ((solo width all next).receiveSome limit 0).2 = solo width all next' ∧
      ((((solo width all next).receiveSome limit 0).1.getD []).length ≠ limit →
        (solo width all next').unread 0 = 0) := by
  have hstands := (stands_solo h : Stands 0 all next (solo width all next)).receiveSome limit
  have hunread := unread_receiveSome limit 0 (solo width all next)
  have hbefore := (stands_solo h : Stands 0 all next (solo width all next)).unread
  have hsolo : ((solo width all next).receiveSome limit 0).2 = solo width all
      ((((solo width all next).available next).take limit).foldl (fun n r => n + r.span) next) :=
    rfl
  refine ⟨_, ?_, hsolo, fun hless => ?_⟩
  · rw [foldl_span, (stands_solo h).available rfl]
    exact span_owed_take_le _ h limit
  · rw [← hsolo]
    rw [hstands.1, List.length_take] at hless hunread
    omega

end Feed

namespace Run

variable {capacity width slots : Nat} {p : Party} {r u : Run}

/-! ## The listener -/

/-- Nothing that was sent has escaped the listener, which has read everything or is to have
a turn. -/
structure Heeds (width : Nat) (r : Run) : Prop where
  /-- It is the only subscriber. -/
  listener : r.listener = 0
  /-- All activity was sent to it. -/
  feed : ∃ next ≤ r.coordinator.scene.journal.activities.length,
    r.coordinator.feed = Feed.solo width r.coordinator.scene.journal.activities next
  /-- If there is news it is to have a turn. -/
  news : r.coordinator.feed.unread 0 = 0 ∨ r.turns.Expects .listener

/-- Others leave the listener alone. -/
theorem Heeds.keep (h : Heeds width r)
    (journal : u.coordinator.scene.journal = r.coordinator.scene.journal)
    (feed : u.coordinator.feed = r.coordinator.feed) (listener : u.listener = r.listener)
    (expects : r.turns.Expects .listener → u.turns.Expects .listener) : Heeds width u := by
  refine ⟨listener.trans h.listener, ?_, ?_⟩
  · rw [journal, feed]
    exact h.feed
  · rw [feed]
    exact h.news.imp id expects

/-- Activity is sent to the listener, which is woken if there is some. -/
theorem Heeds.publish (h : Heeds width r) {m : Move Simulation}
    (scene : u.coordinator.scene = r.coordinator.scene.move m)
    (feed : u.coordinator.feed = r.coordinator.feed.sendAll (Journal.activities
      ((r.coordinator.scene.move m).journal.drop r.coordinator.scene.journal.length)))
    (listener : u.listener = r.listener)
    (expects : r.turns.Expects .listener → u.turns.Expects .listener)
    (news : r.coordinator.feed.sent < u.coordinator.feed.sent → u.turns.Expects .listener) :
    Heeds width u := by
  obtain ⟨next, hnext, hfeed⟩ := h.feed
  obtain ⟨more, hmore⟩ := Scene.journal_run [m] r.coordinator.scene
  have hjournal : (r.coordinator.scene.move m).journal = r.coordinator.scene.journal ++ more :=
    hmore.symm
  rw [hjournal, List.drop_left, hfeed, Feed.sendAll_solo, ← Journal.activities_append, ← hjournal,
    ← scene] at feed
  have hlonger : u.coordinator.scene.journal.activities =
      r.coordinator.scene.journal.activities ++ Journal.activities more := by
    rw [scene, hjournal, Journal.activities_append]
  have hlength := congrArg List.length hlonger
  rw [List.length_append] at hlength
  refine ⟨listener.trans h.listener, ⟨next, by omega, feed⟩, ?_⟩
  by_cases hnone : Journal.activities more = []
  · rw [hnone, List.append_nil] at hlonger
    rw [feed, hlonger, ← hfeed]
    exact h.news.imp id expects
  · refine .inr (news ?_)
    have hpos := List.length_pos_of_ne_nil hnone
    rw [feed, hfeed]
    show r.coordinator.scene.journal.activities.length <
      u.coordinator.scene.journal.activities.length
    omega

/-- A place that is given away is nothing to the listener. -/
theorem Heeds.grant (h : Heeds width r) (given : Option Party × Mailbox Party Letter) :
    Heeds width (r.grant given) := by
  rw [grant_eq]
  refine h.keep rfl rfl rfl fun hexpects => ?_
  cases given.1 with
  | none => exact hexpects
  | some p => exact hexpects.wake p

/-- The listener is to have a turn when there is news. -/
theorem expects_listener_served {alarms : List Timer} {sender : Party} {t : Turns} :
    (t.served true alarms sender).Expects .listener := by
  have hwoken := (Turns.expects_wake .listener t).wakeAlarms alarms
  unfold Turns.served
  dsimp only
  split
  · exact hwoken.wake .script
  · exact hwoken

/-- It is when a request that was served has news. -/
theorem Heeds.serve (h : Heeds width r) (hwatch : r.watcher.watch ≠ .awaiting) (sender : Party)
    (req : Request) : Heeds width (r.serve sender req) := by
  rw [serve_eq hwatch]
  cases hrunning : r.coordinator.running with
  | true =>
    refine h.publish (m := .request req) (Coordinator.serve_of_running hrunning req).1
      (Office.feed_serve hrunning req) rfl (fun hexpects => hexpects.served _ _ sender)
      fun hnews => ?_
    rw [decide_eq_true hnews]
    exact expects_listener_served
  | false =>
    rw [Coordinator.serve_of_not_running hrunning]
    exact h.keep rfl rfl rfl fun hexpects => hexpects.served _ _ sender

/-- It is when the coordinator has stopped. -/
theorem Heeds.stop (h : Heeds width r) : Heeds width r.stop := by
  have hwoken : r.stop.turns.Expects .listener := Turns.expects_wake .listener _
  cases hrunning : r.coordinator.running with
  | true =>
    exact h.publish (m := .request .mainWindowClosed) (Coordinator.shutdown_of_running hrunning).1
      (Office.feed_shutdown hrunning) rfl (fun _ => hwoken) fun _ => hwoken
  | false =>
    have hsame := Coordinator.shutdown_of_not_running hrunning
    exact h.keep (congrArg (fun c : Coordinator Simulation => c.scene.journal) hsame)
      (congrArg Coordinator.feed hsame) rfl fun _ => hwoken

/-- It is whatever the coordinator has done in its turn. -/
theorem Heeds.work (n : Nat) (h : Heeds width r) (hwatch : r.watcher.watch ≠ .awaiting) :
    Heeds width (r.work n) := by
  induction n generalizing r with
  | zero => exact h.keep rfl rfl rfl fun hexpects => hexpects.rest _
  | succ n ih =>
    unfold Run.work
    cases r.mailbox.take? with
    | none => exact h
    | some taken =>
      obtain ⟨letter, m⟩ := taken
      have hgranted := h.grant m.release
      cases letter with
      | request sender req =>
        have hwatch' : (r.grant m.release).watcher.watch ≠ .awaiting := by
          rw [grant_eq]
          exact hwatch
        refine ih (hgranted.serve hwatch' sender req) ?_
        rw [serve_eq hwatch']
        exact hwatch'
      | farewell => exact hgranted.stop

/-- The listener reads, and rests if there may be more. -/
theorem heeds_listen (listener : r.listener = 0)
    (feed : ∃ next ≤ r.coordinator.scene.journal.activities.length,
      r.coordinator.feed = Feed.solo width r.coordinator.scene.journal.activities next) :
    Heeds width r.listen := by
  obtain ⟨next, hnext, hfeed⟩ := feed
  obtain ⟨next', hnext', hafter, hall⟩ := Feed.receiveSome_solo width hnext
    Turns.allowance
  unfold Run.listen
  rw [listener, hfeed]
  dsimp only
  rw [hafter]
  split
  · exact ⟨rfl, ⟨next', hnext', rfl⟩, .inr (Turns.expects_rest _ _)⟩
  · next hless => exact ⟨rfl, ⟨next', hnext', rfl⟩, .inl (hall hless)⟩

/-! ## The watcher -/

/-- The watcher is not disturbed before the steps are over. -/
def AtEase (r : Run) : Prop :=
  r.watcher = { moment := none } ∨ r.script.hold = .watcher ∨ r.script.hold = .farewell ∨
    r.script.hold = .ending

/-- The watcher is at ease as long as it and the script are left alone. -/
theorem AtEase.keep (h : r.AtEase) (watcher : u.watcher = r.watcher)
    (hold : u.script.hold = r.script.hold) : u.AtEase := by
  unfold AtEase
  rw [watcher, hold]
  exact h

/-- To send a letter is nothing to the watcher. -/
theorem watcher_send (p : Party) (letter : Letter) (r : Run) :
    (r.send p letter).2.watcher = r.watcher := by
  unfold send
  split <;> rfl

/-- The watcher is not disturbed before it is dismissed. -/
theorem persists_watcher (w : Watcher) : Persists fun r => r.watcher = w where
  script _ h := h
  alterDesktop _ h := h
  send _ h := (watcher_send _ _ _).trans h
  rest h := h

/-- It is at ease when the script has had its turn. -/
theorem AtEase.goOn (h : r.AtEase) : r.goOn.AtEase := by
  have hends : ∀ {letters : List Letter} {hold : Hold} {v w : Run}, Halts letters hold v w →
      (letters = [] ∧ (hold = .farewell ∨ hold = .watcher) ∨
        letters = [.farewell] ∧ hold = .ending) → w.AtEase := fun hhalts hwhich => by
    refine .inr ?_
    rw [hhalts.script]
    rcases hwhich with ⟨-, rfl | rfl⟩ | ⟨-, rfl⟩
    · exact .inr (.inl rfl)
    · exact .inl rfl
    · exact .inr (.inr rfl)
  unfold AtEase at h
  unfold Run.goOn
  cases hhold : r.script.hold with
  | free =>
    rw [hhold] at h
    exact .inl ((persists_watcher _).proceed (h.resolve_right nofun) _ _)
  | place req =>
    rw [hhold] at h
    exact .inl ((persists_watcher _).request (h.resolve_right nofun) _ _)
  | answer given =>
    rw [hhold] at h
    have hfresh := h.resolve_right nofun
    cases given with
    | none => exact .inl hfresh
    | some answer =>
      dsimp only
      unfold Run.resume
      split
      · obtain ⟨letters, hold, hhalts, hwhich⟩ := halts_dismiss (r.conclude _)
        exact hends hhalts hwhich
      · obtain ⟨letters, hold, hhalts, hwhich⟩ := halts_dismiss r
        exact hends hhalts hwhich
      · exact .inl ((persists_watcher _).finishStep hfresh _)
      · exact .inl ((persists_watcher _).request (r := r.fail _ _) hfresh .metrics _)
  | moment time =>
    rw [hhold] at h
    have hfresh := h.resolve_right nofun
    dsimp only
    split
    · exact .inl ((persists_watcher _).finishStep hfresh _)
    · exact .inl hfresh
  | watcher =>
    obtain ⟨letters, hold, hhalts, hwhich⟩ := halts_part r
    exact hends hhalts hwhich
  | farewell =>
    obtain ⟨letters, hold, hhalts, hwhich⟩ := halts_leave r
    exact hends hhalts (hwhich.imp (And.imp id .inl) id)
  | ending => exact .inr (.inr (.inr hhold))

/-- To serve a request is nothing to a watcher that waits for no answer. -/
theorem watcher_serve (hwatch : r.watcher.watch ≠ .awaiting) (sender : Party) (req : Request) :
    (r.serve sender req).watcher = r.watcher := by
  rw [serve_eq hwatch]

/-- What holds on whenever the coordinator rests, and whenever it has served a letter, holds on
through its turn. -/
theorem Live.work_induction {motive : Run → Prop} (h : Live capacity (some .coordinator) r)
    (htimers : r.coordinator.timers = []) (hr : motive r)
    (rest : ∀ {u}, motive u → motive (u.rest .coordinator))
    (request : ∀ {u sender req letters}, Live capacity (some .coordinator) u →
      Follows (some .coordinator) r u → u.coordinator.timers = [] →
      u.mailbox.letters = .request sender req :: letters → motive u →
      motive ((u.grant (Mailbox.release { u.mailbox with letters := letters })).serve sender req))
    (farewell : ∀ {u letters}, Live capacity (some .coordinator) u →
      Follows (some .coordinator) r u → u.coordinator.timers = [] →
      u.mailbox.letters = .farewell :: letters → motive u →
      motive (u.grant (Mailbox.release { u.mailbox with letters := letters })).stop) (n : Nat) :
    motive (r.work n) := by
  suffices hall : ∀ u, Live capacity (some .coordinator) u → Follows (some .coordinator) r u →
      u.coordinator.timers = [] → motive u → motive (u.work n) from hall r h (.refl r) htimers hr
  induction n with
  | zero => exact fun u _ _ _ hu => rest hu
  | succ n ih =>
    intro u hlive hfollows hnone hu
    unfold Run.work Mailbox.take?
    cases hletters : u.mailbox.letters with
    | nil => exact hu
    | cons letter letters =>
      have hgranted := hfollows.grant hletters
      obtain ⟨-, hwatcher, -⟩ :=
        grant_fields (Mailbox.release { u.mailbox with letters := letters }) u
      have hsame := grant_eq (Mailbox.release { u.mailbox with letters := letters }) u
      cases letter with
      | request sender req =>
        have hwatch : (u.grant (Mailbox.release
            { u.mailbox with letters := letters })).watcher.watch ≠ .awaiting := by
          rw [hwatcher]
          exact hlive.not_awaiting
        refine ih _ (hlive.serve hletters) (hgranted.serve hwatch (by rwa [hsame]) sender req) ?_
          (request hlive hfollows hnone hletters hu)
        rw [serve_eq hwatch]
      | farewell => exact farewell hlive hfollows hnone hletters hu

/-- A request was made by the script, which waits for the answer, or by an alarm that has gone
off. -/
theorem Live.request_cases {busy : Option Party} (h : Live capacity busy r) (hpunctual : Punctual r)
    {sender : Party} {req : Request} {letters : List Letter}
    (hletters : r.mailbox.letters = .request sender req :: letters) :
    (sender = .script ∧ r.script.hold = .answer none) ∨ ∃ t ∈ r.timers,
      sender = .alarm t ∧ req = .expire t.name t.generation ∧ t.deadline ≤ r.clock := by
  have hmem : .request sender req ∈ r.mailbox.letters := hletters ▸ List.mem_cons_self
  rcases hpunctual.letters _ hmem with hscript | ⟨t, hletter, hdue⟩
  · have hsender : sender = .script := by
      cases sender with
      | script => rfl
      | _ => cases hscript
    subst hsender
    have hown := h.own
    rw [hletters] at hown
    exact .inl ⟨rfl, (Hold.Owns.request hown).1⟩
  · obtain ⟨rfl, rfl⟩ := Letter.request.inj hletter
    exact .inr ⟨t, mem_timers.mpr (.inr (.inr (.inr ⟨_, hmem, rfl⟩))), rfl, rfl, hdue⟩

/-- The coordinator tells the script the answer that it waits for, and leaves the watcher alone. -/
theorem Live.fields_work (n : Nat) (h : Live capacity (some .coordinator) r)
    (htimers : r.coordinator.timers = []) :
    (r.work n).watcher = r.watcher ∧ ((r.work n).script = r.script ∨
      ∃ answer, r.script.hold = .answer none ∧
        (r.work n).script = { r.script with hold := .answer (some answer) }) := by
  refine h.work_induction (motive := fun u => u.watcher = r.watcher ∧ (u.script = r.script ∨
    ∃ answer, r.script.hold = .answer none ∧
      u.script = { r.script with hold := .answer (some answer) })) htimers ⟨rfl, .inl rfl⟩ id
    (fun {u sender req letters} hlive _ _ hletters hu => ?_)
    (fun {u letters} _ _ _ _ hu => ?_) n
  · obtain ⟨-, hwatcher, hscript⟩ := grant_fields
      (Mailbox.release { u.mailbox with letters := letters }) u
    have hwatch : (u.grant (Mailbox.release
        { u.mailbox with letters := letters })).watcher.watch ≠ .awaiting := by
      rw [hwatcher]
      exact hlive.not_awaiting
    have hserved := (serve_fields sender req
      (u.grant (Mailbox.release { u.mailbox with letters := letters }))).2.2
    rw [hscript] at hserved
    refine ⟨(watcher_serve hwatch sender req).trans (hwatcher.trans hu.1), ?_⟩
    rw [hserved]
    split
    · next hsender =>
      -- a script that was told the answer has no letter left
      have hown := hlive.own
      rw [hletters, hsender] at hown
      have hasked := (Hold.Owns.request hown).1
      rcases hu.2 with hsame | ⟨answer, -, hanswered⟩
      · rw [hsame] at hasked ⊢
        exact .inr ⟨_, hasked, rfl⟩
      · rw [hanswered] at hasked
        cases hasked
    · exact hu.2
  · obtain ⟨-, hwatcher, hscript⟩ := grant_fields
      (Mailbox.release { u.mailbox with letters := letters }) u
    refine ⟨hwatcher.trans hu.1, ?_⟩
    have hstop : (u.grant (Mailbox.release { u.mailbox with letters := letters })).stop.script =
        u.script := hscript
    rw [hstop]
    exact hu.2

/-- The script that is told an answer is at a step, or has just asked for the counts. -/
theorem AtEase.work (n : Nat) (h : r.AtEase) (hlive : Live capacity (some .coordinator) r)
    (htimers : r.coordinator.timers = []) : (r.work n).AtEase := by
  obtain ⟨hwatcher, hscript | ⟨answer, hhold, -⟩⟩ := hlive.fields_work n htimers
  · exact h.keep hwatcher (congrArg Script.hold hscript)
  · unfold AtEase at h
    rw [hhold] at h
    exact .inl (hwatcher.trans (h.resolve_right nofun))

/-- It is at ease when it has had its own turn. -/
theorem AtEase.watch {busy : Option Party} (h : r.AtEase) (hlive : Live capacity busy r) :
    r.watch.AtEase := by
  rw [hlive.watch_eq]
  split
  · next hdismissed =>
    refine .inr (h.resolve_left fun hfresh => ?_)
    rw [hfresh] at hdismissed
    cases hdismissed
  · exact h

/-- It is when the listener has had one. -/
theorem AtEase.listen (h : r.AtEase) : r.listen.AtEase := by
  unfold Run.listen
  obtain ⟨read, feed⟩ := r.coordinator.feed.receiveSome Turns.allowance r.listener
  dsimp only
  split <;> exact h

/-- It is when an alarm has had one. -/
theorem AtEase.ring (h : r.AtEase) (t : Timer) : (r.ring t).AtEase := by
  unfold Run.ring
  split
  · exact h.keep (watcher_send _ _ r) (by rw [script_send])
  · exact h

/-! ## Orderly runs -/

/-- The script's turn, if it has one, changes only the desktop. -/
theorem reshapes_scriptTurn (r : Run) : Reshapes r r.scriptTurn := by
  unfold scriptTurn
  split
  · exact reshapes_goOn { r with turns := { r.turns with scriptAwake := false } }
  · exact reshapes_of_eq rfl

/-- Steps are not the listener's affair. -/
theorem listener_goOn (r : Run) :
    r.goOn.listener = r.listener ∧ r.goOn.heardOut = r.heardOut := by
  have hpersists : Persists fun u => u.listener = r.listener ∧ u.heardOut = r.heardOut :=
    { script := fun _ h => h
      alterDesktop := fun _ h => h
      send := fun {u letter} _ h => by
        obtain ⟨_, _, _, _, _, _, haside⟩ := aside_send .script letter u
        rw [haside]
        exact h
      rest := fun h => h }
  exact hpersists.goOn (fun h => h) ⟨rfl, rfl⟩

/-- It is nothing to the listener. -/
theorem listener_scriptTurn (r : Run) :
    r.scriptTurn.listener = r.listener ∧ r.scriptTurn.heardOut = r.heardOut := by
  unfold scriptTurn
  split
  · exact listener_goOn { r with turns := { r.turns with scriptAwake := false } }
  · exact ⟨rfl, rfl⟩

/-- All that is known of a run between two turns. -/
structure Orderly (capacity width slots : Nat) (r : Run) : Prop where
  /-- Letters can be sent. -/
  capacity_pos : 0 < capacity
  /-- Everything that is to be done is seen to. -/
  live : Live capacity none r
  /-- Feed and timers are in order. -/
  tidy : r.Tidy slots
  /-- Alarms are punctual. -/
  punctual : Punctual r
  /-- The listener hears everything. -/
  heeds : Heeds width r
  /-- The watcher is not disturbed. -/
  ease : r.AtEase

namespace Orderly

/-- A run is not over as long as the script waits for a moment. -/
theorem heardOut_of_moment (h : Orderly capacity width slots r) {time : Nat}
    (hhold : r.script.hold = .moment time) : r.heardOut = false := by
  cases hheard : r.heardOut with
  | false => rfl
  | true =>
    have hending := h.live.stopped (h.live.heardOut hheard)
    rw [hhold] at hending
    cases hending

/-- A run stays orderly in every turn, and its alarms stay what they are. -/
theorem turn (h : Orderly capacity width slots r) {rest : List Party}
    (hqueue : r.turns.queue = p :: rest) : Follows (some p) r
        ({ r with turns := { r.turns with queue := rest } }.turn p) ∧
      Orderly capacity width slots ({ r with turns := { r.turns with queue := rest } }.turn p) := by
  have hfollows := Follows.turn h.live h.tidy.timers hqueue
  have hlive := h.live.pop hqueue
  have hpause := h.live.pause.resolve_left nofun
  have hturn := hlive.turn hpause
  refine ⟨hfollows, h.capacity_pos, hturn, (load_popped h.live h.tidy rfl hqueue).2,
    h.punctual.follows hfollows, ?_, ?_⟩
  · have hexpects : p ≠ .listener → r.turns.Expects .listener →
        ({ r with turns := { r.turns with queue := rest } }.turn p).turns.Expects .listener :=
      fun hp hq => (hfollows.expects _ hq).resolve_left fun hself => hp (Option.some.inj hself)
    cases p with
    | script => exact absurd (hqueue ▸ List.mem_cons_self) h.punctual.queue
    | coordinator =>
      refine Heeds.work _ (h.heeds.keep rfl rfl rfl fun hq => ?_) hlive.not_awaiting
      exact (hq.pop hqueue).resolve_left nofun
    | listener => exact heeds_listen h.heeds.listener h.heeds.feed
    | watcher =>
      have hkeep : ∀ v, ({ r with turns := { r.turns with queue := rest } } : Run).watch = v →
          v.coordinator = r.coordinator ∧ v.listener = r.listener := fun v hv => by
        rw [← hv, hlive.watch_eq]
        split <;> exact ⟨rfl, rfl⟩
      obtain ⟨hcoordinator, hlistener⟩ := hkeep _ rfl
      exact h.heeds.keep (by rw [Run.turn, hcoordinator]) (by rw [Run.turn, hcoordinator])
        hlistener (hexpects nofun)
    | alarm t =>
      obtain ⟨_, _, _, _, _, _, haside⟩ :=
        aside_ring t { r with turns := { r.turns with queue := rest } }
      exact h.heeds.keep (by rw [Run.turn, haside]) (by rw [Run.turn, haside])
        (by rw [Run.turn, haside]) (hexpects nofun)
  · have hease : ({ r with turns := { r.turns with queue := rest } } : Run).AtEase := h.ease
    cases p with
    | script => exact hease.goOn
    | coordinator => exact hease.work _ hlive h.tidy.timers
    | listener => exact hease.listen
    | watcher => exact hease.watch hlive
    | alarm t => exact hease.ring t

/-- It stays so in several turns. -/
theorem takeTurns (h : Orderly capacity width slots r) (n : Nat) :
    Orderly capacity width slots (r.takeTurns n) := by
  induction n generalizing r with
  | zero => exact h
  | succ n ih =>
    unfold Run.takeTurns
    split
    · exact h
    · next hqueue => exact ih (h.turn hqueue).2

/-- Others leave the script alone, unless they tell it the answer that it waits for. -/
theorem script_turn (h : Orderly capacity width slots r) {rest : List Party}
    (hqueue : r.turns.queue = p :: rest) :
    ({ r with turns := { r.turns with queue := rest } }.turn p).script = r.script ∨
      ∃ answer, r.script.hold = .answer none ∧
        ({ r with turns := { r.turns with queue := rest } }.turn p).script =
          { r.script with hold := .answer (some answer) } := by
  have hlive := h.live.pop hqueue
  cases p with
  | script => exact absurd (hqueue ▸ List.mem_cons_self) h.punctual.queue
  | coordinator => exact (hlive.fields_work _ h.tidy.timers).2
  | listener =>
    refine .inl ?_
    unfold Run.turn Run.listen
    dsimp only
    split <;> rfl
  | watcher =>
    refine .inl ?_
    unfold Run.turn
    dsimp only
    rw [hlive.watch_eq]
    split <;> rfl
  | alarm t =>
    refine .inl ?_
    unfold Run.turn
    dsimp only
    unfold Run.ring
    split
    · exact script_send _ _ _
    · rfl

/-- What holds on after every turn holds on after turns that are taken from the queue. -/
theorem takeTurns_induction {motive : Run → Prop}
    (turn : ∀ {r p rest}, Orderly capacity width slots r → r.turns.queue = p :: rest → motive r →
      motive ({ r with turns := { r.turns with queue := rest } }.turn p))
    (h : Orderly capacity width slots r) (hr : motive r) (n : Nat) : motive (r.takeTurns n) := by
  induction n generalizing r with
  | zero => exact hr
  | succ n ih =>
    unfold Run.takeTurns
    split
    · exact hr
    · next hqueue => exact ih (h.turn hqueue).2 (turn h hqueue hr)

/-- It stays so in the script's turn. -/
theorem scriptTurn (h : Orderly capacity width slots r) :
    Orderly capacity width slots r.scriptTurn := by
  have hfollows := Follows.scriptTurn r
  refine ⟨h.capacity_pos, h.live.scriptTurn, (load_scriptTurn (u := 0) h.tidy).2.1,
    h.punctual.follows hfollows, ?_, ?_⟩
  · obtain ⟨world, hworld⟩ := reshapes_scriptTurn r
    exact h.heeds.keep (by rw [hworld]) (by rw [hworld]) (listener_scriptTurn r).1
      fun hq => (hfollows.expects _ hq).resolve_left nofun
  · unfold Run.scriptTurn
    split
    · exact AtEase.goOn (r := { r with turns := { r.turns with scriptAwake := false } }) h.ease
    · exact h.ease

/-- It stays so when those who rest are woken. -/
theorem wakeResting (h : Orderly capacity width slots r) :
    Orderly capacity width slots { r with turns := r.turns.wakeResting } :=
  ⟨h.capacity_pos, h.live.wakeResting, h.tidy.alike rfl rfl,
    h.punctual.follows (Follows.wakeResting r h.punctual.resting),
    h.heeds.keep rfl rfl rfl fun hq => hq.wakeResting, h.ease⟩

end Orderly

end Run

end SatelliteWindows
