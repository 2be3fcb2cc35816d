import SatelliteWindows.Proofs.Scenario.Prospect

/-!
# A moment ends as was foreseen

Whoever has its turn, what a moment has in store stays the same, as long as no opening is given up.
So in the end the run is over, or there is a lull, just as was foreseen; and since nothing else is
left of a run in a lull, the same comes of two runs that have the same in store.

The runs are without interruption.
-/

namespace SatelliteWindows.Run

variable {capacity width slots d : Nat} {p : Party} {r r' u : Run}

/-! ## The coordinator's turn -/

/-- An alarm that is to go off is not going to sleep. -/
theorem filter_queue_wake {t : Turns} {clock : Nat} (hp : ∀ a, p = .alarm a → a.deadline ≤ clock) :
    ((t.wake p).queue.filterMap Party.timer?).filter (fun a => clock < a.deadline) =
      (t.queue.filterMap Party.timer?).filter fun a => clock < a.deadline := by
  rw [Turns.queue_wake]
  split
  · rfl
  · rw [List.filterMap_append, List.filter_append]
    cases p with
    | alarm a =>
      have hdue : ¬ clock < a.deadline := Nat.not_lt.mpr (hp a rfl)
      have hnone : ([a].filter fun a => clock < a.deadline) = [] := by simp [hdue]
      exact (congrArg _ hnone).trans (List.append_nil _)
    | _ => exact List.append_nil _

/-- A letter is taken out; an alarm that its place goes to is to go off. -/
theorem view_grant (h : Live capacity (some .coordinator) u) (letters : List Letter) :
    (u.grant (Mailbox.release { u.mailbox with letters := letters })).view = u.view := by
  rw [grant_eq]
  refine view_congr rfl (congrArg (u.alarms ++ ·) ?_) ⟨_, rfl⟩
  cases hgiven : (Mailbox.release { u.mailbox with letters := letters }).1 with
  | none => rfl
  | some p =>
    refine filter_queue_wake fun a hp => ?_
    subst hp
    exact h.guests _ (Follows.mem_guests_of_release (m := { u.mailbox with letters := letters })
      (.inr hgiven))

/-- Nothing comes of an alarm for an opening that is not awaited. -/
theorem serve_of_stale (hwatch : r.watcher.watch ≠ .awaiting) (htimers : r.coordinator.timers = [])
    {t : Timer} (h : ¬ r.Awaits t) : r.serve (.alarm t) (.expire t.name t.generation) = r := by
  have hcoordinator : ({ r.coordinator with timers := [] } : Coordinator Simulation) =
      r.coordinator := by
    rw [← htimers]
  rw [serve_eq hwatch, Coordinator.serve_expire_of_stale h, htimers, decide_eq_false (lt_irrefl _),
    hcoordinator]
  rfl

/-- What becomes of the queue when a request has been served and a new alarm was set. -/
theorem timers_served {alarms : List Timer} {sender : Party} {t : Turns} {news : Bool}
    (halarms : alarms = [] ∨ ∃ a, alarms = [a] ∧ .alarm a ∉ t.queue ∧ .alarm a ∉ t.resting) :
    (t.served news alarms sender).queue.filterMap Party.timer? =
      t.queue.filterMap Party.timer? ++ alarms := by
  have hscript : ∀ t : Turns, (if sender = .script then t.wake .script else t).queue = t.queue :=
    fun t => by split <;> rfl
  have hnews : (if news then t.wake .listener else t).queue.filterMap Party.timer? =
      t.queue.filterMap Party.timer? := by
    split
    · exact queue_wake_timers nofun
    · rfl
  unfold Turns.served
  dsimp only
  rw [hscript]
  rcases halarms with rfl | ⟨a, rfl, hqueue, hresting⟩
  · rw [List.append_nil]
    exact hnews
  · have hfresh : .alarm a ∉ (if news then t.wake .listener else t).queue ∧
        .alarm a ∉ (if news then t.wake .listener else t).resting := by
      split
      · refine ⟨fun hmem => ?_, by rwa [Turns.resting_wake]⟩
        exact (Turns.mem_queue_wake hmem).elim hqueue fun hself => by cases hself.1
      · exact ⟨hqueue, hresting⟩
    rw [List.foldl_cons, List.foldl_nil, Turns.queue_wake, if_neg, List.filterMap_append, hnews]
    · rfl
    · rintro (hscript | hmem | hmem)
      · cases hscript
      · exact hfresh.1 hmem
      · exact hfresh.2 hmem

/-- The request is carried out, and the alarm that is set will sleep. -/
theorem view_serve (hwatch : r.watcher.watch ≠ .awaiting) (htimers : r.coordinator.timers = [])
    (hpunctual : Punctual r) (sender : Party) (req : Request) :
    (r.serve sender req).view = (r.view.serve req).2 := by
  have halarms : (r.serve sender req).drowsy =
      r.drowsy ++ (r.coordinator.serve req).2.timers := by
    have hnew := Coordinator.timers_serve_eq htimers req
    have hclock : (r.serve sender req).clock = r.clock := by
      rw [serve_eq hwatch]
      exact Coordinator.clock_serve _ _
    have hqueue : (r.serve sender req).turns.queue.filterMap Party.timer? =
        r.turns.queue.filterMap Party.timer? ++ (r.coordinator.serve req).2.timers := by
      rw [serve_eq hwatch]
      refine timers_served (hnew.imp id fun ⟨a, _, hset, _, _, hlatest, _⟩ => ⟨a, hset, ?_, ?_⟩)
      · intro hmem
        have hmade := (hpunctual.timers a (mem_timers.mpr (.inr (.inl hmem)))).2.2
        omega
      · exact hpunctual.resting a
    unfold drowsy
    rw [hqueue, hclock, List.filter_append]
    refine congrArg _ ?_
    rcases hnew with hnone | ⟨a, span, hset, hspan, hdeadline, -⟩
    · rw [hnone]
      rfl
    · have hlater : r.clock < a.deadline := by
        have hpos := (hpunctual.timeout span hspan).1
        unfold clock
        omega
      rw [hset]
      simp [hlater]
  have hserve : r.view.serve req = ((r.coordinator.serve req).1, { r.view with
      coordinator := { (r.coordinator.serve req).2 with timers := [] }.mute
      alarms := r.view.alarms ++ (r.coordinator.serve req).2.timers }) := by
    unfold Prospect.serve
    have hmute : r.view.coordinator.serve req =
        ((r.coordinator.serve req).1, (r.coordinator.serve req).2.mute) :=
      Coordinator.serve_mute req r.coordinator
    rw [hmute]
    rfl
  rw [hserve]
  unfold view
  rw [halarms, ← List.append_assoc, serve_eq hwatch]
  split <;> rfl

/-- When the script's request is carried out, what comes of it is what was in store. -/
theorem prospect_serve (hwatch : r.watcher.watch ≠ .awaiting) (htimers : r.coordinator.timers = [])
    (hpunctual : Punctual r) (req : Request) :
    (r.serve .script req).prospect = r.view.ask req r.script.steps := by
  have hfields := (serve_fields .script req r).2.2
  rw [if_pos rfl] at hfields
  have hanswer : (r.coordinator.serve req).1 = (r.view.serve req).1 :=
    (congrArg Prod.fst (Coordinator.serve_mute req r.coordinator)).symm
  unfold prospect
  rw [view_serve hwatch htimers hpunctual .script req, hfields]
  dsimp only
  rw [hanswer]
  rfl

/-- All satellites are closed, and the alarms are left alone. -/
theorem view_stop (r : Run) : r.stop.view = r.view.stop := by
  have halarms : r.stop.drowsy = r.drowsy := by
    have hclock : r.stop.clock = r.clock := (Coordinator.ages_shutdown r.coordinator).2.2
    unfold drowsy
    rw [hclock]
    exact congrArg _ (queue_wake_timers nofun)
  unfold view Prospect.stop
  rw [halarms, Coordinator.shutdown_mute]
  rfl

/-- The end of the coordinator is in store for a script that has taken its leave. -/
theorem prospect_stop (hhold : r.script.hold = .ending) : r.stop.prospect = r.view.stop := by
  have hhold' : r.stop.script.hold = .ending := hhold
  unfold prospect
  rw [hhold']
  exact (congrArg Prospect.stop (view_stop r)).trans (Prospect.stop_stop _)

/-- The coordinator's turn changes nothing about what is in store. -/
theorem prospect_work (h : Live capacity (some .coordinator) r)
    (htimers : r.coordinator.timers = []) (hpunctual : Punctual r) (hcalm : Undisturbed r)
    (n : Nat) : (r.work n).prospect = r.prospect := by
  refine h.work_induction (motive := fun u => u.prospect = r.prospect) htimers rfl
    (fun {u} hu => hu) (fun {u sender req letters} hlive hfollows hnone hletters hu => ?_)
    (fun {u letters} hlive _ _ hletters hu => ?_) n
  · have hview := view_grant hlive letters
    have hsame := grant_eq (Mailbox.release { u.mailbox with letters := letters }) u
    have hgranted := hfollows.grant hletters
    rw [← hu]
    generalize u.grant (Mailbox.release { u.mailbox with letters := letters }) = v at *
    have hwatch : v.watcher.watch ≠ .awaiting := by
      rw [hsame]
      exact hlive.not_awaiting
    have hnone' : v.coordinator.timers = [] := by rwa [hsame]
    have hscript : v.script = u.script := by rw [hsame]
    rcases hlive.request_cases (hpunctual.follows hfollows) hletters with ⟨rfl, hhold⟩ |
      ⟨t, ht, rfl, rfl, hdue⟩
    · have hbefore : u.prospect = u.view.ask req u.script.steps := by
        unfold prospect
        rw [hhold, hletters]
        rfl
      rw [hbefore, ← hview, ← hscript]
      exact prospect_serve hwatch hnone' (hpunctual.follows hgranted) req
    · have hstale := hcalm.follows hpunctual hfollows t ht hdue
      rw [serve_of_stale hwatch hnone' (by unfold Awaits; rwa [hsame])]
      refine prospect_congr hview (congrArg Script.hold hscript) (congrArg Script.steps hscript) ?_
      have hrest : v.mailbox.letters = letters := by
        rw [hsame]
        exact Mailbox.letters_release _
      rw [hrest, hletters]
      rfl
  · have hview := view_grant hlive letters
    have hown := hlive.own
    rw [hletters] at hown
    obtain ⟨hhold, -⟩ := Hold.Owns.farewell hown
    have hhold' : (u.grant (Mailbox.release { u.mailbox with letters := letters })).script.hold =
        .ending := by
      rw [grant_eq]
      exact hhold
    rw [← hu, prospect_stop hhold', hview]
    unfold prospect
    rw [hhold]

/-! ## Rounds -/

/-- Letters that the script has not written make no difference. -/
theorem prospect_send (p : Party) (letter : Letter) (hletter : letter.own? = none) (r : Run) :
    (r.send p letter).2.prospect = r.prospect := by
  have hletters := letters_send p letter r
  have hown : (r.send p letter).2.mailbox.letters.findSome? Letter.own? =
      r.mailbox.letters.findSome? Letter.own? := by
    rw [hletters, List.findSome?_append]
    split <;> simp [hletter]
  cases hplace : (r.mailbox.reserve p).1 with
  | true =>
    rw [send_of_place hplace] at hown ⊢
    exact prospect_congr (view_congr rfl (drowsy_congr rfl rfl (queue_wake_timers nofun)) ⟨_, rfl⟩)
      rfl rfl hown
  | false =>
    rw [send_of_full hplace] at hown ⊢
    exact prospect_congr (view_congr rfl rfl ⟨_, rfl⟩) rfl rfl hown

namespace Orderly

/-- No turn changes what is in store. -/
theorem prospect_turn (h : Orderly capacity width slots r) (hcalm : Undisturbed r)
    {rest : List Party} (hqueue : r.turns.queue = p :: rest) :
    ({ r with turns := { r.turns with queue := rest } }.turn p).prospect = r.prospect := by
  have hlive := h.live.pop hqueue
  have hpopped : (∀ t, p ≠ .alarm t) →
      ({ r with turns := { r.turns with queue := rest } } : Run).prospect = r.prospect := by
    intro hp
    refine prospect_congr (view_congr rfl (drowsy_congr rfl rfl ?_) ⟨_, rfl⟩) rfl rfl rfl
    rw [hqueue]
    cases p with
    | alarm t => exact absurd rfl (hp t)
    | _ => rfl
  have hfollows := Follows.pop hqueue
  cases p with
  | script => exact absurd (hqueue ▸ List.mem_cons_self) h.punctual.queue
  | coordinator =>
    exact (prospect_work hlive h.tidy.timers (h.punctual.follows hfollows)
      (hcalm.follows h.punctual hfollows) _).trans (hpopped nofun)
  | listener =>
    refine Eq.trans ?_ (hpopped nofun)
    unfold Run.turn listen
    obtain ⟨read, feed⟩ := r.coordinator.feed.receiveSome Turns.allowance r.listener
    dsimp only
    split <;> exact prospect_congr (view_congr rfl rfl ⟨_, rfl⟩) rfl rfl rfl
  | watcher =>
    refine Eq.trans ?_ (hpopped nofun)
    unfold Run.turn
    dsimp only
    rw [hlive.watch_eq]
    split
    · exact prospect_congr (view_congr rfl rfl ⟨_, rfl⟩) rfl rfl rfl
    · rfl
  -- an alarm that goes off too late for its opening is of no account, and one that sleeps again is
  -- counted among those that sleep
  | alarm t =>
    have hdrowsy : r.drowsy = [t].filter (fun t => r.clock < t.deadline) ++
        ({ r with turns := { r.turns with queue := rest } } : Run).drowsy := by
      unfold drowsy
      rw [hqueue]
      exact List.filter_append [t] _
    unfold Run.turn
    dsimp only
    unfold ring
    split
    · next hdue =>
      replace hdue : t.deadline ≤ r.clock := hdue
      have hnone : [t].filter (fun t => r.clock < t.deadline) = [] := by simp [hdue]
      rw [hnone, List.nil_append] at hdrowsy
      refine (prospect_send (.alarm t) t.letter rfl _).trans ?_
      exact prospect_congr (view_congr rfl (congrArg (r.alarms ++ ·) hdrowsy.symm) ⟨_, rfl⟩) rfl rfl
        rfl
    · next hdue =>
      replace hdue : r.clock < t.deadline := Nat.lt_of_not_le hdue
      have hsome : [t].filter (fun t => r.clock < t.deadline) = [t] := by simp [hdue]
      rw [hsome] at hdrowsy
      refine prospect_congr (view_congr rfl ?_ ⟨_, rfl⟩) rfl rfl rfl
      rw [hdrowsy]
      exact List.append_assoc _ _ _

/-- What lies before a script that nobody disturbs is the same after several turns. -/
theorem prospect_takeTurns (h : Orderly capacity width slots r) (hcalm : Undisturbed r) (n : Nat) :
    Undisturbed (r.takeTurns n) ∧ (r.takeTurns n).prospect = r.prospect :=
  h.takeTurns_induction (motive := fun u => Undisturbed u ∧ u.prospect = r.prospect)
    (fun ho hqueue hu => ⟨hu.1.follows ho.punctual (ho.turn hqueue).1,
      (ho.prospect_turn hu.1 hqueue).trans hu.2⟩) ⟨hcalm, rfl⟩ n

/-- It is the same after the script's own turn. -/
theorem prospect_scriptTurn (h : Orderly capacity width slots r) (hcalm : Undisturbed r) :
    Undisturbed r.scriptTurn ∧ r.scriptTurn.prospect = r.prospect := by
  refine ⟨hcalm.follows h.punctual (Follows.scriptTurn r), ?_⟩
  unfold Run.scriptTurn
  split
  · exact prospect_goOn h.live.calm
  · rfl

/-- It is the same when those who rest are woken. -/
theorem prospect_wakeResting (h : Orderly capacity width slots r) (hcalm : Undisturbed r) :
    Undisturbed { r with turns := r.turns.wakeResting } ∧
      ({ r with turns := r.turns.wakeResting } : Run).prospect = r.prospect := by
  refine ⟨hcalm.follows h.punctual (Follows.wakeResting r h.punctual.resting),
    prospect_congr (view_congr rfl (drowsy_congr rfl rfl ?_) ⟨_, rfl⟩) rfl rfl rfl⟩
  have hwoken : ∀ (ps : List Party) (t : Turns), (∀ a, .alarm a ∉ ps) →
      (ps.foldl (fun t p => t.wake p) t).queue.filterMap Party.timer? =
        t.queue.filterMap Party.timer? := by
    intro ps
    induction ps with
    | nil => exact fun _ _ => rfl
    | cons p rest ih =>
      intro t hps
      refine (ih (t.wake p) fun a ha => hps a (List.mem_cons_of_mem _ ha)).trans ?_
      exact queue_wake_timers fun a ha => hps a (ha ▸ List.mem_cons_self)
  exact hwoken _ _ h.punctual.resting

/-- A run that is over has nothing more in store. -/
theorem prospect_of_heardOut (h : Orderly capacity width slots r) (hheard : r.heardOut = true) :
    r.prospect.moment = none ∧ r.prospect.upshot = r.upshot := by
  have hstopped := h.live.heardOut hheard
  have hstop : r.view.stop = r.view := by
    have hstopped' : r.view.coordinator.running = false := hstopped
    unfold Prospect.stop
    rw [Coordinator.shutdown_of_not_running hstopped']
  unfold prospect
  rw [h.live.stopped hstopped]
  dsimp only
  rw [hstop]
  exact ⟨rfl, rfl⟩

/-- The run is over in the end, or there is a lull, as was foreseen. -/
theorem settles (h : Orderly capacity width slots r) (hcalm : Undisturbed r) :
    (r.prospect.moment = none ∧ r.ComesTo r.prospect.upshot) ∨ ∃ q moment, Leads r q ∧
      Orderly capacity width slots q ∧ Undisturbed q ∧ Lull capacity width moment q ∧
        q.prospect = r.prospect := by
  obtain ⟨n, hn⟩ := h.exists_rounds
  have hover : ∀ {r : Run}, Orderly capacity width slots r → r.heardOut = true →
      r.prospect.moment = none ∧ r.ComesTo r.prospect.upshot := fun h hheard => by
    obtain ⟨hmoment, hupshot⟩ := h.prospect_of_heardOut hheard
    exact ⟨hmoment, hupshot ▸ comesTo_of_heardOut hheard⟩
  induction n generalizing r with
  | zero => exact .inl (hover h hn)
  | succ n ih =>
    cases hheard : r.heardOut with
    | true => exact .inl (hover h hheard)
    | false =>
      obtain ⟨hscript, hstays⟩ := h.prospect_scriptTurn hcalm
      obtain ⟨hturns, hstays'⟩ := h.scriptTurn.prospect_takeTurns hscript Turns.perRound
      have hmid := h.scriptTurn.takeTurns Turns.perRound
      have hsame := hstays'.trans hstays
      rw [rounds_succ hheard] at hn
      cases hquiet : (r.scriptTurn.takeTurns Turns.perRound).turns.isQuiet with
      | true =>
        have hround := round_of_quiet hquiet
        cases hheard' : (r.scriptTurn.takeTurns Turns.perRound).heardOut with
        | true =>
          obtain ⟨hmoment, hupshot⟩ := hmid.prospect_of_heardOut hheard'
          obtain ⟨hheard'', hupshot'⟩ := upshot_passTime (r.scriptTurn.takeTurns Turns.perRound)
          rw [hsame] at hmoment hupshot
          refine .inl ⟨hmoment, leads_of_round hheard hround _ ?_⟩
          rw [hupshot, ← hupshot']
          exact comesTo_of_heardOut (hheard''.trans hheard')
        | false =>
          obtain ⟨moment, hlull⟩ := hmid.lull hquiet hheard'
          exact .inr ⟨_, moment, leads_lull hheard hquiet hheard' hlull, hmid, hturns, hlull, hsame⟩
      | false =>
        have hround := round_of_busy hquiet
        obtain ⟨hwoken, hstays''⟩ := hmid.prospect_wakeResting hturns
        have hleads := leads_of_round hheard hround
        rw [hround] at hn
        rw [← hsame, ← hstays'']
        rcases ih hmid.wakeResting hwoken hn with ⟨hmoment, hends⟩ | ⟨q, moment, hq, hrest⟩
        · exact .inl ⟨hmoment, hleads _ hends⟩
        · exact .inr ⟨q, moment, hleads.trans hq, hrest⟩

end Orderly

/-- When the moment that the script waits for has come, its other steps are in store. -/
theorem prospect_of_due {moment : Nat} (hhold : r.script.hold = .moment moment)
    (hdue : moment ≤ r.clock) : r.prospect = r.view.play r.script.steps.tail := by
  unfold prospect
  rw [hhold]
  exact if_pos hdue

/-- Before it has come, it is in store itself. -/
theorem prospect_of_later {moment : Nat} (hhold : r.script.hold = .moment moment)
    (hlater : r.clock < moment) :
    r.prospect = { r.view with steps := r.script.steps, moment := some moment } := by
  unfold prospect
  rw [hhold]
  exact if_neg (Nat.not_le.mpr hlater)

/-- If all timers have fallen due, no alarm will sleep. -/
theorem Punctual.view_alarms (h : Punctual r) (hdue : ∀ t ∈ r.timers, t.deadline ≤ r.clock) :
    r.view.alarms = [] := by
  refine List.eq_nil_iff_forall_not_mem.mpr fun t ht => ?_
  rcases List.mem_append.mp ht with ht | ht
  · exact absurd (h.sleeping t ht) (Nat.not_lt.mpr (hdue t (mem_timers.mpr (.inl ht))))
  · obtain ⟨hmem, hlater⟩ := List.mem_filter.mp ht
    obtain ⟨p, hp, htimer⟩ := List.mem_filterMap.mp hmem
    obtain rfl := Party.timer?_eq_some.mp htimer
    exact absurd (of_decide_eq_true hlater)
      (Nat.not_lt.mpr (hdue t (mem_timers.mpr (.inr (.inl hp)))))

/-! ## The same in store -/

/-- In a lull it is plain to see what is in store. -/
theorem Lull.prospect_eq {moment : Nat} (h : Lull capacity width moment r) :
    r.prospect = { r.view with
      alarms := r.alarms
      steps := r.script.steps
      moment := some moment } := by
  have halarms : r.alarms ++ r.drowsy = r.alarms := by
    unfold drowsy
    rw [h.turns]
    exact List.append_nil _
  rw [prospect_of_later h.hold h.later]
  unfold view
  rw [halarms]

/-- Nothing else is left of a run in a lull. -/
theorem Lull.echoes {moment moment' : Nat} (h : Lull capacity width moment r)
    (h' : Lull capacity width moment' r') (ho : Orderly capacity width slots r)
    (ho' : Orderly capacity width slots r') (hsame : r'.prospect = r.prospect.later d) :
    Echoes d r.script.steps r.script.steps r r' := by
  rw [h.prospect_eq, h'.prospect_eq] at hsame
  obtain ⟨hmute, halarms, hsize, hsteps, hmoment, hreason, hmetrics, hsatellites⟩ :=
    (Prospect.mk.injEq ..).mp hsame
  have hcoordinator : r'.coordinator = r.coordinator.later d := by
    replace hmute : r'.coordinator.mute = r.coordinator.mute.later d := hmute
    have hscene : r'.coordinator.mute.scene = r.coordinator.mute.scene := by
      rw [hmute]
      rfl
    replace hscene : r'.coordinator.scene = r.coordinator.scene := hscene
    have hfeed : r'.coordinator.feed = r.coordinator.feed := by rw [h'.feed, h.feed, hscene]
    have hparts := (Coordinator.mk.injEq ..).mp hmute
    exact (Coordinator.mk.injEq ..).mpr ⟨hscene, hfeed, hparts.2.2⟩
  refine ⟨⟨⟨hcoordinator, ?_, ?_, halarms, ?_, ?_, ?_⟩, ?_,
    ⟨hsize, hreason, hmetrics, hsatellites⟩⟩, ?_, rfl, hsteps⟩
  · rw [h.mailbox, h'.mailbox]
    rfl
  · rw [h.turns, h'.turns]
    exact ⟨rfl, rfl⟩
  · rw [ho.heeds.listener, ho'.heeds.listener]
  · rw [ho.heardOut_of_moment h.hold, ho'.heardOut_of_moment h'.hold]
  · rw [h.watcher, h'.watcher]
  · rw [h.turns, h'.turns]
    exact .refl _
  · rw [h.hold, h'.hold]
    exact congrArg Hold.moment (Option.some.inj hmoment)

/-- The same comes of runs that have the same in store, be it at another time. -/
theorem endsLike_of_prospect (ho : Orderly capacity width slots r)
    (ho' : Orderly capacity width slots r') (hcalm : Undisturbed r) (hcalm' : Undisturbed r')
    (hsame : r'.prospect = r.prospect.later d) : EndsLike r r' := by
  have hmoments : r'.prospect.moment = r.prospect.moment.map (· + d) := by
    rw [hsame]
    rfl
  rcases ho.settles hcalm with ⟨hnone, hends⟩ | ⟨q, moment, hq, hoq, -, hlull, hstays⟩
  · rcases ho'.settles hcalm' with ⟨-, hends'⟩ | ⟨q', moment', -, -, -, hlull', hstays'⟩
    · refine ⟨_, hends, ?_⟩
      rw [hsame] at hends'
      exact hends'
    · rw [hnone, ← hstays', hlull'.prospect_eq] at hmoments
      cases hmoments
  · rcases ho'.settles hcalm' with ⟨hnone', -⟩ | ⟨q', moment', hq', hoq', -, hlull', hstays'⟩
    · rw [hnone', ← hstays, hlull.prospect_eq] at hmoments
      cases hmoments
    · have hechoes := hlull.echoes hlull' hoq hoq' (d := d) (by rw [hstays, hstays', hsame])
      exact (hechoes.endsLike hoq hoq').of_leads hq hq'

/-! ## Runs in step -/

/-- Alarms are alarms some time later, too. -/
theorem filterMap_timer?_later (d : Nat) (ps : List Party) :
    (ps.map (Party.later d)).filterMap Party.timer? =
      (ps.filterMap Party.timer?).map (Timer.later d) := by
  rw [List.filterMap_map, List.map_filterMap]
  refine List.filterMap_congr fun p _ => ?_
  cases p <;> rfl

/-- Runs that are in step have set the same timers. -/
theorem InStep.timers (h : InStep d r r') : r'.timers = r.timers.map (Timer.later d) := by
  have hletters : ∀ ls : List Letter, (ls.map (Letter.later d)).filterMap Letter.timer? =
      (ls.filterMap Letter.timer?).map (Timer.later d) := fun ls => by
    rw [List.filterMap_map, List.map_filterMap]
    refine List.filterMap_congr fun l _ => ?_
    cases l with
    | farewell => rfl
    | request sender req => cases sender <;> rfl
  have hguests : r'.mailbox.guests = r.mailbox.guests.map (Party.later d) := by
    rw [h.mailbox]
    exact List.map_append.symm
  have hmail : r'.mailbox.letters = r.mailbox.letters.map (Letter.later d) := by
    rw [h.mailbox]
    rfl
  unfold Run.timers
  rw [hguests, hmail, h.alarms, h.turns.queue, ← List.map_append, filterMap_timer?_later, hletters,
    List.map_append, List.map_append]

/-- In runs that are in step nobody disturbs the one script if nobody disturbs the other. -/
theorem InStep.undisturbed (h : InStep d r r') (hcalm : Undisturbed r) : Undisturbed r' := by
  intro t ht hdue hawaits
  rw [h.timers] at ht
  obtain ⟨a, ha, rfl⟩ := List.mem_map.mp ht
  rw [h.clock] at hdue
  refine hcalm a ha (Nat.le_of_add_le_add_right hdue) ?_
  unfold Awaits at hawaits ⊢
  rw [h.coordinator] at hawaits
  exact hawaits

/-- The scripts have written the same letters. -/
theorem InStep.own (h : InStep d r r') :
    r'.mailbox.letters.findSome? Letter.own? = r.mailbox.letters.findSome? Letter.own? := by
  have hmail : r'.mailbox.letters = r.mailbox.letters.map (Letter.later d) := by
    rw [h.mailbox]
    rfl
  rw [hmail, List.findSome?_map]
  refine congrArg (List.findSome? · _) (funext fun l => ?_)
  cases l with
  | farewell => rfl
  | request sender req => cases sender <;> rfl

/-- Runs that are in step see the same behind this moment. -/
theorem InStep.view_eq (h : InStep d r r') (hagrees : r.script.Agrees r'.script) :
    r'.view = r.view.later d := by
  have hdrowsy : r'.drowsy = r.drowsy.map (Timer.later d) := by
    unfold drowsy
    rw [h.turns.queue, filterMap_timer?_later, h.clock, List.filter_map]
    refine congrArg _ (List.filter_congr fun t _ => ?_)
    simp [Timer.later]
  refine (Prospect.mk.injEq ..).mpr ⟨?_, ?_, hagrees.defaultSize, rfl, rfl, hagrees.fault,
    hagrees.metrics, hagrees.satellites⟩
  · rw [h.coordinator]
    rfl
  · rw [hdrowsy, h.alarms]
    exact List.map_append.symm

end SatelliteWindows.Run
