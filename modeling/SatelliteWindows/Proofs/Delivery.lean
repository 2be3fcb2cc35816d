import SatelliteWindows.Proofs.History

/-!
# What is handed to windows, and by whom

Events are handed to windows in two ways: a broadcast offers an event to every registered satellite
that nothing is held back for, and a flush hands over what was held back for one satellite. This
module says exactly which attempts each of the two makes on behalf of a satellite, and that nothing
else makes any. What windows answered, and which were found dead, is said in terms of the states of
the desktop that led to the one afterwards.
-/

namespace SatelliteWindows

/-- Whether something is handed on to registered windows. -/
def Happening.handsOn : Happening → Bool
  | flushed _ | dispatched _ | commanded _ => true
  | _ => false

namespace Scene

variable {σ : Type} [Desktop σ]

/-- An attempt has the answer that a desktop gave which has led to the present one. -/
def Answered (t : Scene σ) (a : Attempt) : Prop :=
  ∃ b : σ, Desktop.Reaches (Desktop.deliver a.window a.message b).2 t.world ∧
    a.fault = (Desktop.deliver a.window a.message b).1

/-- A window was dead on a desktop that has led to the present one. -/
def FoundDead (t : Scene σ) (w : WindowId) : Prop :=
  ∃ b : σ, Desktop.Reaches b t.world ∧ Desktop.isAlive b w = false

/-- What a window has answered it has answered for good. -/
theorem Answered.mono {s t : Scene σ} (h : Leads s t) {a : Attempt} (ha : s.Answered a) :
    t.Answered a := by
  obtain ⟨b, hb, hfault⟩ := ha
  exact ⟨b, hb.trans h.world, hfault⟩

/-- A window that was found dead was found dead for good. -/
theorem FoundDead.mono {s t : Scene σ} (h : Leads s t) {w : WindowId} (hw : s.FoundDead w) :
    t.FoundDead w := by
  obtain ⟨b, hb, hdead⟩ := hw
  exact ⟨b, hb.trans h.world, hdead⟩

/-- A window that is dead now has been found dead. -/
theorem foundDead_of_not_isAlive {s : Scene σ} {w : WindowId} (h : s.isAlive w = false) :
    s.FoundDead w := ⟨s.world, .refl, h⟩

/-! ## Single deliveries -/

/-- An event is handed to a window on behalf of one satellite. -/
theorem passedFor_deliver_event (name other : String) (w : WindowId) (e : Event) (s : Scene σ) :
    (s.deliver other w (.event e)).journal.passedFor name = s.journal.passedFor name ++
      if other = name then [⟨name, w, .event e, (Desktop.deliver w (.event e) s.world).1⟩]
      else [] := by
  unfold Journal.passedFor
  rw [passed_deliver, List.filter_append]
  congr 1
  by_cases h : other = name
  · subst h
    simp [Message.event?]
  · simp [Message.event?, h]

/-- A desktop changes only by what a window does with its message. -/
theorem world_deliver (name : String) (w : WindowId) (m : Message) (s : Scene σ) :
    (s.deliver name w m).world = (Desktop.deliver w m s.world).2 := by
  unfold deliver
  cases Desktop.deliver w m s.world with
  | mk fault world => cases fault <;> rfl

/-- Events are handed to a window in their order, each once, all on behalf of the same satellite. -/
theorem passedFor_deliverAll (name : String) (w : WindowId) (es : List Event) (s : Scene σ) :
    ∃ attempts : List Attempt,
      (s.deliverAll name w (es.map .event)).journal.passedFor name =
        s.journal.passedFor name ++ attempts ∧
      (attempts.filterMap fun a => a.message.event?) = es ∧
      ∀ a ∈ attempts, a.window = w ∧ (s.deliverAll name w (es.map .event)).Answered a := by
  induction es generalizing s with
  | nil => exact ⟨[], (List.append_nil _).symm, rfl, fun a ha => by cases ha⟩
  | cons e rest ih =>
    obtain ⟨attempts, hpassed, hevents, hanswered⟩ := ih (s.deliver name w (.event e))
    have hleads := (frugal_deliverAll name w (rest.map .event)
      (s.deliver name w (.event e))).toLeads
    refine ⟨⟨name, w, .event e, (Desktop.deliver w (.event e) s.world).1⟩ :: attempts,
      ?_, ?_, ?_⟩
    · rw [passedFor_deliver_event, if_pos rfl, List.append_assoc] at hpassed
      exact hpassed
    · show e :: attempts.filterMap (fun a => a.message.event?) = e :: rest
      rw [hevents]
    · intro a ha
      rcases List.mem_cons.mp ha with rfl | ha
      · refine ⟨rfl, Answered.mono hleads ⟨s.world, ?_, rfl⟩⟩
        rw [world_deliver]
        exact .refl
      · exact hanswered a ha

/-- Events that are handed to another satellite's window do not count for a satellite. -/
theorem passedFor_deliverAll_of_ne {name other : String} (hne : other ≠ name) (w : WindowId)
    (es : List Event) (s : Scene σ) :
    (s.deliverAll other w (es.map .event)).journal.passedFor name =
      s.journal.passedFor name := by
  induction es generalizing s with
  | nil => rfl
  | cons e rest ih =>
    refine (ih (s.deliver other w (.event e))).trans ?_
    rw [passedFor_deliver_event, if_neg hne, List.append_nil]

/-! ## Flushes -/

/-- A flush hands nothing to a window on behalf of another satellite. -/
theorem passedFor_flush_of_ne {name other : String} (hne : other ≠ name) (s : Scene σ) :
    (s.flush other).journal.passedFor name = s.journal.passedFor name := by
  have hlet : (s.letGo other).journal.passedFor name = s.journal.passedFor name := rfl
  rw [flush_eq]
  split
  · exact hlet
  · rw [(discreet_report _ _ rfl).passedFor name, ← hlet]
    generalize s.letGo other = t
    generalize List.map Entry.window _ = ws
    induction ws generalizing t with
    | nil => rfl
    | cons w rest ih =>
      exact (ih (t.deliverAll other w _)).trans (passedFor_deliverAll_of_ne hne w _ t)

/-- A flush hands everything that was held back for a satellite to its live window, in order and
each event once. Without a live window it hands over nothing. -/
theorem passedFor_flush {s : Scene σ} (hu : s.fleet.roster.Unique) (name : String) :
    ∃ attempts : List Attempt,
      (s.flush name).journal.passedFor name = s.journal.passedFor name ++ attempts ∧
      ((attempts = [] ∧ s.fleet.roster.live s.isAlive name = []) ∨
        ∃ w, s.fleet.roster.live s.isAlive name = [⟨name, w⟩] ∧
          (attempts.filterMap fun a => a.message.event?) = s.fleet.backlog.held name ∧
          ∀ a ∈ attempts, a.window = w ∧ (s.flush name).Answered a) := by
  have hlet : (s.letGo name).journal.passedFor name = s.journal.passedFor name := rfl
  have hlive : s.fleet.roster.live s.isAlive name = [] ∨
      ∃ w, s.fleet.roster.live s.isAlive name = [⟨name, w⟩] := hu.live_cases s.isAlive name
  rw [flush_eq]
  split
  · next hheld =>
    refine ⟨[], by rw [hlet, List.append_nil], ?_⟩
    rcases hlive with hnone | ⟨w, hw⟩
    · exact .inl ⟨rfl, hnone⟩
    · exact .inr ⟨w, hw, (List.isEmpty_iff.mp hheld).symm, fun a ha => by cases ha⟩
  · rcases hlive with hnone | ⟨w, hw⟩
    · refine ⟨[], ?_, .inl ⟨rfl, hnone⟩⟩
      rw [hnone, (discreet_report _ _ rfl).passedFor name, List.append_nil]
      exact hlet
    · obtain ⟨attempts, hpassed, hevents, hanswered⟩ :=
        passedFor_deliverAll name w (s.fleet.backlog.held name) (s.letGo name)
      rw [hw]
      refine ⟨attempts, ?_, .inr ⟨w, rfl, hevents, fun a ha => ?_⟩⟩
      · rw [(discreet_report _ _ rfl).passedFor name]
        exact hpassed
      · obtain ⟨hwindow, hanswer⟩ := hanswered a ha
        exact ⟨hwindow, hanswer.mono (discreet_report _ _ rfl).toLeads⟩

/-! ## Broadcasts -/

omit [Desktop σ] in
/-- Whether events are held back can be told from the handshake. -/
theorem isHolding_of_handshake_eq {s t : Scene σ} (h : t.handshake = s.handshake)
    (name : String) : t.fleet.isHolding name = s.fleet.isHolding name :=
  congrArg (fun k => k.backlog.isHolding name) h

/-- Nothing is offered on behalf of a satellite that events are held back for, or that is not among
the entries. -/
theorem passedFor_offer_of_silent {name : String} {l : List Entry} {s : Scene σ}
    (h : s.fleet.isHolding name = true ∨ name ∉ l.map Entry.name) (e : Event) :
    (offer (.event e) l s).2.journal.passedFor name = s.journal.passedFor name := by
  induction l generalizing s with
  | nil => rfl
  | cons d rest ih =>
    have hrest : s.fleet.isHolding name = true ∨ name ∉ rest.map Entry.name :=
      h.imp_right fun hnot hmem => hnot (List.mem_cons_of_mem _ hmem)
    unfold offer
    dsimp only
    split
    · exact ih (s := s.elapse) hrest
    · next hd =>
      split
      · have hne : d.name ≠ name := by
          rintro rfl
          rcases h with hholding | hnot
          · exact hd hholding
          · exact hnot (by simp)
        have hsame : (s.elapse.deliver d.name d.window (.event e)).handshake = s.handshake := by
          rw [handshake_deliver, handshake_elapse]
        rw [ih (by rw [isHolding_of_handshake_eq hsame]; exact hrest), passedFor_deliver_event,
          if_neg hne, List.append_nil]
        rfl
      · exact ih (s := s.elapse) hrest

/-- Entries that an offer gives back were found dead. -/
theorem foundDead_of_mem_offer {m : Message} {l : List Entry} {s : Scene σ} {d : Entry}
    (h : d ∈ (offer m l s).1) : (offer m l s).2.FoundDead d.window := by
  induction l generalizing s with
  | nil => cases h
  | cons e rest ih =>
    unfold offer at h ⊢
    dsimp only at h ⊢
    split at h
    · next he =>
      rw [if_pos he]
      exact ih h
    · next he =>
      rw [if_neg he]
      split at h
      · next ha =>
        rw [if_pos ha]
        exact ih h
      · next ha =>
        rw [if_neg ha]
        rcases List.mem_cons.mp h with rfl | hrest
        · have hdead : s.elapse.FoundDead d.window :=
            foundDead_of_not_isAlive (by simpa using ha)
          exact hdead.mono (writes_offer m rest s.elapse).leads
        · exact ih hrest

/-- What comes of offering an event to the entry of a satellite that nothing is held back for. -/
inductive Offered (name : String) (e : Event) (l : List Entry) (s t : Scene σ) : Prop where
  /-- Nothing, because its window was found dead, or because there is no entry. -/
  | skipped (passed : t.journal.passedFor name = s.journal.passedFor name)
      (dead : ∀ w, ⟨name, w⟩ ∈ l → t.FoundDead w)
  /-- It was handed to the window once. -/
  | handed (a : Attempt)
      (passed : t.journal.passedFor name = s.journal.passedFor name ++ [a])
      (entry : ⟨name, a.window⟩ ∈ l) (message : a.message = .event e) (answered : t.Answered a)

/-- What went before is no part of an offer, and what follows it discreetly neither. -/
theorem Offered.extend {name : String} {e : Event} {l l' : List Entry} {s s' t t' : Scene σ}
    (h : Offered name e l s t) (hs : s.journal.passedFor name = s'.journal.passedFor name)
    (ht : Discreet t t') (hl : ∀ w, ⟨name, w⟩ ∈ l → ⟨name, w⟩ ∈ l')
    (hl' : ∀ w, ⟨name, w⟩ ∈ l' → ⟨name, w⟩ ∈ l ∨ t'.FoundDead w) : Offered name e l' s' t' := by
  cases h with
  | skipped passed dead =>
    refine .skipped ((ht.passedFor name).trans (passed.trans hs)) fun w hw => ?_
    rcases hl' w hw with hw | hw
    · exact (dead w hw).mono ht.toLeads
    · exact hw
  | handed a passed entry message answered =>
    refine .handed a ?_ (hl _ entry) message (answered.mono ht.toLeads)
    rw [ht.passedFor name, passed, hs]

/-- An event is offered once to the entry of a satellite that nothing is held back for, unless its
window is found dead. -/
theorem offered_offer {name : String} {l : List Entry} {s : Scene σ}
    (hl : (l.map Entry.name).Nodup) (hnot : s.fleet.isHolding name = false) (e : Event) :
    Offered name e l s (offer (.event e) l s).2 := by
  induction l generalizing s with
  | nil => exact .skipped rfl fun w hw => by cases hw
  | cons d rest ih =>
    obtain ⟨hfresh, hrest⟩ := List.nodup_cons.mp hl
    have hoff : s.elapse.fleet.isHolding name = false := hnot
    unfold offer
    dsimp only
    by_cases hd : d.name = name
    · subst hd
      have hsilent : ∀ t : Scene σ, (offer (.event e) rest t).2.journal.passedFor d.name =
          t.journal.passedFor d.name := fun t => passedFor_offer_of_silent (.inr hfresh) e
      rw [if_neg (by rw [hoff]; exact Bool.false_ne_true)]
      split
      · refine .handed ⟨d.name, d.window, .event e,
          (Desktop.deliver d.window (.event e) s.elapse.world).1⟩ ?_ List.mem_cons_self rfl ?_
        · rw [hsilent, passedFor_deliver_event, if_pos rfl]
          rfl
        · refine Answered.mono (writes_offer (.event e) rest _).leads ⟨s.elapse.world, ?_, rfl⟩
          rw [world_deliver]
          exact .refl
      · next ha =>
        refine .skipped (hsilent s.elapse) fun w hw => ?_
        have hdead : s.elapse.FoundDead d.window := foundDead_of_not_isAlive (by simpa using ha)
        have hwindow : w = d.window := by
          rcases List.mem_cons.mp hw with heq | hw
          · rw [← heq]
          · exact absurd (List.mem_map.mpr ⟨_, hw, rfl⟩) hfresh
        rw [hwindow]
        exact hdead.mono (writes_offer (.event e) rest s.elapse).leads
    · have hskip : ∀ w, (⟨name, w⟩ : Entry) ∈ d :: rest → ⟨name, w⟩ ∈ rest := fun w hw =>
        (List.mem_cons.mp hw).resolve_left fun heq => hd (by rw [← heq])
      have hnext : ∀ t : Scene σ, t.fleet.isHolding name = false →
          t.journal.passedFor name = s.journal.passedFor name →
          Offered name e (d :: rest) s (offer (.event e) rest t).2 := fun t ht hpassed =>
        (ih hrest ht).extend hpassed (.refl _) (fun w => List.mem_cons_of_mem d)
          fun w hw => .inl (hskip w hw)
      split
      · exact hnext s.elapse hoff rfl
      · split
        · refine hnext _ ?_ ?_
          · rw [isHolding_of_handshake_eq (handshake_deliver _ _ _ _), hoff]
          · rw [passedFor_deliver_event, if_neg hd, List.append_nil]
            rfl
        · exact hnext s.elapse hoff rfl

/-- Sweeping takes those off the roster whose windows are dead, and nobody else. -/
theorem roster_sweep (s : Scene σ) :
    s.sweep.fleet.roster = (s.fleet.roster.removeDead s.isAlive).2 :=
  congrArg Handshake.roster (handshake_sweep s)

/-- A broadcast takes those off the roster whose windows have died meanwhile. -/
theorem roster_broadcast (m : Message) (s : Scene σ) : (s.broadcast m).fleet.roster =
    s.sweep.fleet.roster.removeEntries (offer m s.sweep.fleet.roster.entries s.sweep).1 := by
  have hswept := roster_sweep s
  rw [hswept]
  have hroster := congrArg Handshake.roster (handshake_broadcast m s)
  rw [hswept] at hroster
  exact hroster

/-- Entries that a sweep takes off the roster are those of dead windows. -/
theorem mem_sweep {s : Scene σ} {d : Entry} (h : d ∈ s.fleet.roster.entries) :
    d ∈ s.sweep.fleet.roster.entries ∨ s.FoundDead d.window := by
  rw [roster_sweep]
  cases ha : s.isAlive d.window with
  | true => exact .inl (List.mem_filter.mpr ⟨h, ha⟩)
  | false => exact .inr (foundDead_of_not_isAlive ha)

/-- Sweeping adds nobody to the roster. -/
theorem roster_sweep_sublist (s : Scene σ) :
    s.sweep.fleet.roster.entries.Sublist s.fleet.roster.entries := by
  rw [roster_sweep]
  exact List.filter_sublist

/-- A broadcast leaves an entry on the roster unless its window is found dead. -/
theorem mem_broadcast {s : Scene σ} {d : Entry} (h : d ∈ s.fleet.roster.entries) (m : Message) :
    d ∈ (s.broadcast m).fleet.roster.entries ∨ (s.broadcast m).FoundDead d.window := by
  have hoffer := (writes_offer m s.sweep.fleet.roster.entries s.sweep).leads
  have hevict := (discreet_evict (offer m s.sweep.fleet.roster.entries s.sweep).1
    (offer m s.sweep.fleet.roster.entries s.sweep).2).toLeads
  have hsweep := (discreet_sweep s).toLeads
  rcases mem_sweep h with hkept | hdead
  · by_cases hgone : d ∈ (offer m s.sweep.fleet.roster.entries s.sweep).1
    · exact .inr ((foundDead_of_mem_offer hgone).mono hevict)
    · rw [roster_broadcast]
      exact .inl (List.mem_filter.mpr ⟨hkept, by simpa using hgone⟩)
  · exact .inr (hdead.mono (hsweep.trans (hoffer.trans hevict)))

/-! ## Dispatches -/

/-- A dispatch hands nothing to a window on behalf of a satellite that events are held back for. -/
theorem passedFor_dispatchEvent_of_holding {name : String} {s : Scene σ}
    (h : s.fleet.isHolding name = true) (e : Event) :
    (s.dispatchEvent e).journal.passedFor name = s.journal.passedFor name := by
  have hholding : s.sweep.fleet.isHolding name = true :=
    (congrArg (fun k => k.backlog.isHolding name) (handshake_sweep s)).trans h
  rw [(discreet_broadcast_dispatchEvent e s).passedFor name]
  unfold broadcast
  dsimp only
  rw [(discreet_evict _ _).passedFor name, passedFor_offer_of_silent (.inl hholding),
    (discreet_sweep s).passedFor name]

/-- A dispatch offers the event to the entry of a satellite that nothing is held back for. -/
theorem offered_dispatchEvent {name : String} {s : Scene σ} (hu : s.fleet.roster.Unique)
    (hnot : s.fleet.isHolding name = false) (e : Event) :
    Offered name e s.fleet.roster.entries s (s.dispatchEvent e) := by
  have hoff : s.sweep.fleet.isHolding name = false :=
    (congrArg (fun k => k.backlog.isHolding name) (handshake_sweep s)).trans hnot
  have hswept : (s.sweep.fleet.roster.entries.map Entry.name).Nodup :=
    hu.of_sublist (roster_sweep_sublist s)
  have hafter : Discreet (offer (.event e) s.sweep.fleet.roster.entries s.sweep).2
      (s.dispatchEvent e) :=
    (discreet_evict _ _).trans (discreet_broadcast_dispatchEvent e s)
  have hleads : Leads s (s.dispatchEvent e) := (writes_dispatchEvent e s).leads
  refine (offered_offer hswept hoff e).extend ((discreet_sweep s).passedFor name) hafter
    (fun w hw => (roster_sweep_sublist s).subset hw) fun w hw => ?_
  exact (mem_sweep hw).imp_right fun hdead => hdead.mono hleads

/-! ## Moves -/

/-- How a move can concern what is handed on to windows: it is a flush, or a dispatch of an event or
a command, or it hands nothing on. -/
inductive Passing (s : Scene σ) : Happening → Scene σ → Prop where
  | flushed (name : String) : Passing s (.flushed name) (s.flush name)
  | dispatched (e : Event) : Passing s (.dispatched e) (s.dispatchEvent e)
  | commanded (c : Command) : Passing s (.commanded c) (s.dispatchCommand c)
  | silent (x : Happening) (t : Scene σ) (quiet : x.handsOn = false)
      (passed : t.journal.passed = s.journal.passed) : Passing s x t

/-- A discreet move hands nothing on. -/
theorem Discreet.passing {s t : Scene σ} (h : Discreet s t) {x : Happening}
    (hx : x.handsOn = false) : Passing s x t := .silent x t hx h.passed

/-- Whatever is asked, events are passed on by flushes, calls and dispatches only. -/
theorem passed_perform {r : Request} (hr : r.passesOn = false) (s : Scene σ) :
    (s.perform r).2.journal.passed = s.journal.passed := by
  refine (writes_perform r s).passed fun e he => ?_
  cases r with
  | flush | invoke | dispatchEvent => cases hr
  | openSatellite | forceReopen | activate => exact (Effect.OfOpening.quiet he).2
  | close | closeAll | mainWindowClosed => exact (Effect.OfClosing.isDiscreet he).event
  | register => exact (Effect.OfTelling.isDiscreet (fun _ h => h.1) he).event
  | registerChild | unregisterChild =>
    exact (Effect.OfTelling.isDiscreet (fun _ => False.elim) he).event
  | dispatchCommand c =>
    refine (Effect.OfTelling.isDiscreet (fun m hm => ?_) he).event
    rw [hm]
    rfl
  | expire name generation =>
    cases e with
    | report a => rfl
    | _ => cases he
  | installCalls | updateSession | isOpen | metrics => cases he

/-- Opening is silent, whatever becomes of it. -/
theorem passing_of_opening {r : Request} {s : Scene σ}
    (hpassed : (s.perform r).2.journal.passed = s.journal.passed) :
    Passing s (s.meaningOfOpening r) (s.perform r).2 := by
  refine .silent _ _ ?_ hpassed
  unfold meaningOfOpening
  split <;> rfl

/-- A call hands on events only if it is a flush. -/
theorem passing_invoke (operation : String) (caller : Caller) (s : Scene σ) :
    Passing s (s.meaning (.invoke operation caller)) (s.invoke operation caller).2 := by
  have hserved := served_invoke operation caller s
  generalize s.meaning (.invoke operation caller) = x at hserved ⊢
  generalize (s.invoke operation caller).2 = t at hserved ⊢
  cases hserved with
  | registered w => exact .silent _ _ rfl (passed_perform (r := .register caller.name w) rfl s)
  | flushed => exact .flushed caller.name
  | childOpened | childClosed => exact (discreet_report _ s rfl).passing rfl
  | refused => exact (Discreet.refl s).passing rfl

/-- Only flushes and dispatches hand anything on. -/
theorem passing_perform (r : Request) (s : Scene σ) :
    Passing s (s.meaning r) (s.perform r).2 := by
  cases r with
  | openSatellite | forceReopen => exact passing_of_opening (passed_perform rfl s)
  | flush name => exact .flushed name
  | invoke operation caller => exact passing_invoke operation caller s
  | dispatchEvent e => exact .dispatched e
  | dispatchCommand c => exact .commanded c
  | expire name generation =>
    refine .silent _ _ ?_ (passed_perform rfl s)
    show Happening.handsOn (if (s.expire name generation).1 then _ else _) = false
    split <;> rfl
  | activate | close | closeAll | mainWindowClosed | register | registerChild | unregisterChild |
    installCalls | updateSession | isOpen | metrics => exact .silent _ _ rfl (passed_perform rfl s)

/-- Whatever is asked, and whatever happens to the desktop, concerns in one of these ways what is
handed on. -/
theorem passing_move (m : Move σ) (s : Scene σ) : Passing s (s.happening m) (s.move m) := by
  cases m with
  | request r => exact passing_perform r s
  | shift change => exact .silent _ _ rfl rfl

/-- A move that hands nothing on hands no event to a window. -/
theorem passed_move {m : Move σ} {s : Scene σ} (h : (s.happening m).handsOn = false) :
    (s.move m).journal.passed = s.journal.passed := by
  have hpassing := passing_move m s
  generalize s.happening m = x, s.move m = t at hpassing h
  cases hpassing with
  | flushed | dispatched | commanded => cases h
  | silent _ _ _ hpassed => exact hpassed

/-- An entry stays on the roster until another window registers for its satellite, all satellites
are closed, or its window is found dead. -/
theorem mem_move {s : Scene σ} {d : Entry} (h : d ∈ s.fleet.roster.entries) (m : Move σ)
    (hregistered : ∀ w, s.happening m = .registered d.name w → w = d.window)
    (hclosed : s.happening m ≠ .allClosed) :
    d ∈ (s.move m).fleet.roster.entries ∨ (s.move m).FoundDead d.window := by
  have hturn := s.turn_move m
  have hpassing := passing_move m s
  generalize s.happening m = x, s.move m = t at hturn hpassing hregistered hclosed
  cases hpassing with
  | flushed name =>
    refine .inl ?_
    show d ∈ (s.flush name).handshake.roster.entries
    rw [handshake_flush]
    exact h
  | dispatched e =>
    rcases mem_broadcast h (.event e) with hkept | hdead
    · exact .inl hkept
    · exact .inr (hdead.mono (discreet_broadcast_dispatchEvent e s).toLeads)
  | commanded c =>
    rcases mem_broadcast h (.command c.id) with hkept | hdead
    · exact .inl hkept
    · exact .inr hdead
  | silent _ _ quiet _ =>
    refine .inl ?_
    show d ∈ t.handshake.roster.entries
    generalize t.handshake = k at hturn
    cases hturn with
    | registered name w =>
      by_cases hname : d.name = name
      · subst hname
        rw [hregistered w rfl]
        exact Roster.mem_upsert_self d _
      · exact Roster.mem_upsert_of_name_ne h hname
    | allClosed => exact absurd rfl hclosed
    | dispatched | commanded | flushed => cases quiet
    | opened | closed | expired | idle | lapsed => exact h

end Scene

end SatelliteWindows
