import SatelliteWindows.Proofs.Books
import SatelliteWindows.Proofs.Standing

/-!
# Metrics tell what was done

Every request enters in the books what it does. Over a run, then, the counts are those of what the
journal says: windows asked for, windows brought to the front, messages not taken, entries dropped
and openings given up, each reported as often as it happened. Two counts are about what is held back
when something is dispatched, and the entries reported as dropped are those that left the roster in
a broadcast, no more and no fewer, because no entry is on the roster twice.
-/

namespace SatelliteWindows

/-- The counts of what is written down. -/
def Tally.written (t : Tally) : Tally where
  opensRequested := t.opensRequested
  reactivations := t.reactivations
  deliveriesFailed := t.deliveriesFailed
  deadEvicted := t.deadEvicted
  openTimeouts := t.openTimeouts

/-- Counts of what is written down add up. -/
theorem Tally.written_add (a b : Tally) : (a + b).written = a.written + b.written := rfl

namespace Happening

/-- What a request costs by its meaning is not written down. -/
theorem written_charge (x : Happening) (h : Handshake) : (x.charge h).written = {} := by
  cases x <;> rfl

/-- How many events that were held back are passed on. -/
def passedOn (h : Handshake) : Happening → Nat
  | flushed name => h.backlog.count name
  | _ => 0

/-- The number that an opening took. -/
def generation? : Happening → Option Nat
  | opened _ generation => some generation
  | _ => none

/-- A happening that neither passes anything on nor is sent to all satellites. -/
def isQuiet : Happening → Bool
  | flushed _ | dispatched _ | commanded _ => false
  | _ => true

/-- A quiet request costs nothing by its meaning. -/
theorem charge_of_isQuiet {x : Happening} (hx : x.isQuiet = true) (h : Handshake) :
    x.charge h = {} := by
  cases x with
  | flushed | dispatched | commanded => cases hx
  | _ => rfl

/-- A quiet request passes nothing on. -/
theorem passedOn_of_isQuiet {x : Happening} (hx : x.isQuiet = true) (h : Handshake) :
    x.passedOn h = 0 := by
  cases x with
  | flushed | dispatched | commanded => cases hx
  | _ => rfl

/-- A quiet request broadcasts nothing. -/
theorem broadcasts_of_isQuiet {x : Happening} (hx : x.isQuiet = true) : x.broadcasts = false := by
  cases x with
  | flushed | dispatched | commanded => cases hx
  | _ => rfl

end Happening

/-- The numbers of a history's openings are those that follow the number of the opening before. -/
theorem Course.generations {h k : Handshake} {hs : List Happening} (course : Course h hs k) :
    ∃ n, k.generation = h.generation + n ∧
      hs.filterMap Happening.generation? = List.range' (h.generation + 1) n := by
  induction course with
  | nil => exact ⟨0, rfl, rfl⟩
  | next _ turn ih =>
    obtain ⟨n, hn, hnumbers⟩ := ih
    rw [List.filterMap_append, hnumbers]
    cases turn with
    | opened name =>
      refine ⟨n + 1, ?_, ?_⟩
      · simp only [Handshake.expect, hn, Nat.add_assoc]
      · rw [List.range'_1_concat, hn]
        simp [Happening.generation?, Nat.add_right_comm]
    | _ => exact ⟨n, hn, List.append_nil _⟩

namespace Scene

open Journal

variable {σ : Type} [Desktop σ]

/-- The entries that leave the roster when something is sent to all satellites. -/
def departed (m : Move σ) (s : Scene σ) : List Entry :=
  if (s.happening m).broadcasts then
    s.fleet.roster.entries.filter fun e => decide (e ∉ (s.move m).fleet.roster.entries)
  else []

/-- For how many satellites that are starting up a command is lost. -/
def missed (m : Move σ) (s : Scene σ) : Nat :=
  match s.happening m with
  | .commanded _ => s.fleet.backlog.size
  | _ => 0

/-- What is added to the count of dropped commands is what was missed. -/
theorem commandsDropped_charge (m : Move σ) (s : Scene σ) :
    ((s.happening m).charge s.handshake).commandsDropped = s.missed m := by
  unfold missed
  cases s.happening m <;> rfl

/-- No move brings a satellite on the roster twice. -/
theorem unique_move {s : Scene σ} (hu : s.fleet.roster.Unique) (m : Move σ) :
    (s.move m).fleet.roster.Unique := (s.turn_move m).unique hu

/-! ## What a move enters in the books -/

/-- What a move adds to the journal, and what of it is counted and reported. -/
structure Accounted (m : Move σ) (s : Scene σ) (news : Journal) : Prop where
  /-- What is written down. -/
  journal : (s.move m).journal = s.journal ++ news
  /-- What is counted. -/
  tally : (s.move m).fleet.tally =
    s.fleet.tally + Journal.tally news + (s.happening m).charge s.handshake
  /-- The numbers that windows that are asked for take. -/
  generation : (s.move m).fleet.generation = s.fleet.generation + news.openRequests.length
  /-- What has to be reported is reported. -/
  tellsAll : news.TellsAll
  /-- Events that were held back and are passed on. -/
  flushed : ((news.reported Activity.flushed?).map Prod.snd).sum =
    (s.happening m).passedOn s.handshake
  /-- Entries that leave the roster in a broadcast. -/
  evicted : (news.reported Activity.evicted?).Perm ((s.departed m).map Entry.name)

/-- A move that is quiet enters what is written down of it. -/
theorem accounted_of_isQuiet {m : Move σ} {s : Scene σ} (hquiet : (s.happening m).isQuiet = true)
    (h : ∃ news : Journal, Entered news s (s.move m) ∧ news.Plain) :
    ∃ news, Accounted m s news := by
  obtain ⟨news, hentered, hplain⟩ := h
  refine ⟨news, hentered.journal, ?_, hentered.generation, hentered.tellsAll, ?_, ?_⟩
  · rw [Happening.charge_of_isQuiet hquiet, Tally.add_zero]
    exact hentered.tally
  · rw [hplain.flushed, Happening.passedOn_of_isQuiet hquiet]
    rfl
  · rw [hplain.evicted, departed, Happening.broadcasts_of_isQuiet hquiet]
    exact .refl []

/-- What an opening means has to do with windows only. -/
theorem isQuiet_meaningOfOpening (r : Request) (s : Scene σ) :
    (s.meaningOfOpening r).isQuiet = true := by
  unfold meaningOfOpening
  split <;> rfl

/-- A window is asked for once everything that is routine has been done. -/
theorem Routine.openAnew {s t : Scene σ} (h : Routine s t) (name : String)
    (params : Option Payload) (placement : Placement) :
    ∃ news : Journal, Entered news s (t.openAnew name params placement).2 ∧ news.Plain := by
  obtain ⟨⟨a, ha, hplain⟩, -⟩ := h
  obtain ⟨b, hb, hplain'⟩ := entered_openAnew name params placement t
  exact ⟨a ++ b, ha.trans hb, hplain.append hplain'⟩

/-- Opening a satellite is entered in the books. -/
theorem entered_openPlaced (name : String) (params : Option Payload) (placement : Placement)
    (s : Scene σ) :
    ∃ news : Journal, Entered news s (s.openPlaced name params placement).2 ∧ news.Plain := by
  rcases openPlaced_routine name params placement s with ⟨-, hroutine⟩ | ⟨t, -, hroutine, heq⟩
  · exact hroutine.entered
  · rw [heq]
    exact hroutine.openAnew name params placement

/-- Forcing a satellite open again is entered in the books. -/
theorem entered_forceReopen (name : String) (params : Option Payload) (s : Scene σ) :
    ∃ news : Journal, Entered news s (s.forceReopen name params).2 ∧ news.Plain := by
  rcases forceReopen_routine name params s with ⟨-, hroutine⟩ | ⟨t, placement, -, hroutine, heq⟩
  · exact hroutine.entered
  · rw [heq]
    exact hroutine.openAnew name params placement

/-- What was held back is entered as passed on, whether or not a call asked for it. -/
theorem accounted_of_flush {m : Move σ} {s : Scene σ} {name : String}
    (hhappening : s.happening m = .flushed name) (hmove : s.move m = s.flush name) :
    ∃ news, Accounted m s news := by
  obtain ⟨⟨news, hentered, hflushed, hevicted⟩, -⟩ := entered_flush name s
  rw [← hmove] at hentered
  refine ⟨news, hentered.journal, ?_, hentered.generation, hentered.tellsAll, ?_, ?_⟩
  · rw [hhappening]
    exact hentered.tally
  · rw [hhappening, hflushed]
    exact sum_flushReport name s
  · rw [hevicted, departed, hhappening]
    exact .refl []

/-- Where no entry occurs twice, a broadcast takes off exactly the entries that it reports. -/
theorem Announced.departed {m : Message} {s t : Scene σ} {lots : List (Entry × Lot)}
    (hu : s.fleet.roster.Unique) (h : Announced m s t lots) :
    (s.deadEntries ++ Round.found lots).Perm
      (s.fleet.roster.entries.filter fun e => decide (e ∉ t.fleet.roster.entries)) := by
  have hentries : s.fleet.roster.entries.Nodup := List.Nodup.of_map Entry.name hu
  have hlive : s.liveEntries.Nodup := hentries.sublist List.filter_sublist
  have hfound : (Round.found lots).Sublist s.liveEntries := by
    rw [← h.round.entries]
    exact List.filter_sublist.map Prod.fst
  have hleft : t.fleet.roster.entries = Round.spared lots := by rw [h.fleet]
  rw [hleft, ← h.round.filter_not_mem_found hlive]
  -- neither list has duplicates, so it is enough that they have the same members
  refine (List.perm_ext_iff_of_nodup ?_ (hentries.sublist List.filter_sublist)).mpr fun e => ?_
  · refine List.nodup_append.mpr
      ⟨hentries.sublist List.filter_sublist, hlive.sublist hfound, fun d hd e he heq => ?_⟩
    have hdead := (List.mem_filter.mp hd).2
    have halive := (List.mem_filter.mp (hfound.subset he)).2
    rw [heq, halive] at hdead
    cases hdead
  · have hsub : e ∈ Round.found lots → e ∈ s.liveEntries := fun he => hfound.subset he
    simp only [List.mem_append, List.mem_filter, deadEntries, liveEntries,
      decide_eq_true_eq] at hsub ⊢
    cases s.isAlive e.window <;> by_cases he : e ∈ Round.found lots <;> simp_all

/-- A dispatch is entered as what its broadcast is entered as, and charged for. -/
theorem accounted_of_broadcast {m : Move σ} {s : Scene σ} {message : Message}
    (hu : s.fleet.roster.Unique) (hbroadcasts : (s.happening m).broadcasts = true)
    (hpassed : (s.happening m).passedOn s.handshake = 0)
    (hcharged : Charged (s.happening m) (s.broadcast message) (s.move m)) :
    ∃ news, Accounted m s news := by
  obtain ⟨lots, hlots⟩ := announced_broadcast hu message
  obtain ⟨news, hentered, hflushed, hevicted⟩ := hlots.entered
  have hcharge : (s.happening m).charge (s.broadcast message).handshake =
      (s.happening m).charge s.handshake := by
    rw [handshake_broadcast]
    cases s.happening m <;> rfl
  refine ⟨news, hcharged.journal.trans hentered.journal, ?_,
    hcharged.generation.trans hentered.generation, hentered.tellsAll, ?_, ?_⟩
  · rw [hcharged.tally, hentered.tally, hcharge]
  · rw [hflushed, hpassed]
    rfl
  · rw [hevicted, departed, hbroadcasts, if_pos rfl, hcharged.roster]
    exact (hlots.departed hu).map Entry.name

/-- How a move is entered in the books: as something quiet, as a flush, or as a broadcast that is
charged for. -/
inductive Enters (m : Move σ) (s : Scene σ) : Prop where
  /-- Nothing is passed on and no entries are dropped. -/
  | quiet (means : (s.happening m).isQuiet = true)
      (news : ∃ news : Journal, Entered news s (s.move m) ∧ news.Plain)
  /-- What was held back is passed on. -/
  | flushed (name : String) (means : s.happening m = .flushed name)
      (does : s.move m = s.flush name)
  /-- Something is sent to all satellites. -/
  | broadcast (message : Message) (means : (s.happening m).broadcasts = true)
      (passed : (s.happening m).passedOn s.handshake = 0)
      (charged : Charged (s.happening m) (s.broadcast message) (s.move m))

/-- Calls are entered as what the operations of their names are entered as. -/
theorem enters_invoke (operation : String) (caller : Caller) (s : Scene σ) :
    Enters (.request (.invoke operation caller)) s := by
  have hserved := served_invoke operation caller s
  generalize hmeaning : s.meaning (.invoke operation caller) = x at hserved
  generalize hafter : (s.invoke operation caller).2 = t at hserved
  have hquiet : x.isQuiet = true → Routine s t →
      Enters (.request (.invoke operation caller)) s := by
    intro hx hroutine
    rw [← hafter] at hroutine
    exact .quiet ((congrArg Happening.isQuiet hmeaning).trans hx) hroutine.entered
  cases hserved with
  | registered w => exact hquiet rfl (routine_register caller.name w s)
  | flushed => exact .flushed caller.name hmeaning hafter
  | childOpened | childClosed => exact hquiet rfl (routine_report rfl s)
  | refused => exact hquiet rfl (.refl s)

/-- Whatever is asked, and whatever happens to the desktop, is entered in the books. -/
theorem enters_move (m : Move σ) (s : Scene σ) : Enters m s := by
  cases m with
  | shift change => exact .quiet rfl ⟨[], entered_nil rfl rfl rfl, ⟨rfl, rfl⟩⟩
  | request r =>
    cases r with
    | openSatellite name params preferred =>
      exact .quiet (isQuiet_meaningOfOpening _ s) (entered_openPlaced name params _ s)
    | forceReopen name params =>
      exact .quiet (isQuiet_meaningOfOpening _ s) (entered_forceReopen name params s)
    | activate name => exact .quiet rfl (routine_activate name s).entered
    | close name => exact .quiet rfl (routine_closeSatellite name s).entered
    | closeAll => exact .quiet rfl (routine_closeAll s).entered
    | mainWindowClosed => exact .quiet rfl (routine_closeAll s).entered
    | register name w => exact .quiet rfl (routine_register name w s).entered
    | flush name => exact .flushed name rfl rfl
    | registerChild name w => exact .quiet rfl (routine_report rfl s).entered
    | unregisterChild windowName => exact .quiet rfl (routine_report rfl s).entered
    | installCalls => exact .quiet rfl ⟨[], entered_nil rfl rfl rfl, ⟨rfl, rfl⟩⟩
    | invoke operation caller => exact enters_invoke operation caller s
    | dispatchEvent e => exact .broadcast (.event e) rfl rfl (charged_dispatchEvent e s)
    | dispatchCommand c => exact .broadcast (.command c.id) rfl rfl (charged_dispatchCommand c s)
    | updateSession snapshot => exact .quiet rfl ⟨[], entered_nil rfl rfl rfl, ⟨rfl, rfl⟩⟩
    | expire name generation =>
      refine .quiet ?_ (routine_expire name generation s).entered
      simp only [happening, meaning]
      split <;> rfl
    | isOpen name => exact .quiet rfl (Routine.refl s).entered
    | metrics => exact .quiet rfl (Routine.refl s).entered

/-- Every move enters in the books what it does. -/
theorem accounted_move {s : Scene σ} (hu : s.fleet.roster.Unique) (m : Move σ) :
    ∃ news, Accounted m s news := by
  cases enters_move m s with
  | quiet hquiet hnews => exact accounted_of_isQuiet hquiet hnews
  | flushed name hmeans hdoes => exact accounted_of_flush hmeans hdoes
  | broadcast message hmeans hpassed hcharged =>
    exact accounted_of_broadcast hu hmeans hpassed hcharged

/-! ## What a run enters in the books -/

/-- What the moves of a run add to the journal, and what of it is counted and reported. -/
structure RunAccounted (moves : List (Move σ)) (s : Scene σ) (news : Journal) : Prop where
  /-- What is written down. -/
  journal : (s.run moves).journal = s.journal ++ news
  /-- What is counted of it. -/
  tally : (s.run moves).fleet.tally.written = s.fleet.tally.written + Journal.tally news
  /-- The numbers that windows that are asked for take. -/
  generation : (s.run moves).fleet.generation = s.fleet.generation + news.openRequests.length
  /-- What has to be reported is reported. -/
  tellsAll : news.TellsAll
  /-- Entries that leave the roster in broadcasts. -/
  evicted : (news.reported Activity.evicted?).Perm
    ((s.along departed moves).flatten.map Entry.name)

/-- Every run is accounted for. -/
theorem accounted_run (moves : List (Move σ)) {s : Scene σ} (hu : s.fleet.roster.Unique) :
    ∃ news, RunAccounted moves s news := by
  induction moves generalizing s with
  | nil => exact ⟨[], (List.append_nil _).symm, rfl, rfl, ⟨rfl, rfl⟩, .refl []⟩
  | cons m rest ih =>
    -- what the first move writes down comes before what the others do
    obtain ⟨first, hfirst⟩ := accounted_move hu m
    obtain ⟨later, hlater⟩ := ih (unique_move hu m)
    have hrun : s.run (m :: rest) = (s.move m).run rest := rfl
    refine ⟨first ++ later, ?_, ?_, ?_, hfirst.tellsAll.append hlater.tellsAll, ?_⟩
    · rw [hrun, hlater.journal, hfirst.journal, List.append_assoc]
    · have hcharged : (s.move m).fleet.tally.written =
          s.fleet.tally.written + Journal.tally first := by
        rw [hfirst.tally, Tally.written_add, Happening.written_charge, Tally.add_zero]
        rfl
      rw [hrun, hlater.tally, hcharged, tally_append, Tally.add_assoc]
    · have hbefore := hfirst.generation
      have hafter := hlater.generation
      rw [hrun, openRequests_append, List.length_append]
      omega
    · rw [reported_append]
      simp only [along, List.flatten_cons, List.map_append]
      exact hfirst.evicted.append hlater.evicted

/-- A count that is not raised by what is written down is raised by what dispatches are
charged for. -/
theorem charged_run (count : Tally → Nat) (hadd : ∀ a b, count (a + b) = count a + count b)
    (hwritten : ∀ j : Journal, count j.tally = 0) (moves : List (Move σ)) {s : Scene σ}
    (hu : s.fleet.roster.Unique) :
    count (s.run moves).fleet.tally = count s.fleet.tally +
      (s.along (fun m t => count ((t.happening m).charge t.handshake)) moves).sum := by
  induction moves generalizing s with
  | nil => rfl
  | cons m rest ih =>
    obtain ⟨news, hnews⟩ := accounted_move hu m
    have hmove : count (s.move m).fleet.tally =
        count s.fleet.tally + count ((s.happening m).charge s.handshake) := by
      rw [hnews.tally, hadd, hadd, hwritten, Nat.add_zero]
    have hrun : s.run (m :: rest) = (s.move m).run rest := rfl
    rw [hrun, ih (unique_move hu m), hmove, along, List.sum_cons, Nat.add_assoc]

/-- Commands are counted as lost once for each satellite that was starting up. -/
theorem commandsDropped_run (moves : List (Move σ)) {s : Scene σ}
    (hu : s.fleet.roster.Unique) :
    (s.run moves).fleet.tally.commandsDropped =
      s.fleet.tally.commandsDropped + (s.along missed moves).sum := by
  have hrun := charged_run Tally.commandsDropped (fun _ _ => rfl) (fun _ => rfl) moves hu
  simp only [commandsDropped_charge] at hrun
  exact hrun

/-! ## Metrics -/

/-- The metrics, the journal and the history of a run agree. -/
structure MetricsAgree (first : Scene σ) (moves : List (Move σ)) (s : Scene σ) : Prop where
  /-- Every window that was asked for is counted. -/
  opensRequested : s.fleet.metrics.tally.opensRequested = s.journal.openRequests.length
  /-- Every window that was asked for is reported, in order, with its satellite and its size. -/
  openings : s.journal.reported Activity.opening? =
    s.journal.openRequests.map fun q => (q.name, q.size.width, q.size.height)
  /-- The last number that was given to an opening is the number of openings. -/
  generation : s.fleet.generation = s.journal.openRequests.length
  /-- Openings took the numbers from one upwards. -/
  generations : (first.history moves).filterMap Happening.generation? =
    List.range' 1 s.journal.openRequests.length
  /-- The number that the next opening is answered with is the next one. -/
  answers : ∀ name params preferred g,
    (s.perform (.openSatellite name params preferred)).1 = .ok (.opening (.opened g)) →
      g = s.journal.openRequests.length + 1
  /-- Every window that was brought to the front is counted and reported. -/
  reactivations : s.fleet.metrics.tally.reactivations =
    (s.journal.reported Activity.reactivated?).length
  /-- Every message that a window did not take is counted. -/
  deliveriesFailed : s.fleet.metrics.tally.deliveriesFailed = s.journal.refusals.length
  /-- Every message that a window did not take is reported, in order, with its satellite, the
  operation that it asked for, and the reason. -/
  refusals : s.journal.reported Activity.deliveryFailed? = s.journal.refusals
  /-- Every entry that is reported as dropped is counted. -/
  deadEvicted : s.fleet.metrics.tally.deadEvicted =
    (s.journal.reported Activity.evicted?).length
  /-- The entries that are reported as dropped are those that left the roster in a broadcast. -/
  departed : (s.journal.reported Activity.evicted?).Perm
    ((first.along departed moves).flatten.map Entry.name)
  /-- Every opening that was given up is counted and reported. -/
  openTimeouts : s.fleet.metrics.tally.openTimeouts = s.journal.timeouts.length
  /-- Every command is counted once for each satellite that it was lost for. -/
  commandsDropped : s.fleet.metrics.tally.commandsDropped = (first.along missed moves).sum
  /-- The satellites that are registered. -/
  active : s.fleet.metrics.active = s.fleet.roster.names.length
  /-- The satellites that are starting up. -/
  buffering : s.fleet.metrics.buffering = s.fleet.backlog.names.length

/-- On every run, whatever fails and whichever windows die, the metrics are those of what was done
and of what was reported. -/
theorem metrics_agree (role : Role) (platform : Platform) (session : Payload) (world : σ)
    (moves : List (Move σ)) :
    let first := start role platform session world
    MetricsAgree first moves (first.run moves) := by
  intro first
  have hu : first.fleet.roster.Unique := Roster.unique_empty
  obtain ⟨news, hnews⟩ := accounted_run moves hu
  have hjournal : news = (first.run moves).journal := hnews.journal.symm
  subst hjournal
  have htally : (first.run moves).fleet.tally.written =
      Journal.tally (first.run moves).journal := by
    rw [hnews.tally]
    exact Tally.zero_add _
  have hgeneration : (first.run moves).fleet.generation =
      (first.run moves).journal.openRequests.length := by
    rw [hnews.generation]
    exact Nat.zero_add _
  have hdropped : (first.run moves).fleet.tally.commandsDropped =
      (first.along missed moves).sum := by
    rw [commandsDropped_run moves hu]
    exact Nat.zero_add _
  have hcourse := Course.of_run moves first
  obtain ⟨n, hn, hnumbers⟩ := hcourse.generations
  have hlast : n = (first.run moves).journal.openRequests.length := by
    rw [← hgeneration]
    exact ((Nat.zero_add n).symm.trans hn.symm)
  rw [hlast] at hnumbers
  have hnext : ∀ name params preferred g, ((first.run moves).perform
      (.openSatellite name params preferred)).1 = .ok (.opening (.opened g)) →
        g = (first.run moves).journal.openRequests.length + 1 := by
    intro name params preferred g hanswer
    have hturn := (first.run moves).turn_perform (.openSatellite name params preferred)
    rw [answer_eq_opened_iff.mp hanswer] at hturn
    rw [← hgeneration]
    exact hturn.generation_opened.1
  have hbuffering : (first.run moves).fleet.backlog.size =
      (first.run moves).fleet.backlog.names.length := by
    rw [Backlog.names, NameMap.sortedNames, List.length_mergeSort]
    exact (List.length_map _).symm
  exact {
    opensRequested := congrArg Tally.opensRequested htally
    openings := hnews.tellsAll.openings
    generation := hgeneration
    generations := hnumbers
    answers := hnext
    reactivations := congrArg Tally.reactivations htally
    deliveriesFailed := congrArg Tally.deliveriesFailed htally
    refusals := hnews.tellsAll.refusals
    deadEvicted := congrArg Tally.deadEvicted htally
    departed := hnews.evicted
    openTimeouts := congrArg Tally.openTimeouts htally
    commandsDropped := hdropped
    active := (List.length_map _).symm
    buffering := hbuffering }

end Scene

/-! ## What is counted is reported -/

/-- What is counted is reported in a journal, each as often as it is counted. -/
structure Journal.Reports (j : Journal) (t : Tally) : Prop where
  /-- Windows that were asked for. -/
  opensRequested : (j.reported Activity.opening?).length = t.opensRequested
  /-- Windows that were brought to the front. -/
  reactivations : (j.reported Activity.reactivated?).length = t.reactivations
  /-- Messages that windows did not take. -/
  deliveriesFailed : (j.reported Activity.deliveryFailed?).length = t.deliveriesFailed
  /-- Entries that were dropped. -/
  deadEvicted : (j.reported Activity.evicted?).length = t.deadEvicted
  /-- Openings that were given up. -/
  openTimeouts : (j.reported Activity.timedOut?).length = t.openTimeouts

variable {σ : Type} [Desktop σ]

/-- What is counted in a run is reported in it. -/
theorem Scene.reports_run {first : Scene σ} (hu : first.fleet.roster.Unique)
    (journal : first.journal = []) (tally : first.fleet.tally = {}) (moves : List (Move σ)) :
    (first.run moves).journal.Reports (first.run moves).fleet.tally := by
  obtain ⟨news, hnews⟩ := Scene.accounted_run moves hu
  have hjournal : (first.run moves).journal = news := by
    rw [hnews.journal, journal, List.nil_append]
  have htally : (first.run moves).fleet.tally.written = Journal.tally news := by
    rw [hnews.tally, tally]
    exact Tally.zero_add _
  rw [hjournal]
  refine ⟨?_, (congrArg Tally.reactivations htally).symm, ?_,
    (congrArg Tally.deadEvicted htally).symm, (congrArg Tally.openTimeouts htally).symm⟩
  · rw [hnews.tellsAll.openings, List.length_map]
    exact (congrArg Tally.opensRequested htally).symm
  · rw [hnews.tellsAll.refusals]
    exact (congrArg Tally.deliveriesFailed htally).symm

end SatelliteWindows
