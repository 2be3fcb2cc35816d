import Mathlib.Algebra.GroupWithZero.Nat
import SatelliteWindows.Proofs.Delivery
import SatelliteWindows.Simulation

/-!
# One round of a broadcast

While a message goes round, any window may die: by itself, or because another window was handed the
message. So the entries of a roster fare differently depending on when their windows die and on
whether their satellites are starting up. This module says what a round is in terms of the desktop
alone, finds the round that a broadcast makes, and says from it exactly what a broadcast leaves
behind: on the roster, in the counts and in the journal.
-/

namespace SatelliteWindows

/-- What becomes of an entry when its turn comes. -/
inductive Lot where
  /-- The satellite is starting up; nobody looks at the window. -/
  | passedOver
  /-- The window was found dead. -/
  | dead
  /-- The message was handed to the window, which may not have taken it. -/
  | handed (fault : Option Fault)
  deriving DecidableEq

namespace Lot

/-- What is written down of a turn. -/
def effects (m : Message) (e : Entry) : Lot → List Effect
  | handed fault => .delivery e.name e.window m fault ::
      fault.toList.map fun f => .report (.deliveryFailed e.name m.operation f.message)
  | _ => []

/-- How many messages were not taken in a turn. -/
def failures : Lot → Nat
  | handed fault => fault.toList.length
  | _ => 0

end Lot

/-- A message goes round the entries of a roster. Before each turn a moment passes, and the desktop
on which a turn finds its window is the one that the turns before it have left. -/
inductive Round {σ : Type} [Desktop σ] (holding : String → Bool) (m : Message) :
    List Entry → σ → List (Entry × Lot) → σ → Prop where
  /-- Every entry has had its turn. -/
  | nil (a : σ) : Round holding m [] a [] a
  /-- The satellite is starting up. -/
  | passedOver {e : Entry} {rest : List Entry} {a b : σ} {lots : List (Entry × Lot)}
      (held : holding e.name = true) (later : Round holding m rest (Desktop.elapse a) lots b) :
      Round holding m (e :: rest) a ((e, .passedOver) :: lots) b
  /-- The window is dead when its turn comes. -/
  | dead {e : Entry} {rest : List Entry} {a b : σ} {lots : List (Entry × Lot)}
      (free : holding e.name = false) (gone : Desktop.isAlive (Desktop.elapse a) e.window = false)
      (later : Round holding m rest (Desktop.elapse a) lots b) :
      Round holding m (e :: rest) a ((e, .dead) :: lots) b
  /-- The window is alive when its turn comes. -/
  | handed {e : Entry} {rest : List Entry} {a b : σ} {lots : List (Entry × Lot)}
      (free : holding e.name = false) (alive : Desktop.isAlive (Desktop.elapse a) e.window = true)
      (later : Round holding m rest (Desktop.deliver e.window m (Desktop.elapse a)).2 lots b) :
      Round holding m (e :: rest) a
        ((e, .handed (Desktop.deliver e.window m (Desktop.elapse a)).1) :: lots) b

namespace Round

/-- The entries that were found dead. -/
def found (lots : List (Entry × Lot)) : List Entry :=
  (lots.filter fun x => x.2 = .dead).map Prod.fst

/-- The entries that were not found dead. -/
def spared (lots : List (Entry × Lot)) : List Entry :=
  (lots.filter fun x => ¬ x.2 = .dead).map Prod.fst

/-- What is written down of a round. -/
def effects (m : Message) (lots : List (Entry × Lot)) : Journal :=
  lots.flatMap fun x => x.2.effects m x.1

/-- How many messages were not taken in a round. -/
def failures (lots : List (Entry × Lot)) : Nat := (lots.map fun x => x.2.failures).sum

variable {σ : Type} [Desktop σ] {holding : String → Bool} {m : Message} {l : List Entry} {a b : σ}
  {lots : List (Entry × Lot)}

/-- Every entry has one turn, in the order of the roster. -/
theorem entries (h : Round holding m l a lots b) : lots.map Prod.fst = l := by
  induction h with
  | nil a => rfl
  | passedOver _ _ ih | dead _ _ _ ih | handed _ _ _ ih => exact congrArg (_ :: ·) ih

/-- Exactly the satellites that are starting up are passed over. -/
theorem passedOver_iff (h : Round holding m l a lots b) {x : Entry × Lot} (hx : x ∈ lots) :
    x.2 = .passedOver ↔ holding x.1.name = true := by
  induction h with
  | nil a => cases hx
  | passedOver held _ ih =>
    rcases List.mem_cons.mp hx with rfl | hx
    · simp [held]
    · exact ih hx
  | dead free _ _ ih | handed free _ _ ih =>
    rcases List.mem_cons.mp hx with rfl | hx
    · simp [free]
    · exact ih hx

/-- Where no entry occurs twice, taking the dead ones off leaves the others. -/
theorem filter_not_mem_found (h : Round holding m l a lots b) (hl : l.Nodup) :
    l.filter (fun e => decide (e ∉ found lots)) = spared lots := by
  have hsame : ∀ x ∈ lots, x.1 ∈ found lots ↔ x.2 = .dead := by
    intro x hx
    rw [← h.entries] at hl
    constructor
    · intro hfound
      obtain ⟨y, hy, hyx⟩ := List.mem_map.mp hfound
      obtain ⟨hy, hdead⟩ := List.mem_filter.mp hy
      rw [← List.inj_on_of_nodup_map hl hy hx hyx]
      exact of_decide_eq_true hdead
    · exact fun hdead => List.mem_map.mpr
        ⟨x, List.mem_filter.mpr ⟨hx, decide_eq_true hdead⟩, rfl⟩
  rw [← h.entries, List.filter_map]
  refine congrArg (List.map Prod.fst) (List.filter_congr fun x hx => ?_)
  simp [hsame x hx]

end Round

namespace Scene

variable {σ : Type}

/-! ## What single steps leave behind -/

/-- The reports that entries were dropped. -/
def evictions (dead : List Entry) : Journal := dead.map fun e => .report (.evicted e.name)

/-- What is changed by reporting entries as dropped. -/
theorem reportEvicted_eq (dead : List Entry) (s : Scene σ) :
    s.reportEvicted dead =
      { s with
        fleet := { s.fleet with
          tally := { s.fleet.tally with
            deadEvicted := s.fleet.tally.deadEvicted + dead.length } }
        journal := s.journal ++ evictions dead } := by
  induction dead generalizing s with
  | nil => simp [reportEvicted, evictions]
  | cons e rest ih =>
    refine (ih _).trans ?_
    simp [count, alter, report, record, evictions, Nat.add_assoc, Nat.add_comm 1]

variable [Desktop σ]

/-- A message that is handed to a window is written down; where it is not taken, that is counted and
reported. -/
theorem deliver_eq (name : String) (w : WindowId) (m : Message) (s : Scene σ) :
    s.deliver name w m =
      let lot := Lot.handed (Desktop.deliver w m s.world).1
      { fleet := { s.fleet with
          tally := { s.fleet.tally with
            deliveriesFailed := s.fleet.tally.deliveriesFailed + lot.failures } }
        world := (Desktop.deliver w m s.world).2
        journal := s.journal ++ lot.effects m ⟨name, w⟩ } := by
  unfold deliver
  cases Desktop.deliver w m s.world with
  | mk fault world =>
    cases fault <;> simp [count, alter, report, record, Lot.effects, Lot.failures]

/-- What a round leaves behind. -/
structure WentRound (m : Message) (l : List Entry) (s t : Scene σ) (lots : List (Entry × Lot)) :
    Prop where
  /-- The message went round the entries. -/
  round : Round s.fleet.isHolding m l s.world lots t.world
  /-- The deliveries are written down. -/
  journal : t.journal = s.journal ++ Round.effects m lots
  /-- Those that failed are counted, and nothing else is remembered. -/
  fleet : t.fleet = { s.fleet with
    tally := { s.fleet.tally with
      deliveriesFailed := s.fleet.tally.deliveriesFailed + Round.failures lots } }

/-- A message that is offered goes round, and the entries that are returned are the ones that were
found dead. -/
theorem wentRound_offer (m : Message) (l : List Entry) (s : Scene σ) :
    ∃ lots, WentRound m l s (offer m l s).2 lots ∧ (offer m l s).1 = Round.found lots := by
  induction l generalizing s with
  | nil =>
    refine ⟨[], ⟨.nil s.world, (List.append_nil _).symm, rfl⟩, rfl⟩
  | cons e rest ih =>
    unfold offer
    dsimp only
    cases hheld : s.elapse.fleet.isHolding e.name with
    | true =>
      rw [if_pos rfl]
      obtain ⟨lots, ⟨hround, hjournal, hfleet⟩, hfound⟩ := ih s.elapse
      refine ⟨(e, .passedOver) :: lots, ⟨.passedOver hheld hround, hjournal, ?_⟩, hfound⟩
      rw [hfleet]
      simp [Round.failures, Lot.failures, elapse]
    | false =>
      rw [if_neg Bool.false_ne_true]
      cases halive : s.elapse.isAlive e.window with
      | true =>
        rw [if_pos rfl]
        obtain ⟨lots, ⟨hround, hjournal, hfleet⟩, hfound⟩ :=
          ih (s.elapse.deliver e.name e.window m)
        rw [deliver_eq] at hround hjournal hfleet hfound ⊢
        refine ⟨_ :: lots, ⟨.handed hheld halive hround, ?_, ?_⟩, hfound⟩
        · rw [hjournal]
          simp [Round.effects, elapse]
        · rw [hfleet]
          simp [Round.failures, elapse, Nat.add_assoc]
      | false =>
        rw [if_neg Bool.false_ne_true]
        obtain ⟨lots, ⟨hround, hjournal, hfleet⟩, hfound⟩ := ih s.elapse
        refine ⟨(e, .dead) :: lots, ⟨.dead hheld halive hround, hjournal, ?_⟩, ?_⟩
        · exact hfleet.trans (by simp [Round.failures, Lot.failures, elapse])
        · exact congrArg (e :: ·) hfound

/-! ## What a broadcast leaves behind -/

/-- The entries of windows that are dead at the moment. -/
def deadEntries (s : Scene σ) : List Entry :=
  s.fleet.roster.entries.filter fun e => !s.isAlive e.window

/-- The entries of windows that are alive at the moment. -/
def liveEntries (s : Scene σ) : List Entry :=
  s.fleet.roster.entries.filter fun e => s.isAlive e.window

/-- A broadcast goes round the entries that survive the sweep. What it leaves on the roster are the
entries that were not found dead by then; all others are counted and reported. -/
structure Announced (m : Message) (s t : Scene σ) (lots : List (Entry × Lot)) : Prop where
  /-- The message went round the entries that were alive at first. -/
  round : Round s.fleet.isHolding m s.liveEntries s.world lots t.world
  /-- What was done, in order. -/
  journal : t.journal = s.journal ++ evictions s.deadEntries ++ Round.effects m lots ++
    evictions (Round.found lots)
  /-- What is remembered. -/
  fleet : t.fleet = { s.fleet with
    roster := ⟨Round.spared lots⟩
    tally := { s.fleet.tally with
      deadEvicted :=
        s.fleet.tally.deadEvicted + s.deadEntries.length + (Round.found lots).length
      deliveriesFailed := s.fleet.tally.deliveriesFailed + Round.failures lots } }

/-- What is changed by sweeping. -/
theorem sweep_eq (s : Scene σ) :
    s.sweep = { s with
      fleet := { s.fleet with
        roster := ⟨s.liveEntries⟩
        tally := { s.fleet.tally with
          deadEvicted := s.fleet.tally.deadEvicted + s.deadEntries.length } }
      journal := s.journal ++ evictions s.deadEntries } :=
  reportEvicted_eq _ _

/-- What a broadcast comes to, as a round. -/
theorem announced_broadcast {s : Scene σ} (hu : s.fleet.roster.Unique) (m : Message) :
    ∃ lots, Announced m s (s.broadcast m) lots := by
  obtain ⟨lots, ⟨hround, hjournal, hfleet⟩, hfound⟩ :=
    wentRound_offer m s.sweep.fleet.roster.entries s.sweep
  have hentries : s.sweep.fleet.roster.entries = s.liveEntries := by rw [sweep_eq]
  have hlive : s.liveEntries.Nodup :=
    (List.Nodup.of_map Entry.name hu).sublist List.filter_sublist
  have hbroadcast : s.broadcast m = (offer m s.sweep.fleet.roster.entries s.sweep).2.evict
      (offer m s.sweep.fleet.roster.entries s.sweep).1 := rfl
  rw [hbroadcast, hfound]
  generalize (offer m s.sweep.fleet.roster.entries s.sweep).2 = t at hround hjournal hfleet
  rw [hentries] at hround
  rw [sweep_eq] at hround hjournal hfleet
  have hspared := hround.filter_not_mem_found hlive
  refine ⟨lots, ?_, ?_, ?_⟩
  · unfold evict
    rw [reportEvicted_eq]
    exact hround
  · unfold evict
    rw [reportEvicted_eq]
    dsimp only [alter]
    rw [hjournal]
  · unfold evict
    rw [reportEvicted_eq]
    dsimp only [alter, Roster.removeEntries]
    rw [hfleet]
    dsimp only
    rw [hspared]

/-! ## Dispatches of events -/

/-- What the dispatch of an event leaves behind. -/
structure Dispatched (e : Event) (s t : Scene σ) (lots : List (Entry × Lot)) : Prop where
  /-- The event went round the entries that were alive at first, in the order of the roster. -/
  round : Round s.fleet.isHolding (.event e) s.liveEntries s.world lots t.world
  /-- What was done, in order: entries of dead windows were dropped, the event was handed to every
  entry that had its turn alive, and entries found dead were dropped. -/
  journal : t.journal = s.journal ++ evictions s.deadEntries ++ Round.effects (.event e) lots ++
    evictions (Round.found lots)
  /-- The entries that are left are those that were not found dead, in their order. -/
  roster : t.fleet.roster.entries = Round.spared lots
  /-- The event was put at the end of every queue. -/
  queue : ∀ name, t.fleet.backlog.queue? name =
    (s.fleet.backlog.queue? name).map (· ++ [e])
  /-- No satellite that the event was handed to has a queue. -/
  once : ∀ d f, (d, Lot.handed f) ∈ lots → t.fleet.backlog.queue? d.name = none
  /-- What was counted. -/
  tally : t.fleet.tally = { s.fleet.tally with
    eventsDispatched := s.fleet.tally.eventsDispatched + 1
    eventsBuffered := s.fleet.tally.eventsBuffered + s.fleet.backlog.size
    deadEvicted := s.fleet.tally.deadEvicted + s.deadEntries.length + (Round.found lots).length
    deliveriesFailed := s.fleet.tally.deliveriesFailed + Round.failures lots }
  /-- Nothing else is remembered. -/
  others : t.fleet = { s.fleet with
    roster := t.fleet.roster
    backlog := t.fleet.backlog
    tally := t.fleet.tally }

/-- An event that was broadcast is held back afterwards for all who are awaited. -/
theorem Announced.dispatched {e : Event} {s : Scene σ} {lots : List (Entry × Lot)}
    (h : Announced (.event e) s (s.broadcast (.event e)) lots) :
    Dispatched e s (s.dispatchEvent e) lots := by
  have hafter : s.dispatchEvent e =
      ((s.broadcast (.event e)).count fun t => { t with
        eventsDispatched := t.eventsDispatched + 1
        eventsBuffered :=
          t.eventsBuffered + (s.broadcast (.event e)).fleet.backlog.size }).alter
        fun f => { f with backlog := f.backlog.enqueueAll e } := rfl
  rw [hafter]
  generalize s.broadcast (.event e) = t at h
  obtain ⟨hround, hjournal, hfleet⟩ := h
  have hqueue : ∀ name, (t.fleet.backlog.enqueueAll e).queue? name =
      (s.fleet.backlog.queue? name).map (· ++ [e]) := by
    intro name
    rw [Backlog.queue?_enqueueAll, hfleet]
  refine ⟨hround, hjournal, ?_, hqueue, ?_, ?_, ?_⟩
  · show t.fleet.roster.entries = _
    rw [hfleet]
  · intro d f hd
    have hnot : s.fleet.isHolding d.name = false := by
      by_contra hheld
      have hpassed := (hround.passedOver_iff hd).mpr (by simpa using hheld)
      cases hpassed
    show (t.fleet.backlog.enqueueAll e).queue? d.name = none
    rw [hqueue, Backlog.queue?_eq_none hnot]
    rfl
  · dsimp only [count, alter]
    rw [hfleet]
  · dsimp only [count, alter]
    rw [hfleet]

/-- In whatever state a run has led to and whichever windows die meanwhile, the dispatch of an event
makes one round: the entries that are dead at first are dropped, then each has one turn. Where
events are held back for its satellite, the event joins the queue and nobody looks at the window;
where the window is dead by then, the entry is dropped; and otherwise the event is handed to the
window, and the entry stays whether or not it was taken. -/
theorem dispatchEvent_makes_round (role : Role) (platform : Platform) (session : Payload)
    (world : σ) (moves : List (Move σ)) (e : Event) :
    let s := (start role platform session world).run moves
    ∃ lots, Dispatched e s (s.dispatchEvent e) lots := by
  intro s
  obtain ⟨lots, hlots⟩ :=
    announced_broadcast (unique_run role platform session world moves) (.event e)
  exact ⟨lots, hlots.dispatched⟩

/-- The window of the first satellite takes that of the second with it before its turn; the third
refuses the event, and the fourth is starting up. -/
example :
    let desktop : Simulation :=
      { screen := ⟨1280, 800⟩
        windows := [{ name := "a", geometry := default, kills := [1] },
          { name := "b", geometry := default },
          { name := "c", geometry := default, failing := true }] }
    let s := (start .main .nativeShell .null desktop).run
      [.request (.register "a" 0), .request (.register "b" 1), .request (.register "c" 2),
        .request (.openSatellite "d" none ⟨400, 300⟩)]
    let t := s.dispatchEvent ⟨"tick", .null⟩
    t.fleet.roster.names = ["a", "c"] ∧ t.fleet.backlog.held "d" = [⟨"tick", .null⟩] ∧
      t.fleet.tally.deadEvicted = 1 ∧ t.fleet.tally.eventsBuffered = 1 := by
  decide +kernel

end Scene

end SatelliteWindows
