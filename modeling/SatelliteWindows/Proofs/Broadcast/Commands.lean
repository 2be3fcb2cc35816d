import SatelliteWindows.Proofs.Books.Metrics
import SatelliteWindows.Proofs.Flushing
import SatelliteWindows.Proofs.Isolation.Health

/-!
# Events and commands

Events and commands are announced in the same way. Where the desktop makes no difference between
them, each goes to the same windows in the same order, is taken by the same ones and costs the same
entries. They differ in what is held back: a command joins no queue. So a command is handed out
while it is dispatched or never, and whoever is starting up at that time does not get it later.
-/

namespace SatelliteWindows

/-! ## Desktops that make no difference between messages -/

namespace Desktop

variable {σ : Type} [Desktop σ]

/-- States of a desktop that are alike before one message is handed over in the one and another in
the other are alike afterwards, and both messages are taken or neither is. -/
structure Impartial (m n : Message) (alike : σ → σ → Prop) : Prop where
  /-- The same windows are there. -/
  isAlive : ∀ {a b : σ}, alike a b → ∀ w, Desktop.isAlive a w = Desktop.isAlive b w
  /-- A moment passes. -/
  elapse : ∀ {a b : σ}, alike a b → alike (Desktop.elapse a) (Desktop.elapse b)
  /-- The one message is handed over, or the other. -/
  deliver : ∀ {a b : σ}, alike a b → ∀ w, Desktop.isAlive a w = true →
    (Desktop.deliver w m a).1.isNone = (Desktop.deliver w n b).1.isNone ∧
      alike (Desktop.deliver w m a).2 (Desktop.deliver w n b).2

/-- In a state of a desktop it makes no difference which of two messages is handed over, now or
later. -/
def MakesNoDifference (m n : Message) (a : σ) : Prop :=
  ∃ alike : σ → σ → Prop, Impartial m n alike ∧ alike a a

end Desktop

/-- On a simulated desktop it makes no difference what is handed over as long as no window takes
others with it. -/
theorem Simulation.makesNoDifference {d : Simulation} (hkills : ∀ x ∈ d.windows, x.kills = [])
    (m n : Message) : Desktop.MakesNoDifference m n d := by
  have hharmless : ∀ v, d.victims v = [] := by
    intro v
    unfold victims nature? window?
    cases hv : d.windows[v]? with
    | none => rfl
    | some x => exact hkills x (List.mem_of_getElem? hv)
  let alike (a b : Simulation) : Prop :=
    ∀ v, a.nature? v = b.nature? v ∧ a.victims v = [] ∧ b.victims v = []
  -- nobody dies of a message
  have hkept : ∀ (a : Simulation) (m : Message) (w v : WindowId), a.victims w = [] →
      (a.deliver w m).2.nature? v = a.nature? v := by
    intro a m w v hw
    rw [nature?_deliver, hw]
    simp
  have hvictims : ∀ {a b : Simulation} (v : WindowId), a.nature? v = b.nature? v →
      a.victims v = b.victims v := by
    intro a b v hv
    rw [victims, victims, hv]
  have hhealth : ∀ {a b : Simulation}, alike a b → ∀ v, a.health? v = b.health? v := by
    intro a b halike v
    rw [health?, health?, (halike v).1]
  refine ⟨alike, ⟨fun {a b} halike w => ?_, fun halike => halike, fun {a b} halike w _ => ?_⟩,
    fun v => ⟨rfl, hharmless v, hharmless v⟩⟩
  · have hsame := hhealth halike w
    exact (isAlive_eq a w).trans (hsame ▸ (isAlive_eq b w).symm)
  · have hsame := hhealth halike w
    constructor
    · exact (isNone_deliver a w m).trans (hsame ▸ (isNone_deliver b w n).symm)
    · intro v
      obtain ⟨hnature, ha, hb⟩ := halike v
      have hm := hkept a m w v (halike w).2.1
      have hn := hkept b n w v (halike w).2.2
      exact ⟨hm.trans (hnature.trans hn.symm), (hvictims v hm).trans ha, (hvictims v hn).trans hb⟩

/-- Two turns go the same way, whatever the message and the reason for not taking it. -/
inductive Lot.Matches : Lot → Lot → Prop where
  /-- Nobody looks at the window. -/
  | passedOver : Matches .passedOver .passedOver
  /-- The window is found dead. -/
  | dead : Matches .dead .dead
  /-- Both messages are taken, or neither is. -/
  | handed {f g : Option Fault} (h : f.isNone = g.isNone) : Matches (.handed f) (.handed g)

/-- What there is to say of an attempt besides the message: the satellite, the window and whether
the message was taken. -/
def Attempt.outcome (a : Attempt) : String × WindowId × Bool := (a.name, a.window, a.fault.isNone)

/-- The attempt that is made in a turn, if any. -/
def Lot.attempt? (m : Message) (e : Entry) : Lot → Option Attempt
  | handed fault => some ⟨e.name, e.window, m, fault⟩
  | _ => none

namespace Round

/-- The attempts that are made in a round. -/
def attempts (m : Message) (lots : List (Entry × Lot)) : List Attempt :=
  lots.filterMap fun x => x.2.attempt? m x.1

/-- What is written down of a round has the attempts of its turns. -/
theorem attempts_effects (m : Message) (lots : List (Entry × Lot)) :
    Journal.attempts (effects m lots) = attempts m lots := by
  induction lots with
  | nil => rfl
  | cons x rest ih =>
    obtain ⟨e, lot⟩ := x
    have hrest : Journal.attempts (effects m ((e, lot) :: rest)) =
        Journal.attempts (lot.effects m e) ++ attempts m rest := by
      rw [← ih]
      exact List.filterMap_append
    rw [hrest]
    cases lot with
    | passedOver | dead => rfl
    | handed fault => cases fault <;> rfl

/-- All attempts of a round are at the same message. -/
theorem message_of_mem_attempts {m : Message} {lots : List (Entry × Lot)} {a : Attempt}
    (ha : a ∈ attempts m lots) : a.message = m := by
  obtain ⟨⟨e, lot⟩, -, hlot⟩ := List.mem_filterMap.mp ha
  cases lot with
  | passedOver | dead => cases hlot
  | handed fault =>
    cases hlot
    rfl

/-- Attempts are made for the satellites that have a turn, in the same order. -/
theorem names_attempts_sublist (m : Message) (lots : List (Entry × Lot)) :
    ((attempts m lots).map Attempt.name).Sublist ((lots.map Prod.fst).map Entry.name) := by
  induction lots with
  | nil => exact .slnil
  | cons x rest ih =>
    obtain ⟨e, lot⟩ := x
    cases lot with
    | passedOver | dead => exact ih.cons e.name
    | handed fault => exact ih.cons_cons e.name

/-- Two rounds of turns that go the same way. -/
def Matches (lots more : List (Entry × Lot)) : Prop :=
  List.Forall₂ (fun x y => x.1 = y.1 ∧ Lot.Matches x.2 y.2) lots more

namespace Matches

variable {lots more : List (Entry × Lot)}

/-- In rounds that match the same windows are found dead. -/
theorem found_eq (h : Matches lots more) : found lots = found more := by
  induction h with
  | nil => rfl
  | @cons x y xs ys hxy _ ih =>
    obtain ⟨e, lot⟩ := x
    obtain ⟨d, turn⟩ := y
    obtain ⟨hsame, hmatch⟩ := hxy
    cases hsame
    cases hmatch with
    | passedOver | handed _ => exact ih
    | dead => exact congrArg (e :: ·) ih

/-- In rounds that match the same entries are left. -/
theorem spared_eq (h : Matches lots more) : spared lots = spared more := by
  induction h with
  | nil => rfl
  | @cons x y xs ys hxy _ ih =>
    obtain ⟨e, lot⟩ := x
    obtain ⟨d, turn⟩ := y
    obtain ⟨hsame, hmatch⟩ := hxy
    cases hsame
    cases hmatch with
    | passedOver | handed _ => exact congrArg (e :: ·) ih
    | dead => exact ih

/-- In rounds that match windows take one message if and only if they take the other. -/
theorem outcomes_eq (h : Matches lots more) (m n : Message) :
    (attempts m lots).map Attempt.outcome = (attempts n more).map Attempt.outcome := by
  induction h with
  | nil => rfl
  | @cons x y xs ys hxy _ ih =>
    obtain ⟨e, lot⟩ := x
    obtain ⟨d, turn⟩ := y
    obtain ⟨hsame, hmatch⟩ := hxy
    cases hsame
    cases hmatch with
    | passedOver | dead => exact ih
    | @handed f g htaken =>
      have hfirst : Attempt.outcome ⟨e.name, e.window, m, f⟩ =
          Attempt.outcome ⟨e.name, e.window, n, g⟩ := by
        simp [Attempt.outcome, htaken]
      exact congrArg₂ List.cons hfirst ih

end Matches

variable {σ : Type} [Desktop σ] {holding : String → Bool} {m n : Message} {l : List Entry}

/-- Where two messages make no difference, one goes round as the other does. -/
theorem matches_of_impartial {alike : σ → σ → Prop} (himpartial : Desktop.Impartial m n alike)
    {a b c d : σ} {lots more : List (Entry × Lot)} (h : Round holding m l a lots b)
    (h' : Round holding n l c more d) (halike : alike a c) : Matches lots more := by
  induction h generalizing c more with
  | nil a =>
    cases h'
    exact .nil
  | @passedOver e rest a b lots held _ ih =>
    have hpassed := himpartial.elapse halike
    cases h' with
    | passedOver _ later => exact .cons ⟨rfl, .passedOver⟩ (ih later hpassed)
    | dead free _ _ | handed free _ _ =>
      rw [held] at free
      cases free
  | @dead e rest a b lots free gone _ ih =>
    have hpassed := himpartial.elapse halike
    have hsame := himpartial.isAlive hpassed e.window
    cases h' with
    | passedOver held _ =>
      rw [free] at held
      cases held
    | dead _ _ later => exact .cons ⟨rfl, .dead⟩ (ih later hpassed)
    | handed _ alive _ =>
      rw [← hsame, gone] at alive
      cases alive
  | @handed e rest a b lots free alive _ ih =>
    have hpassed := himpartial.elapse halike
    have hsame := himpartial.isAlive hpassed e.window
    obtain ⟨htaken, hafter⟩ := himpartial.deliver hpassed e.window alive
    cases h' with
    | passedOver held _ =>
      rw [free] at held
      cases held
    | dead _ gone _ =>
      rw [← hsame, alive] at gone
      cases gone
    | handed _ _ later => exact .cons ⟨rfl, .handed htaken⟩ (ih later hafter)

end Round

namespace Scene

open Journal

variable {σ : Type} [Desktop σ]

/-! ## The same round -/

/-- What a dispatch of a message writes down. -/
theorem Announced.news {m : Message} {r : Request} {s t : Scene σ} {lots : List (Entry × Lot)}
    (h : Announced m s t lots) (hr : (s.perform r).2.journal = t.journal) :
    s.news r = evictions s.deadEntries ++ Round.effects m lots ++ evictions (Round.found lots) := by
  refine news_eq_of_journal (hr.trans ?_)
  rw [h.journal]
  simp only [List.append_assoc]

/-- Reporting that entries were dropped is no attempt at anything. -/
theorem attempts_evictions (dead : List Entry) : attempts (evictions dead) = [] := by
  induction dead with
  | nil => rfl
  | cons e rest ih => exact ih

/-- The attempts of a dispatch are those of its round. -/
theorem Announced.attempts_news {m : Message} {r : Request} {s t : Scene σ}
    {lots : List (Entry × Lot)} (h : Announced m s t lots)
    (hr : (s.perform r).2.journal = t.journal) :
    attempts (s.news r) = Round.attempts m lots := by
  have happend : ∀ j k : Journal, attempts (j ++ k) = attempts j ++ attempts k :=
    fun _ _ => List.filterMap_append
  rw [h.news hr, happend, happend, attempts_evictions, attempts_evictions, Round.attempts_effects,
    List.nil_append, List.append_nil]

/-- The entries that a dispatch reports as dropped. -/
theorem Announced.evicted_news {m : Message} {r : Request} {s t : Scene σ}
    {lots : List (Entry × Lot)} (h : Announced m s t lots)
    (hr : (s.perform r).2.journal = t.journal) :
    (s.news r).reported Activity.evicted? =
      (s.deadEntries ++ Round.found lots).map Entry.name := by
  obtain ⟨-, -, -, hdead, -⟩ := tally_evictions s.deadEntries
  obtain ⟨-, -, -, hfound, -⟩ := tally_evictions (Round.found lots)
  rw [h.news hr, reported_append, reported_append, hdead, hfound,
    (Round.plain_effects m lots).evicted, List.append_nil, List.map_append]

/-- Each of two messages is attempted where the other is. The same windows take it, and the same
entries are dropped. -/
structure SameRound (e : Event) (c : Command) (s : Scene σ) : Prop where
  /-- An event is all that its dispatch hands over. -/
  event : ∀ a ∈ attempts (s.news (.dispatchEvent e)), a.message = .event e
  /-- A command is all that its dispatch hands over. -/
  command : ∀ a ∈ attempts (s.news (.dispatchCommand c)), a.message = .command c.id
  /-- The attempts are the same, in the same order and with the same success. -/
  outcomes : (attempts (s.news (.dispatchEvent e))).map Attempt.outcome =
    (attempts (s.news (.dispatchCommand c))).map Attempt.outcome
  /-- The same entries are reported as dropped, in the same order. -/
  evicted : (s.news (.dispatchEvent e)).reported Activity.evicted? =
    (s.news (.dispatchCommand c)).reported Activity.evicted?
  /-- The same entries are left. -/
  roster : (s.dispatchEvent e).fleet.roster = (s.dispatchCommand c).fleet.roster

/-- To a desktop that makes no difference between them, an event and a command make the
same round. -/
theorem sameRound_of_makesNoDifference {e : Event} {c : Command} {s : Scene σ}
    (hu : s.fleet.roster.Unique)
    (hsame : Desktop.MakesNoDifference (.event e) (.command c.id) s.world) : SameRound e c s := by
  obtain ⟨alike, himpartial, hself⟩ := hsame
  obtain ⟨lots, hlots⟩ := announced_broadcast hu (.event e)
  obtain ⟨more, hmore⟩ := announced_broadcast hu (.command c.id)
  have hmatches := Round.matches_of_impartial himpartial hlots.round hmore.round hself
  have hevent := charged_dispatchEvent e s
  have hcommand := charged_dispatchCommand c s
  have hattempts := hlots.attempts_news (r := .dispatchEvent e) hevent.journal
  have hattempts' := hmore.attempts_news (r := .dispatchCommand c) hcommand.journal
  constructor
  · intro a ha
    rw [hattempts] at ha
    exact Round.message_of_mem_attempts ha
  · intro a ha
    rw [hattempts'] at ha
    exact Round.message_of_mem_attempts ha
  · rw [hattempts, hattempts']
    exact hmatches.outcomes_eq _ _
  · rw [hlots.evicted_news (r := .dispatchEvent e) hevent.journal,
      hmore.evicted_news (r := .dispatchCommand c) hcommand.journal, hmatches.found_eq]
  · rw [hevent.roster, hcommand.roster, hlots.fleet, hmore.fleet, hmatches.spared_eq]

/-- A dispatch of a command leaves all queues as they are. -/
theorem backlog_dispatchCommand {s : Scene σ} (hu : s.fleet.roster.Unique) (c : Command) :
    (s.dispatchCommand c).fleet.backlog = s.fleet.backlog := by
  obtain ⟨lots, hlots⟩ := announced_broadcast hu (.command c.id)
  have hbroadcast : (s.broadcast (.command c.id)).fleet.backlog = s.fleet.backlog := by
    rw [hlots.fleet]
  exact hbroadcast

end Scene

/-! ## What is done with commands -/

namespace Journal

/-- The attempts to hand a command to a window on behalf of a satellite. -/
def commandedFor (name : String) (j : Journal) : List Attempt :=
  j.attempts.filter fun a => a.message.command?.isSome && a.name == name

/-- Commands handed over in two stretches were handed over in the one or in the other. -/
@[simp] theorem commandedFor_append (name : String) (j k : Journal) :
    commandedFor name (j ++ k) = commandedFor name j ++ commandedFor name k := by
  simp [commandedFor, attempts]

end Journal

/-- No command is handed to a window by a request that dispatches none. -/
theorem Request.MayWrite.command?_eq_none {r : Request} {name : String} {w : WindowId} {m : Message}
    {fault : Option Fault} (h : r.MayWrite (.delivery name w m fault))
    (hr : ∀ c, r ≠ .dispatchCommand c) : m.command? = none := by
  cases r with
  | openSatellite | forceReopen | activate => rcases h.2 with rfl | ⟨params, rfl⟩ <;> rfl
  | register => exact h.2
  | flush | invoke => exact h
  | dispatchEvent e =>
    cases h
    rfl
  | dispatchCommand c => exact absurd rfl (hr c)
  | _ => cases h

/-- The command that a move dispatches. -/
def Move.command? {σ : Type} : Move σ → Option Command
  | request (.dispatchCommand c) => some c
  | _ => none

/-- The commands that a list of moves dispatches. -/
def Move.commands {σ : Type} (moves : List (Move σ)) : List Command := moves.filterMap Move.command?

namespace Scene

open Journal

variable {σ : Type} [Desktop σ] {name : String}

/-- What a broadcast hands over under a name. -/
theorem Announced.commandedFor {m : Message} {s t : Scene σ} {lots : List (Entry × Lot)}
    (h : Announced m s t lots) (name : String) :
    t.journal.commandedFor name = s.journal.commandedFor name ++
      (Round.attempts m lots).filter fun a => a.message.command?.isSome && a.name == name := by
  have hdead : ∀ dead : List Entry, Journal.commandedFor name (evictions dead) = [] := by
    intro dead
    rw [Journal.commandedFor, attempts_evictions]
    rfl
  rw [h.journal, commandedFor_append, commandedFor_append, commandedFor_append, hdead, hdead,
    List.append_nil, List.append_nil, ← Round.attempts_effects]
  rfl

/-- A request that dispatches no command hands none over. -/
theorem commandedFor_perform {r : Request} (hr : ∀ c, r ≠ .dispatchCommand c) (s : Scene σ) :
    (s.perform r).2.journal.commandedFor name = s.journal.commandedFor name := by
  refine (writes_perform r s).filter_attempts_eq fun e he a ha => ?_
  cases e with
  | delivery other w m fault =>
    cases ha
    have hnone : m.command? = none := he.command?_eq_none hr
    simp [hnone]
  | _ => cases ha

/-- What a move hands over under a name by way of commands. -/
inductive CommandShare (name : String) (m : Move σ) (s : Scene σ) : List Attempt → Prop where
  /-- Nothing at all. -/
  | nothing : CommandShare name m s []
  /-- The command that the move dispatches, once, to the window that is registered; no events are
  held back for the satellite. -/
  | once {c : Command} {w : WindowId} {fault : Option Fault}
      (dispatches : m = .request (.dispatchCommand c))
      (free : s.fleet.isHolding name = false)
      (registered : ⟨name, w⟩ ∈ s.fleet.roster.entries) :
      CommandShare name m s [⟨name, w, .command c.id, fault⟩]

/-- Where every name occurs once, there is one attempt under a name at most. -/
theorem filter_name_cases {as : List Attempt} (h : (as.map Attempt.name).Nodup) (name : String) :
    as.filter (fun a => a.name == name) = [] ∨
      ∃ a ∈ as, a.name = name ∧ as.filter (fun a => a.name == name) = [a] := by
  have hname : ∀ a ∈ as.filter (fun a => a.name == name), a ∈ as ∧ a.name = name := by
    intro a ha
    obtain ⟨hmem, heq⟩ := List.mem_filter.mp ha
    exact ⟨hmem, by simpa using heq⟩
  have hnodup := h.sublist (List.filter_sublist (p := fun a => a.name == name)
    (l := as) |>.map Attempt.name)
  cases hfilter : as.filter (fun a => a.name == name) with
  | nil => exact .inl rfl
  | cons a rest =>
    rw [hfilter] at hname hnodup
    obtain ⟨hmem, ha⟩ := hname a List.mem_cons_self
    cases rest with
    | nil => exact .inr ⟨a, hmem, ha, rfl⟩
    | cons b more =>
      obtain ⟨-, hb⟩ := hname b (List.mem_cons_of_mem a List.mem_cons_self)
      have hsame : a.name ∈ (b :: more).map Attempt.name := by simp [ha, hb]
      exact absurd hsame (List.nodup_cons.mp hnodup).1

/-- A command is handed over in its own dispatch, to satellites that are registered and
not awaited. -/
theorem commandShare_dispatchCommand {s : Scene σ} (hu : s.fleet.roster.Unique) (c : Command)
    (name : String) :
    ∃ share, (s.dispatchCommand c).journal.commandedFor name =
        s.journal.commandedFor name ++ share ∧
      CommandShare name (.request (.dispatchCommand c)) s share := by
  obtain ⟨lots, hlots⟩ := announced_broadcast hu (.command c.id)
  have hshare := hlots.commandedFor name
  have hcommands : (Round.attempts (.command c.id) lots).filter
      (fun a => a.message.command?.isSome && a.name == name) =
      (Round.attempts (.command c.id) lots).filter (fun a => a.name == name) := by
    refine List.filter_congr fun a ha => ?_
    simp [Round.message_of_mem_attempts ha, Message.command?]
  have hnames : ((Round.attempts (.command c.id) lots).map Attempt.name).Nodup := by
    have hlive : (s.liveEntries.map Entry.name).Nodup :=
      hu.sublist (List.filter_sublist.map Entry.name)
    rw [← hlots.round.entries] at hlive
    exact hlive.sublist (Round.names_attempts_sublist _ lots)
  rw [hcommands] at hshare
  refine ⟨_, hshare, ?_⟩
  rcases filter_name_cases hnames name with hnone | ⟨a, ha, hname, hone⟩
  · rw [hnone]
    exact .nothing
  · rw [hone]
    obtain ⟨⟨e, lot⟩, hlot, hattempt⟩ := List.mem_filterMap.mp ha
    cases lot with
    | passedOver | dead => cases hattempt
    | handed fault =>
      cases hattempt
      subst hname
      have hentry : e ∈ s.liveEntries := by
        rw [← hlots.round.entries]
        exact List.mem_map_of_mem hlot
      refine .once rfl ?_ (List.mem_filter.mp hentry).1
      by_contra hheld
      have hpassed := (hlots.round.passedOver_iff hlot).mpr (by simpa using hheld)
      cases hpassed

/-- No move but the dispatch of a command hands a command over. -/
theorem commandShare_move {s : Scene σ} (hu : s.fleet.roster.Unique) (m : Move σ) (name : String) :
    ∃ share, (s.move m).journal.commandedFor name = s.journal.commandedFor name ++ share ∧
      CommandShare name m s share := by
  by_cases hm : ∃ c, m = .request (.dispatchCommand c)
  · obtain ⟨c, rfl⟩ := hm
    exact commandShare_dispatchCommand hu c name
  · refine ⟨[], ?_, .nothing⟩
    rw [List.append_nil]
    cases m with
    | shift change => rfl
    | request r => exact commandedFor_perform (fun c hr => hm ⟨c, hr ▸ rfl⟩) s

/-- Under each name the commands that are dispatched are handed over in their order, each once at
most. -/
theorem commandedFor_run {s : Scene σ} (hu : s.fleet.roster.Unique) (moves : List (Move σ))
    (name : String) :
    ∃ share, (s.run moves).journal.commandedFor name = s.journal.commandedFor name ++ share ∧
      (share.map Attempt.message).Sublist
        ((Move.commands moves).map fun c => .command c.id) := by
  induction moves generalizing s with
  | nil => exact ⟨[], (List.append_nil _).symm, .slnil⟩
  | cons m rest ih =>
    obtain ⟨first, hfirst, hshare⟩ := commandShare_move hu m name
    obtain ⟨later, hlater, hsublist⟩ := ih (unique_move hu m)
    refine ⟨first ++ later, ?_, ?_⟩
    · rw [← List.append_assoc, ← hfirst]
      exact hlater
    · have hcons : Move.commands (m :: rest) = m.command?.toList ++ Move.commands rest := by
        unfold Move.commands
        cases hm : m.command? <;> simp [hm]
      rw [hcons, List.map_append, List.map_append]
      refine List.Sublist.append ?_ hsublist
      cases hshare with
      | nothing => exact List.nil_sublist _
      | once dispatches free registered =>
        subst dispatches
        exact List.Sublist.refl _

/-- In whatever state a run has led to, the dispatch of an event and that of a command go the same
round if the desktop makes no difference between the two; but that of a command changes no queue.
Commands are handed over while they are dispatched and at no other time: under each name once at
most, to the window that is registered, and not while events are held back for the satellite. -/
theorem commands_never_replayed (role : Role) (platform : Platform) (session : Payload) (world : σ)
    (moves : List (Move σ)) (e : Event) (c : Command) :
    let first := start role platform session world
    let s := first.run moves
    (Desktop.MakesNoDifference (.event e) (.command c.id) s.world → SameRound e c s) ∧
    (s.dispatchCommand c).fleet.backlog = s.fleet.backlog ∧
    ∀ name,
      (∀ before m after, moves = before ++ m :: after →
        ∃ share, ((first.run before).move m).journal.commandedFor name =
            (first.run before).journal.commandedFor name ++ share ∧
          CommandShare name m (first.run before) share) ∧
      ((s.journal.commandedFor name).map Attempt.message).Sublist
        ((Move.commands moves).map fun c => .command c.id) := by
  intro first s
  have hu : ∀ ms, (first.run ms).fleet.roster.Unique := unique_run role platform session world
  refine ⟨sameRound_of_makesNoDifference (hu moves), backlog_dispatchCommand (hu moves) c,
    fun name => ⟨fun before m after _ => commandShare_move (hu before) m name, ?_⟩⟩
  obtain ⟨share, hshare, hsublist⟩ := commandedFor_run (hu []) moves name
  have hnone : first.journal.commandedFor name = [] := rfl
  have hrun : s.journal.commandedFor name = share := by
    rw [← List.nil_append share, ← hnone]
    exact hshare
  rw [hrun]
  exact hsublist

/-- The window of the third satellite has died, and the fourth was starting up when the command was
dispatched for the first time. -/
theorem reload_handed_over_once :
    let desktop : Simulation :=
      { screen := ⟨1280, 800⟩
        windows := [{ name := "a", geometry := default },
          { name := "b", geometry := default, failing := true },
          { name := "c", geometry := default }] }
    let reload : Command := ⟨"reload"⟩
    let moves : List (Move Simulation) :=
      [.request (.register "a" 0), .request (.register "b" 1), .request (.register "c" 2),
        .request (.openSatellite "d" none ⟨400, 300⟩), .request (.dispatchCommand reload),
        .request (.register "d" 3), .request (.flush "d"),
        .shift fun d => d.modify 2 SimulatedWindow.kill]
    let s := (start .main .nativeShell .null desktop).run moves
    (∀ x ∈ s.world.windows, x.kills = []) ∧ SameRound ⟨"tick", .null⟩ reload s ∧
      (attempts (s.news (.dispatchCommand reload))).map Attempt.outcome =
        [("a", 0, true), ("b", 1, false), ("d", 3, true)] ∧
      (s.news (.dispatchCommand reload)).reported Activity.evicted? = ["c"] ∧
      ((s.journal.commandedFor "a").map Attempt.message).Sublist [.command "reload"] ∧
      (s.journal.commandedFor "a").map Attempt.outcome = [("a", 0, true)] ∧
      s.journal.commandedFor "d" = [] := by
  intro desktop reload moves s
  have hkills : ∀ x ∈ s.world.windows, x.kills = [] := by decide +kernel
  obtain ⟨hround, -, hshares⟩ :=
    commands_never_replayed .main .nativeShell .null desktop moves ⟨"tick", .null⟩ reload
  refine ⟨hkills, hround (Simulation.makesNoDifference hkills _ _), ?_, ?_, (hshares "a").2, ?_, ?_⟩
  all_goals decide +kernel

end Scene

end SatelliteWindows
