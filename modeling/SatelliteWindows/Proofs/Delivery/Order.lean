import SatelliteWindows.Proofs.Delivery
import SatelliteWindows.Proofs.Pending
import SatelliteWindows.Proofs.View

/-!
# At most once and in order

Under the name of one satellite no event is handed to a window twice, and none before an earlier
one. What was tried already and what is still held back are together part of what was dispatched, in
that order; each move keeps it so. Events that look alike are told apart by numbers that they carry
and no window sees: a run with numbers is seen as the run without them.
-/

namespace SatelliteWindows

/-! ## Numbers -/

namespace Event

/-- An event that carries a number. -/
def numbered (k : Nat) (e : Event) : Event := ⟨e.eventType, .list [.int k, e.data]⟩

/-- The number that an event carries. -/
def number (e : Event) : Nat :=
  match e.data with
  | .list [.int k, _] => k.toNat
  | _ => 0

/-- The event without the number that it carries. -/
def unnumbered (e : Event) : Event :=
  match e.data with
  | .list [.int _, data] => ⟨e.eventType, data⟩
  | _ => e

/-- An event has the number that it was given. -/
@[simp] theorem number_numbered (k : Nat) (e : Event) : (e.numbered k).number = k := rfl

/-- Events that are numbered as they come carry increasing numbers. -/
theorem pairwise_number_mapIdx (es : List Event) :
    ((es.mapIdx numbered).map number).Pairwise (· < ·) := by
  have hnumber : (es.mapIdx numbered).map number = List.range es.length := by
    refine List.ext_getElem (by simp) fun i h₁ h₂ => ?_
    simp
  rw [hnumber]
  exact List.pairwise_lt_range

end Event

/-- A desktop whose windows take events without their numbers. -/
structure Numbered (σ : Type) where
  /-- The desktop without numbers. -/
  world : σ

namespace Numbered

variable {σ : Type} [Desktop σ]

instance : Desktop (Numbered σ) where
  isAlive a := Desktop.isAlive a.world
  geometry a := Desktop.geometry a.world
  screen a := Desktop.screen a.world
  deliver w m a := (Desktop.deliver w (m.seen Event.unnumbered) a.world).map id mk
  focus w a := (Desktop.focus w a.world).map id mk
  close w a := (Desktop.close w a.world).map id mk
  openWindow r a := (Desktop.openWindow r a.world).map id mk
  raise windowName a := (Desktop.raise windowName a.world).map id mk
  elapse a := ⟨Desktop.elapse a.world⟩

/-- A desktop with numbers is seen without them. -/
def view : Desktop.View (Numbered σ) σ where
  world := world
  event := Event.unnumbered
  isAlive _ _ := rfl
  geometry _ _ := rfl
  screen _ := rfl
  deliver _ _ _ := rfl
  focus _ _ := rfl
  close _ _ := rfl
  openWindow _ _ := rfl
  raise _ _ := rfl
  elapse _ := rfl

end Numbered

namespace Move

variable {σ : Type}

/-- The event that a move dispatches. -/
def event? : Move σ → Option Event
  | request (.dispatchEvent e) => some e
  | _ => none

/-- The events that a list of moves dispatches. -/
def dispatched (moves : List (Move σ)) : List Event := moves.filterMap event?

/-- Moves whose dispatches are numbered from a given number on. -/
def numberFrom : Nat → List (Move σ) → List (Move (Numbered σ))
  | _, [] => []
  | k, request (.dispatchEvent e) :: rest =>
    request (.dispatchEvent (e.numbered k)) :: numberFrom (k + 1) rest
  | k, request r :: rest => request r :: numberFrom k rest
  | k, shift change :: rest => shift (fun a => ⟨change a.world⟩) :: numberFrom k rest

/-- What is dispatched is numbered as it comes. -/
theorem dispatched_numberFrom (k : Nat) (moves : List (Move σ)) :
    dispatched (numberFrom k moves) = (dispatched moves).mapIdx fun i e => e.numbered (k + i) := by
  fun_induction numberFrom k moves with
  | case1 => rfl
  | case2 k e rest ih =>
    simp only [dispatched, List.filterMap_cons, event?] at ih ⊢
    have hshift : ∀ i, k + 1 + i = k + (i + 1) := fun i => by omega
    rw [ih, List.mapIdx_cons]
    simp only [hshift, Nat.add_zero]
  | case3 k r rest hr ih =>
    have hnone : ∀ τ : Type, event? (request r : Move τ) = none := fun τ => by
      cases r <;> first | rfl | exact absurd rfl (hr _)
    simp only [dispatched, List.filterMap_cons, hnone] at ih ⊢
    exact ih
  | case4 k change rest ih => exact ih

/-- The numbers go from the first one on, as far as there are events. -/
theorem number_of_dispatched {k : Nat} {moves : List (Move σ)} {e : Event}
    (h : e ∈ dispatched (numberFrom k moves)) :
    k ≤ e.number ∧ e.number < k + (dispatched moves).length := by
  rw [dispatched_numberFrom] at h
  obtain ⟨i, hi, rfl⟩ := List.mem_mapIdx.mp h
  rw [Event.number_numbered]
  exact ⟨Nat.le_add_right k i, Nat.add_lt_add_left hi k⟩

/-- Moves are seen without the numbers. -/
theorem numberFrom_seenAs [Desktop σ] (k : Nat) (moves : List (Move σ)) :
    List.Forall₂ (SeenAs Numbered.view) (numberFrom k moves) moves := by
  fun_induction numberFrom k moves with
  | case1 => exact .nil
  | case2 k e rest ih => exact .cons (.request (.dispatchEvent (e.numbered k))) ih
  | case3 k r rest hr ih =>
    have hsame : r.seen Event.unnumbered = r := by
      cases r <;> first | rfl | exact absurd rfl (hr _)
    refine .cons ?_ ih
    have hrequest : SeenAs Numbered.view (.request r)
        (.request (r.seen Event.unnumbered) : Move σ) := .request r
    rwa [hsame] at hrequest
  | case4 k change rest ih => exact .cons (.shift _ _ fun _ => rfl) ih

end Move

namespace Scene

open Happening Journal

variable {σ : Type} [Desktop σ]

/-! ## What was tried and what is held back -/

omit [Desktop σ] in
/-- What a journal tells of a satellite, once more was handed on for it. -/
theorem tried_of_passedFor {name : String} {s t : Scene σ} {attempts : List Attempt}
    (h : t.journal.passedFor name = s.journal.passedFor name ++ attempts) :
    tried name t.journal =
      tried name s.journal ++ attempts.filterMap fun a => a.message.event? := by
  unfold tried
  rw [h, List.filterMap_append]

/-- A queue grows by what is dispatched at most. -/
theorem onQueue_sublist (name : String) (x : Happening) (q : Option (List Event)) :
    ((x.onQueue name q).getD []).Sublist (q.getD [] ++ x.event?.toList) := by
  unfold onQueue
  split
  · exact List.sublist_append_left _ _
  · split
    · exact List.nil_sublist _
    · cases q with
      | none => exact List.nil_sublist _
      | some p => exact .refl _

/-- What a move hands on for a satellite and what is held back for it afterwards are part of what
was held back before and what the move dispatches. -/
theorem tried_move {s : Scene σ} (hu : s.fleet.roster.Unique) (m : Move σ) (name : String) :
    ∃ es : List Event, tried name (s.move m).journal = tried name s.journal ++ es ∧
      (es ++ (s.move m).fleet.backlog.held name).Sublist
        (s.fleet.backlog.held name ++ (s.happening m).event?.toList) := by
  have hpassing := passing_move m s
  unfold Backlog.held
  rw [queue?_move]
  generalize s.happening m = x, s.move m = t at hpassing
  -- a move that hands nothing on for the name can only shorten or extend its queue
  have hnothing : t.journal.passedFor name = s.journal.passedFor name →
      ∃ es : List Event, tried name t.journal = tried name s.journal ++ es ∧
        (es ++ (x.onQueue name (s.fleet.backlog.queue? name)).getD []).Sublist
          ((s.fleet.backlog.queue? name).getD [] ++ x.event?.toList) := by
    intro hpassed
    refine ⟨[], ?_, onQueue_sublist name x _⟩
    rw [List.append_nil]
    unfold tried
    rw [hpassed]
  cases hpassing with
  | silent _ _ _ hpassed =>
    refine hnothing ?_
    unfold passedFor
    rw [hpassed]
  | flushed n =>
    by_cases hn : n = name
    · subst hn
      obtain ⟨attempts, hpassed, hwhat⟩ := passedFor_flush hu n
      refine ⟨_, tried_of_passedFor hpassed, ?_⟩
      have hstopped : (flushed n).onQueue n (s.fleet.backlog.queue? n) = none := by
        simp [onQueue, opens, stops]
      rw [hstopped, Option.getD_none, List.append_nil]
      rcases hwhat with ⟨rfl, -⟩ | ⟨w, -, hevents, -⟩
      · exact List.nil_sublist _
      · rw [hevents]
        exact List.sublist_append_left _ _
    · exact hnothing (passedFor_flush_of_ne hn s)
  | commanded c => exact hnothing ((discreet_dispatchCommand c s).passedFor name)
  | dispatched e =>
    cases hholding : s.fleet.isHolding name with
    | true => exact hnothing (passedFor_dispatchEvent_of_holding hholding e)
    | false =>
      cases offered_dispatchEvent hu hholding e with
      | skipped hpassed _ => exact hnothing hpassed
      | handed a hpassed _ hmessage _ =>
        have hnone : s.fleet.backlog.queue? name = none := Backlog.queue?_eq_none hholding
        have hevent : [a].filterMap (fun a => a.message.event?) = [e] := by
          simp [hmessage, Message.event?]
        refine ⟨[e], ?_, ?_⟩
        · rw [tried_of_passedFor hpassed, hevent]
        · rw [hnone]
          simp [onQueue, opens, stops, event?]

/-- What a move dispatches is what it means. -/
theorem event?_happening (m : Move σ) (s : Scene σ) : (s.happening m).event? = m.event? := by
  have hopening : ∀ r, (s.meaningOfOpening r).event? = none := fun r => by
    unfold meaningOfOpening
    split <;> rfl
  cases m with
  | shift change => rfl
  | request r =>
    show (s.meaning r).event? = _
    cases r with
    | openSatellite | forceReopen => exact hopening _
    | expire name generation =>
      unfold meaning
      dsimp only
      split <;> rfl
    | invoke operation caller =>
      unfold meaning
      dsimp only
      split <;> rfl
    | _ => rfl

/-- What a run hands on for a satellite and what is held back for it afterwards are part of what was
held back before and what the run dispatches, in order. -/
theorem tried_run {s : Scene σ} (hu : s.fleet.roster.Unique) (moves : List (Move σ))
    (name : String) :
    ∃ es : List Event, tried name (s.run moves).journal = tried name s.journal ++ es ∧
      (es ++ (s.run moves).fleet.backlog.held name).Sublist
        (s.fleet.backlog.held name ++ Move.dispatched moves) := by
  induction moves generalizing s with
  | nil => exact ⟨[], (List.append_nil _).symm, List.sublist_append_left _ _⟩
  | cons m rest ih =>
    obtain ⟨first, hfirst, hmove⟩ := tried_move hu m name
    obtain ⟨more, hmore, hrest⟩ := ih ((s.turn_move m).unique hu)
    have hdispatched : Move.dispatched (m :: rest) =
        (s.happening m).event?.toList ++ Move.dispatched rest := by
      rw [event?_happening]
      unfold Move.dispatched
      cases hm : m.event? <;> simp [hm]
    refine ⟨first ++ more, ?_, ?_⟩
    · show tried name ((s.move m).run rest).journal = _
      rw [hmore, hfirst, List.append_assoc]
    · show (first ++ more ++ ((s.move m).run rest).fleet.backlog.held name).Sublist _
      rw [hdispatched, List.append_assoc]
      have hnow := hmove.append_right (Move.dispatched rest)
      rw [List.append_assoc, List.append_assoc] at hnow
      exact (hrest.append_left first).trans hnow

/-- On every run what was tried for a satellite and what is held back for it are part of what was
dispatched, in order. -/
theorem tried_append_held_sublist (role : Role) (platform : Platform) (session : Payload)
    (world : σ) (moves : List (Move σ)) (name : String) :
    (tried name ((start role platform session world).run moves).journal ++
      ((start role platform session world).run moves).fleet.backlog.held name).Sublist
      (Move.dispatched moves) := by
  obtain ⟨es, htried, hes⟩ :=
    tried_run (s := start role platform session world) Roster.unique_empty moves name
  rw [htried]
  exact hes

/-- Events that are seen differently are handed on alike. -/
theorem tried_seen (f : Event → Event) (name : String) (j : Journal) :
    tried name (j.seen f) = (tried name j).map f := by
  induction j with
  | nil => rfl
  | cons e rest ih =>
    have hone : tried name (Journal.seen f [e]) = (tried name [e]).map f := by
      cases e with
      | delivery n w m fault =>
        cases m with
        | event e =>
          by_cases hn : n = name <;>
            simp [Journal.seen, tried, passedFor, passed, attempts, Effect.seen,
              Effect.attempt?, Message.seen, Message.event?, hn]
        | _ => rfl
      | _ => rfl
    have hseen : Journal.seen f (e :: rest) = Journal.seen f [e] ++ Journal.seen f rest := rfl
    have hcons : e :: rest = [e] ++ rest := rfl
    rw [hseen, tried_append, hone, ih, hcons, tried_append, List.map_append]

/-- Number the events of a run as they are dispatched. The run with numbers is seen as the run
without them, and the events that it tries to hand to windows under a name carry increasing numbers
and are events that were dispatched. So no event is tried twice under a name, none is tried before
an earlier one, and nothing else is ever sent. -/
theorem attempts_in_order (role : Role) (platform : Platform) (session : Payload) (world : σ)
    (moves : List (Move σ)) (name : String) :
    let plain := (start role platform session world).run moves
    let numbered := (start role platform session (Numbered.mk world)).run (Move.numberFrom 0 moves)
    numbered.seen Numbered.view = plain ∧
    (tried name numbered.journal).map Event.unnumbered = tried name plain.journal ∧
    ((tried name numbered.journal).map Event.number).Pairwise (· < ·) ∧
    (tried name numbered.journal).Sublist ((Move.dispatched moves).mapIdx Event.numbered) := by
  intro plain numbered
  have hseen : numbered.seen Numbered.view = plain :=
    seen_run Numbered.view (Move.numberFrom_seenAs 0 moves) _
  have hnumbers : Move.dispatched (Move.numberFrom 0 moves) =
      (Move.dispatched moves).mapIdx Event.numbered := by
    rw [Move.dispatched_numberFrom]
    simp only [Nat.zero_add]
  have hsublist : (tried name numbered.journal).Sublist
      ((Move.dispatched moves).mapIdx Event.numbered) := by
    rw [← hnumbers]
    exact (List.sublist_append_left _ _).trans
      (tried_append_held_sublist role platform session (Numbered.mk world) _ name)
  refine ⟨hseen, ?_, ?_, hsublist⟩
  · rw [← hseen]
    exact (tried_seen Event.unnumbered name numbered.journal).symm
  · exact (Event.pairwise_number_mapIdx _).sublist (hsublist.map Event.number)

end Scene

end SatelliteWindows
