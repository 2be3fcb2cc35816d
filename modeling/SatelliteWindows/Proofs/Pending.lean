import SatelliteWindows.Proofs.History
import SatelliteWindows.Simulation

/-!
# What is held back is the history

Events are held back for a satellite exactly while it is pending: since its last fresh opening
nothing has stopped that. The queue is then made of all events dispatched since the earliest opening
that is still pending, whatever else has happened meanwhile.
-/

namespace SatelliteWindows

namespace Happening

/-- The events of a history since the earliest opening of a satellite that is still pending: it was
not pending before that opening, and nothing has stopped it since. -/
def Since (name : String) (hs : List Happening) (q : List Event) : Prop :=
  ∃ earlier opening later, hs = earlier ++ opening :: later ∧ opening.opens name = true ∧
    ¬ Pending name earlier ∧ (∀ x ∈ later, x.stops name = false) ∧ q = events later

/-- A history with one more happening is split at that happening or before it. -/
theorem append_singleton_eq_split {hs earlier later : List Happening} {x opening : Happening} :
    hs ++ [x] = earlier ++ opening :: later ↔
      (later = [] ∧ hs = earlier ∧ x = opening) ∨
      ∃ front, later = front ++ [x] ∧ hs = earlier ++ opening :: front := by
  constructor
  · intro h
    rcases List.eq_nil_or_concat later with rfl | ⟨front, last, rfl⟩
    · obtain ⟨hfront, hlast⟩ := List.append_inj' h rfl
      exact .inl ⟨rfl, hfront, by simpa using hlast⟩
    · have hsplit : hs ++ [x] = (earlier ++ opening :: front) ++ [last] := by simpa using h
      obtain ⟨hfront, hlast⟩ := List.append_inj' hsplit rfl
      have hx : x = last := by simpa using hlast
      exact .inr ⟨front, by rw [hx, List.concat_eq_append], hfront⟩
  · rintro (⟨rfl, rfl, rfl⟩ | ⟨front, rfl, rfl⟩)
    · rfl
    · simp

/-- One more happening makes a satellite pending if it opens it, and keeps it so if it does not
stop it. -/
theorem pending_append_singleton {name : String} {hs : List Happening} {x : Happening} :
    Pending name (hs ++ [x]) ↔
      x.opens name = true ∨ (Pending name hs ∧ x.stops name = false) := by
  constructor
  · rintro ⟨earlier, opening, later, heq, hopens, hlater⟩
    rcases append_singleton_eq_split.mp heq with ⟨rfl, rfl, rfl⟩ | ⟨front, rfl, rfl⟩
    · exact .inl hopens
    · refine .inr ⟨⟨earlier, opening, front, rfl, hopens, fun y hy => ?_⟩, hlater x (by simp)⟩
      exact hlater y (List.mem_append_left _ hy)
  · rintro (hopens | ⟨⟨earlier, opening, later, rfl, hopens, hlater⟩, hx⟩)
    · exact ⟨hs, x, [], rfl, hopens, by simp⟩
    · refine ⟨earlier, opening, later ++ [x], by simp, hopens, fun y hy => ?_⟩
      rcases List.mem_append.mp hy with hy | hy
      · exact hlater y hy
      · rw [List.mem_singleton.mp hy]
        exact hx

/-- One more happening starts the events since an opening, or adds its own to them. -/
theorem since_append_singleton {name : String} {hs : List Happening} {x : Happening}
    {q : List Event} :
    Since name (hs ++ [x]) q ↔
      (x.opens name = true ∧ ¬ Pending name hs ∧ q = []) ∨
      ∃ p, Since name hs p ∧ x.stops name = false ∧ q = p ++ x.event?.toList := by
  constructor
  · rintro ⟨earlier, opening, later, heq, hopens, hfirst, hlater, rfl⟩
    rcases append_singleton_eq_split.mp heq with ⟨rfl, rfl, rfl⟩ | ⟨front, rfl, rfl⟩
    · exact .inl ⟨hopens, hfirst, rfl⟩
    · refine .inr ⟨events front, ⟨earlier, opening, front, rfl, hopens, hfirst, ?_, rfl⟩,
        hlater x (by simp), ?_⟩
      · exact fun y hy => hlater y (List.mem_append_left _ hy)
      · rw [events_append]
        cases hx : x.event? <;> simp [events, hx]
  · rintro (⟨hopens, hfirst, rfl⟩ |
      ⟨p, ⟨earlier, opening, later, rfl, hopens, hfirst, hlater, rfl⟩, hx, rfl⟩)
    · exact ⟨hs, x, [], rfl, hopens, hfirst, by simp, rfl⟩
    · refine ⟨earlier, opening, later ++ [x], by simp, hopens, hfirst, fun y hy => ?_, ?_⟩
      · rcases List.mem_append.mp hy with hy | hy
        · exact hlater y hy
        · rw [List.mem_singleton.mp hy]
          exact hx
      · rw [events_append]
        cases hx : x.event? <;> simp [events, hx]

/-- What a happening makes of the queue of a satellite. -/
def onQueue (name : String) (x : Happening) (q : Option (List Event)) : Option (List Event) :=
  if x.opens name then some (q.getD [])
  else if x.stops name then none
  else q.map (· ++ x.event?.toList)

/-- A queue follows a history if it is there exactly while the satellite is pending, and is made of
the events since the opening that is still pending. -/
def Follows (name : String) (hs : List Happening) (q : Option (List Event)) : Prop :=
  (q.isSome = true ↔ Pending name hs) ∧ ∀ p, q = some p ↔ Since name hs p

/-- Where nothing has happened nothing is pending. -/
theorem follows_nil (name : String) : Follows name [] none := by
  simp [Follows, Pending, Since]

/-- A queue goes on following the history with each happening. -/
theorem Follows.append_singleton {name : String} {hs : List Happening} {q : Option (List Event)}
    (h : Follows name hs q) (x : Happening) :
    Follows name (hs ++ [x]) (x.onQueue name q) := by
  obtain ⟨hpending, hsince⟩ := h
  unfold Follows onQueue
  simp only [pending_append_singleton, since_append_singleton]
  cases hopens : x.opens name with
  | true =>
    have hstops : x.stops name = false := by cases x <;> simp_all [opens, stops]
    have hevent : x.event? = none := by cases x <;> simp_all [opens, event?]
    cases q with
    | none =>
      have hno : ¬ Pending name hs := fun hp => by simpa using hpending.mpr hp
      have hnone : ∀ p, ¬ Since name hs p := fun p hp => by simpa using (hsince p).mpr hp
      refine ⟨by simp, fun r => ?_⟩
      simp only [if_true, Option.getD_none, Option.some.injEq, hno, not_false_eq_true, true_and,
        hnone, false_and, exists_false, or_false]
      exact eq_comm
    | some p =>
      have hyes : Pending name hs := hpending.mp rfl
      have honly : ∀ r, Since name hs r ↔ p = r := fun r => by simpa using (hsince r).symm
      refine ⟨by simp, fun r => ?_⟩
      simp only [if_true, Option.getD_some, Option.some.injEq, hyes, not_true_eq_false, false_and,
        and_false, false_or, honly, hstops, true_and, exists_eq_left', hevent, Option.toList_none,
        List.append_nil]
      exact eq_comm
  | false =>
    cases hstops : x.stops name with
    | true => simp
    | false =>
      cases q with
      | none =>
        have hno : ¬ Pending name hs := fun hp => by simpa using hpending.mpr hp
        have hnone : ∀ p, ¬ Since name hs p := fun p hp => by simpa using (hsince p).mpr hp
        simp [hno, hnone]
      | some p =>
        have hyes : Pending name hs := hpending.mp rfl
        have honly : ∀ r, Since name hs r ↔ p = r := fun r => by simpa using (hsince r).symm
        refine ⟨by simp [hyes], fun r => ?_⟩
        simp only [Bool.false_eq_true, if_false, Option.map_some, Option.some.injEq, false_and,
          honly, true_and, false_or, exists_eq_left']
        exact eq_comm

end Happening

namespace Turn

open Happening

/-- A turn changes the queue of a satellite only by opening it, stopping it or dispatching. -/
theorem queue?_eq {x : Happening} {h k : Handshake} (turn : Turn x h k) (name : String) :
    k.backlog.queue? name = x.onQueue name (h.backlog.queue? name) := by
  cases turn with
  | opened n =>
    by_cases hn : name = n
    · subst hn
      simp [onQueue, opens, Handshake.expect, Backlog.queue?_hold]
    · have hne : ¬ n = name := fun h => hn h.symm
      simp [onQueue, opens, stops, event?, Handshake.expect, Backlog.queue?_hold, hn, hne]
  | registered | commanded | idle | lapsed =>
    simp [onQueue, opens, stops, event?, Handshake.register]
  | flushed n | closed n | expired n =>
    by_cases hn : name = n
    · subst hn
      simp [onQueue, opens, stops, Handshake.flush, Handshake.giveUp, Backlog.queue?_release]
    · have hne : ¬ n = name := fun h => hn h.symm
      simp [onQueue, opens, stops, event?, Handshake.flush, Handshake.giveUp,
        Backlog.queue?_release, hn, hne]
  | allClosed => simp [onQueue, opens, stops, Handshake.clear]
  | dispatched e => simp [onQueue, opens, stops, event?, Handshake.holdBack,
      Backlog.queue?_enqueueAll]

/-- Events are held back for a satellite once it was opened, and until something stops it. -/
theorem isHolding_eq (turn : Turn x h k) (name : String) :
    k.backlog.isHolding name =
      (x.opens name || (!x.stops name && h.backlog.isHolding name)) := by
  unfold Backlog.isHolding
  rw [turn.queue?_eq name]
  unfold onQueue
  cases x.opens name with
  | true => rfl
  | false =>
    cases x.stops name with
    | true => rfl
    | false => simp

end Turn

namespace Course

open Happening

/-- Over a course that begins with nothing held back, every queue follows the history. -/
theorem follows {h k : Handshake} {hs : List Happening} (course : Course h hs k)
    (hempty : h.backlog = Backlog.empty) (name : String) :
    Follows name hs (k.backlog.queue? name) := by
  induction course with
  | nil =>
    rw [hempty]
    exact follows_nil name
  | @next hs x k l _ turn ih =>
    rw [turn.queue?_eq name]
    exact ih.append_singleton x

end Course

namespace Scene

open Happening

variable {σ : Type} [Desktop σ]

/-- A move makes of the queue of a satellite what it means for it. -/
theorem queue?_move (m : Move σ) (s : Scene σ) (name : String) :
    (s.move m).fleet.backlog.queue? name =
      (s.happening m).onQueue name (s.fleet.backlog.queue? name) :=
  (s.turn_move m).queue?_eq name

/-- On every run the queues follow the history. -/
theorem follows_run (role : Role) (platform : Platform) (session : Payload) (world : σ)
    (moves : List (Move σ)) (name : String) :
    Follows name ((start role platform session world).history moves)
      (((start role platform session world).run moves).fleet.backlog.queue? name) :=
  (Course.of_run moves (start role platform session world)).follows rfl name

/-- On every run events are held back for a satellite exactly if its last fresh opening was followed
by nothing that stops it, and its queue is then made of all events dispatched since the earliest
opening that is still pending. For a satellite that is not pending nothing is counted, and a move
that neither opens the satellite nor stops it nor dispatches an event leaves its queue alone. -/
theorem queue_eq_history (role : Role) (platform : Platform) (session : Payload) (world : σ)
    (moves : List (Move σ)) (name : String) :
    let s := (start role platform session world).run moves
    let hs := (start role platform session world).history moves
    (s.fleet.isHolding name = true ↔ Pending name hs) ∧
    (∀ q, s.fleet.backlog.queue? name = some q ↔ Since name hs q) ∧
    (s.fleet.isHolding name = false → s.fleet.backlog.count name = 0) ∧
    ∀ m : Move σ, (s.happening m).opens name = false → (s.happening m).stops name = false →
      (s.happening m).event? = none →
      (s.move m).fleet.backlog.queue? name = s.fleet.backlog.queue? name := by
  intro s hs
  obtain ⟨hholding, hqueue⟩ := follows_run role platform session world moves name
  refine ⟨hholding, hqueue, fun hnot => ?_, fun m hopens hstops hevent => ?_⟩
  · rw [Backlog.count, Backlog.held_eq_nil hnot]
    rfl
  · have hmove := queue?_move m s name
    rw [onQueue, hopens, hstops, hevent] at hmove
    exact hmove.trans (by simp)

/-- A satellite is opened twice, and an event is dispatched after each opening. -/
def openedTwice : List (Move Simulation) :=
  [.request (.openSatellite "chart" none ⟨400, 300⟩), .request (.dispatchEvent ⟨"tick", .int 1⟩),
    .request (.openSatellite "chart" none ⟨400, 300⟩),
    .request (.dispatchEvent ⟨"tick", .int 2⟩)]

/-- The second opening keeps what is held back, and so does a window that registers. -/
theorem queue_of_openedTwice :
    let s := (start .main .nativeShell .null ({ screen := ⟨1280, 800⟩ } : Simulation)).run
      openedTwice
    s.fleet.backlog.queue? "chart" = some [⟨"tick", .int 1⟩, ⟨"tick", .int 2⟩] ∧
      (s.move (.request (.register "chart" 0))).fleet.backlog.queue? "chart" =
        s.fleet.backlog.queue? "chart" := by
  obtain ⟨-, hqueue, -, hframe⟩ := queue_eq_history .main .nativeShell .null
    ({ screen := ⟨1280, 800⟩ } : Simulation) openedTwice "chart"
  refine ⟨(hqueue _).mpr ⟨[], .opened "chart" 1, [.dispatched ⟨"tick", .int 1⟩,
    .opened "chart" 2, .dispatched ⟨"tick", .int 2⟩], by decide +kernel, rfl, ?_, by decide, rfl⟩,
    hframe (.request (.register "chart" 0)) rfl rfl rfl⟩
  rintro ⟨earlier, opening, later, heq, -⟩
  simp at heq

end Scene

end SatelliteWindows
