import SatelliteWindows.Proofs.Backlog
import SatelliteWindows.Proofs.Books.Metrics
import SatelliteWindows.Proofs.Expiry

/-!
# Events that are held back are accounted for

An event that is held back for a satellite waits until it is passed on or dropped. It is counted
when it is held back, and reported with all others of its queue when they are passed on or when the
opening is given up; only a closing drops events without a word. Each move changes both sides of
this account alike, and so does every run.
-/

namespace SatelliteWindows

namespace Happening

/-- How many events are dropped because an opening is given up. -/
def givenUp (h : Handshake) : Happening → Nat
  | expired name _ => h.backlog.count name
  | _ => 0

/-- How many events are dropped because satellites are closed. -/
def dropped (h : Handshake) : Happening → Nat
  | closed name => h.backlog.count name
  | allClosed => h.backlog.total
  | _ => 0

/-- Nothing is given up but when an opening expires. -/
theorem givenUp_eq_zero {x : Happening} (hx : ∀ name g, x ≠ .expired name g) (h : Handshake) :
    x.givenUp h = 0 := by
  cases x with
  | expired name g => exact absurd rfl (hx name g)
  | _ => rfl

end Happening

/-- What was held back before a turn, and what the turn holds back, is held back afterwards, passed
on, given up, or dropped. -/
theorem Turn.total_backlog {x : Happening} {h k : Handshake} (turn : Turn x h k) :
    k.backlog.total + x.passedOn h + x.givenUp h + x.dropped h =
      h.backlog.total + (x.charge h).eventsBuffered := by
  cases turn with
  | opened name => exact h.backlog.total_hold name
  | flushed name => exact h.backlog.total_release name
  | expired name g => exact h.backlog.total_release name
  | closed name => exact h.backlog.total_release name
  | allClosed => exact Nat.zero_add _
  | dispatched e => exact h.backlog.total_enqueueAll e
  | registered | commanded | idle | lapsed => rfl

namespace Scene

open Journal

variable {σ : Type} [Desktop σ]

/-- For how many satellites that are starting up an event is held back. -/
def heldBack (m : Move σ) (s : Scene σ) : Nat :=
  match s.happening m with
  | .dispatched _ => s.fleet.backlog.size
  | _ => 0

/-- How many events are dropped because a move closes satellites. -/
def dropped (m : Move σ) (s : Scene σ) : Nat :=
  match m with
  | .request (.close name) => s.fleet.backlog.count name
  | .request .closeAll | .request .mainWindowClosed => s.fleet.backlog.total
  | _ => 0

/-- The events that a scene accounts for: those that are held back, and those that were reported as
passed on or as given up. -/
def accountedFor (s : Scene σ) : Nat :=
  s.fleet.backlog.total + ((s.journal.reported Activity.flushed?).map Prod.snd).sum +
    (s.journal.timeouts.map Prod.snd).sum

/-- What is added to the count of buffered events is what was held back. -/
theorem eventsBuffered_charge (m : Move σ) (s : Scene σ) :
    ((s.happening m).charge s.handshake).eventsBuffered = s.heldBack m := by
  unfold heldBack
  cases s.happening m <;> rfl

/-- Only requests to close satellites mean that satellites are closed. -/
theorem dropped_happening (m : Move σ) (s : Scene σ) :
    (s.happening m).dropped s.handshake = s.dropped m := by
  have hopening : ∀ r, (s.meaningOfOpening r).dropped s.handshake = 0 := by
    intro r
    unfold meaningOfOpening
    split <;> rfl
  cases m with
  | shift change => rfl
  | request r =>
    cases r with
    | openSatellite name params preferred => exact hopening _
    | forceReopen name params => exact hopening _
    | expire name g =>
      simp only [happening, meaning]
      split <;> rfl
    | invoke operation caller =>
      simp only [happening, meaning]
      split <;> rfl
    | _ => rfl

/-- A move that gives up no opening reports none as given up, not even if it was to give one up. -/
theorem timeouts_move {m : Move σ} {s : Scene σ}
    (h : ∀ name g, s.happening m ≠ .expired name g) :
    (s.move m).journal.timeouts = s.journal.timeouts := by
  cases m with
  | shift change => rfl
  | request r =>
    cases hr : r.givesUp with
    | false => exact (patient_perform hr s).timeouts
    | true =>
      cases r with
      | expire name g =>
        have hanswer : (s.expire name g).1 = false := by
          refine Bool.eq_false_iff.mpr fun hanswer => h name g ?_
          exact if_pos hanswer
        exact (discreet_expire hanswer).timeouts
      | _ => cases hr

/-- What is given up is reported as given up, with the number of events held back until then. -/
theorem timeouts_of_expired {m : Move σ} {s : Scene σ} {name : String} {g : Nat}
    (h : s.happening m = .expired name g) : (s.move m).journal.timeouts =
      s.journal.timeouts ++ [(name, s.fleet.backlog.count name)] := by
  have hmove := move_of_expired h
  subst hmove
  have hanswer : (s.expire name g).1 = true := by
    cases hanswer : (s.expire name g).1 with
    | true => rfl
    | false => simp [happening, meaning, hanswer] at h
  have hjournal : (s.move (.request (.expire name g))).journal =
      s.journal ++ [.report (.openTimedOut name (s.fleet.backlog.count name))] :=
    (expire_of_awaited hanswer).2.1
  rw [hjournal, timeouts_append]
  rfl

/-- The number of events reported as given up grows by those that were given up. -/
theorem sum_timeouts_move (m : Move σ) (s : Scene σ) :
    ((s.move m).journal.timeouts.map Prod.snd).sum =
      (s.journal.timeouts.map Prod.snd).sum + (s.happening m).givenUp s.handshake := by
  by_cases hexpired : ∃ name g, s.happening m = .expired name g
  · obtain ⟨name, g, hexpired⟩ := hexpired
    rw [timeouts_of_expired hexpired, hexpired, List.map_append, List.sum_append]
    rfl
  · have hnot : ∀ name g, s.happening m ≠ .expired name g := fun name g h =>
      hexpired ⟨name, g, h⟩
    rw [timeouts_move hnot, Happening.givenUp_eq_zero hnot, Nat.add_zero]

/-- A move accounts for the events that it holds back, and for all that were held back before, but
for those that it drops by closing satellites. -/
theorem accountedFor_move {s : Scene σ} (hu : s.fleet.roster.Unique) (m : Move σ) :
    (s.move m).accountedFor + s.dropped m = s.accountedFor + s.heldBack m := by
  obtain ⟨news, hnews⟩ := accounted_move hu m
  have htotal := (s.turn_move m).total_backlog
  have hflushed : (((s.move m).journal.reported Activity.flushed?).map Prod.snd).sum =
      ((s.journal.reported Activity.flushed?).map Prod.snd).sum +
        (s.happening m).passedOn s.handshake := by
    rw [hnews.journal, reported_append, List.map_append, List.sum_append, hnews.flushed]
  have htimeouts := sum_timeouts_move m s
  have hbefore : s.handshake.backlog = s.fleet.backlog := rfl
  have hafter : (s.move m).handshake.backlog = (s.move m).fleet.backlog := rfl
  rw [dropped_happening, eventsBuffered_charge, hbefore, hafter] at htotal
  unfold accountedFor
  omega

/-- The same of a run. -/
theorem accountedFor_run (moves : List (Move σ)) {s : Scene σ} (hu : s.fleet.roster.Unique) :
    (s.run moves).accountedFor + (s.along dropped moves).sum =
      s.accountedFor + (s.along heldBack moves).sum := by
  induction moves generalizing s with
  | nil => rfl
  | cons m rest ih =>
    have hfirst := accountedFor_move hu m
    have hrest := ih (unique_move hu m)
    have hrun : s.run (m :: rest) = (s.move m).run rest := rfl
    rw [hrun]
    simp only [along, List.sum_cons]
    omega

/-- Events are counted as held back once for each satellite that was starting up. -/
theorem eventsBuffered_run (moves : List (Move σ)) {s : Scene σ} (hu : s.fleet.roster.Unique) :
    (s.run moves).fleet.tally.eventsBuffered =
      s.fleet.tally.eventsBuffered + (s.along heldBack moves).sum := by
  have hrun := charged_run Tally.eventsBuffered (fun _ _ => rfl) (fun _ => rfl) moves hu
  simp only [eventsBuffered_charge] at hrun
  exact hrun

/-- On every run, an event that is dispatched is counted as held back once for each satellite that
is starting up. The events that were counted are those that are held back now, those that were
reported as passed on, those that were reported as given up, and those that were held back for
satellites when these were closed. -/
theorem buffered_conserved (role : Role) (platform : Platform) (session : Payload) (world : σ)
    (moves : List (Move σ)) :
    let first := start role platform session world
    let s := first.run moves
    s.fleet.metrics.tally.eventsBuffered = (first.along heldBack moves).sum ∧
    s.fleet.metrics.tally.eventsBuffered =
      s.fleet.backlog.total +
        ((s.journal.reported Activity.flushed?).map Prod.snd).sum +
        (s.journal.timeouts.map Prod.snd).sum + (first.along dropped moves).sum := by
  intro first s
  have hu : first.fleet.roster.Unique := Roster.unique_empty
  have hcounted : s.fleet.tally.eventsBuffered = (first.along heldBack moves).sum :=
    (eventsBuffered_run moves hu).trans (Nat.zero_add _)
  have haccounted : s.accountedFor + (first.along dropped moves).sum =
      (first.along heldBack moves).sum := (accountedFor_run moves hu).trans (Nat.zero_add _)
  exact ⟨hcounted, hcounted.trans haccounted.symm⟩

end Scene

end SatelliteWindows
