import SatelliteWindows.Proofs.Books.Metrics
import SatelliteWindows.Proofs.Isolation.Seat
import SatelliteWindows.Proofs.Provisions
import SatelliteWindows.Proofs.Reopening

/-!
# Reports of what was passed on

A flush lets go of the events that were held back, hands them to the live window that is registered
for the satellite, and reports how many they were. It looks for that window only when the events
have been taken off the queue, and it reports them whether or not there is one. So a report can be
trusted exactly if somebody was there: otherwise nothing was handed over, and the events are gone.
-/

namespace SatelliteWindows

namespace Happening

/-- The satellite for which what was held back is to be passed on. -/
def flushes? : Happening → Option String
  | flushed name => some name
  | _ => none

/-- A flush passes on the queue of its satellite, and nothing else does. -/
theorem flushes?_eq_some {x : Happening} {name : String} :
    x.flushes? = some name ↔ x = .flushed name := by
  cases x <;> simp [flushes?]

/-- What is quiet is no flush. -/
theorem flushes?_of_isQuiet {x : Happening} (hx : x.isQuiet = true) : x.flushes? = none := by
  cases x with
  | flushed | dispatched | commanded => cases hx
  | _ => rfl

/-- Nor is a broadcast. -/
theorem flushes?_of_broadcasts {x : Happening} (hx : x.broadcasts = true) :
    x.flushes? = none := by
  cases x with
  | dispatched | commanded => rfl
  | _ => cases hx

end Happening

namespace Scene

open Journal

variable {σ : Type} [Desktop σ]

/-- The attempts of a request, where those in the journal are known. -/
theorem attempts_news {r : Request} {s : Scene σ} {as : List Attempt}
    (h : attempts (s.perform r).2.journal = attempts s.journal ++ as) :
    attempts (s.news r) = as := by
  rw [journal_perform, attempts, List.filterMap_append] at h
  exact List.append_cancel_left h

/-- Whatever is quiet or sent to all satellites is no flush, and reports none. -/
theorem reported_flushed {s : Scene σ} (hu : s.fleet.roster.Unique) (r : Request) :
    (s.news r).reported Activity.flushed? =
      (s.meaning r).flushes?.elim [] fun name => s.flushReport name := by
  cases enters_move (.request r) s with
  | quiet hmeans hentered =>
    obtain ⟨news, hentered, hplain⟩ := hentered
    have hnone : (s.meaning r).flushes? = none := Happening.flushes?_of_isQuiet hmeans
    rw [news_eq_of_journal hentered.journal, hplain.flushed, hnone]
    rfl
  | flushed name hmeans hdoes =>
    obtain ⟨⟨news, hentered, hflushed, -⟩, -⟩ := entered_flush name s
    rw [← hdoes] at hentered
    replace hmeans : s.meaning r = .flushed name := hmeans
    rw [news_eq_of_journal hentered.journal, hflushed, hmeans]
    rfl
  | broadcast message hmeans hpassed hcharged =>
    obtain ⟨lots, hlots⟩ := announced_broadcast hu message
    obtain ⟨news, hentered, hflushed, -⟩ := hlots.entered
    have hnone : (s.meaning r).flushes? = none := Happening.flushes?_of_broadcasts hmeans
    rw [news_eq_of_journal (hcharged.journal.trans hentered.journal), hflushed, hnone]
    rfl

/-- What was held back is handed to the live window of the satellite, if there is one. -/
theorem attempts_flush {s : Scene σ} (hu : s.fleet.roster.Unique) (name : String) :
    attempts (s.flush name).journal = attempts s.journal ++
      (s.find? name).elim [] fun w =>
        handedOver name w ((s.fleet.backlog.held name).map .event) s.world := by
  have hlive : (s.fleet.roster.live s.isAlive name).map Entry.window =
      (s.find? name).toList := by
    rw [Roster.live_eq hu]
    simp [find?, Function.comp_def]
  rw [flush_eq]
  split
  · next hempty =>
    rw [List.isEmpty_iff.mp hempty]
    cases s.find? name <;> exact (List.append_nil _).symm
  · have hreport : ∀ (a : Activity) (t : Scene σ),
        attempts (t.report a).journal = attempts t.journal := by
      intro a t
      simp [report, record, attempts, Effect.attempt?]
    rw [hlive, hreport]
    cases s.find? name with
    | none => exact (List.append_nil _).symm
    | some w => exact attempts_deliverAll name w _ (s.letGo name)

/-- What a request reports as passed on can be trusted: the satellite had a live registered window,
and everything that was held back, as many events as are reported, was handed to that window one
after the other. -/
def ReportsTruly (r : Request) (s : Scene σ) : Prop :=
  ∀ name count, (name, count) ∈ (s.news r).reported Activity.flushed? →
    ∃ w, s.find? name = some w ∧ (s.fleet.backlog.held name).length = count ∧
      attempts (s.news r) = handedOver name w ((s.fleet.backlog.held name).map .event) s.world

/-- What becomes of a flush: its report, what it hands over, and that nothing is held back any
more. -/
structure PassedOn (name : String) (r : Request) (s : Scene σ) : Prop where
  /-- The number of events is reported, whether or not anybody was there. -/
  reported : (s.news r).reported Activity.flushed? =
    if s.fleet.backlog.held name = [] then [] else [(name, (s.fleet.backlog.held name).length)]
  /-- Events are handed over only if there is a live registered window. -/
  attempts : attempts (s.news r) = (s.find? name).elim [] fun w =>
    handedOver name w ((s.fleet.backlog.held name).map .event) s.world
  /-- The queue is gone. -/
  released : (s.perform r).2.fleet.backlog.queue? name = none

/-- That becomes of every flush. -/
theorem passedOn_of_flushed {s : Scene σ} (hu : s.fleet.roster.Unique) {r : Request}
    {name : String} (h : s.meaning r = .flushed name) : PassedOn name r s := by
  have hdoes : (s.perform r).2 = s.flush name := by
    have hpassing := passing_perform r s
    rw [h] at hpassing
    generalize (s.perform r).2 = t at hpassing
    cases hpassing with
    | flushed => rfl
    | silent _ _ quiet => cases quiet
  refine ⟨?_, attempts_news ?_, ?_⟩
  · rw [reported_flushed hu, h]
    simp [Happening.flushes?, flushReport, Backlog.count]
  · rw [hdoes]
    exact attempts_flush hu name
  · have hqueue := queue?_move (.request r) s name
    replace h : s.happening (.request r) = .flushed name := h
    rw [h] at hqueue
    exact hqueue.trans (by simp [Happening.onQueue, Happening.opens, Happening.stops])

/-- On every run, the reports of a request can be trusted exactly if it is no flush, or nothing is
held back, or the satellite has a live registered window. A flush without such a window hands over
nothing and lets go of everything that was held back, and still reports it as passed on. -/
theorem flush_reports_truly_iff (role : Role) (platform : Platform) (session : Payload) (world : σ)
    (moves : List (Move σ)) (r : Request) :
    let s := (start role platform session world).run moves
    (s.ReportsTruly r ↔ ∀ name, s.meaning r = .flushed name →
      s.fleet.backlog.held name = [] ∨ ∃ w, s.find? name = some w) ∧
    ∀ name, s.meaning r = .flushed name → s.PassedOn name r := by
  intro s
  have hu : s.fleet.roster.Unique := unique_run role platform session world moves
  refine ⟨⟨fun htruly name hflushed => ?_, fun hrecipient name count hmem => ?_⟩,
    fun name => passedOn_of_flushed hu⟩
  · by_cases hheld : s.fleet.backlog.held name = []
    · exact .inl hheld
    · have hpassed := passedOn_of_flushed hu hflushed
      obtain ⟨w, hw, -⟩ := htruly name (s.fleet.backlog.held name).length
        (by simp [hpassed.reported, hheld])
      exact .inr ⟨w, hw⟩
  · cases hx : (s.meaning r).flushes? with
    | none =>
      rw [reported_flushed hu, hx] at hmem
      cases hmem
    | some n =>
      have hflushed : s.meaning r = .flushed n := Happening.flushes?_eq_some.mp hx
      have hpassed := passedOn_of_flushed hu hflushed
      rw [hpassed.reported] at hmem
      split at hmem
      · cases hmem
      · next hheld =>
        cases List.mem_singleton.mp hmem
        obtain ⟨w, hw⟩ := (hrecipient _ hflushed).resolve_left hheld
        exact ⟨w, hw, rfl, by rw [hpassed.attempts, hw]; rfl⟩

/-- A satellite is opened, and an event is dispatched before its window has registered. -/
def startingUp : List (Move Simulation) :=
  [.request (.openSatellite "chart" none ⟨400, 300⟩), .request (.dispatchEvent ⟨"tick", .int 1⟩)]

/-- Once the window has registered, the event is handed to it and reported as passed on. -/
theorem flush_with_recipient :
    let s := (start .main .nativeShell .null ({ screen := ⟨1280, 800⟩ } : Simulation)).run
      (startingUp ++ [.request (.register "chart" 0)])
    let r : Request := .flush "chart"
    s.ReportsTruly r ∧ (s.news r).reported Activity.flushed? = [("chart", 1)] ∧
      attempts (s.news r) = [⟨"chart", 0, .event ⟨"tick", .int 1⟩, none⟩] := by
  intro s r
  obtain ⟨htruly, hpassed⟩ := flush_reports_truly_iff .main .nativeShell .null
    ({ screen := ⟨1280, 800⟩ } : Simulation) (startingUp ++ [.request (.register "chart" 0)]) r
  have hpassed : s.PassedOn "chart" r := hpassed "chart" rfl
  refine ⟨htruly.mpr fun name hname => .inr ?_, hpassed.reported.trans ?_,
    hpassed.attempts.trans ?_⟩
  · cases hname
    exact ⟨0, by decide +kernel⟩
  · decide +kernel
  · decide +kernel

/-- Before that nobody is there: the flush hands over nothing, lets go of the event, and reports it
as passed on. -/
theorem flush_without_recipient :
    let s := (start .main .nativeShell .null ({ screen := ⟨1280, 800⟩ } : Simulation)).run
      startingUp
    let r : Request := .flush "chart"
    (s.news r).reported Activity.flushed? = [("chart", 1)] ∧ s.find? "chart" = none ∧
      attempts (s.news r) = [] ∧ (s.perform r).2.fleet.backlog.queue? "chart" = none ∧
      ¬ s.ReportsTruly r := by
  intro s r
  have hnobody : s.find? "chart" = none := by decide +kernel
  have hreported : (s.news r).reported Activity.flushed? = [("chart", 1)] := by decide +kernel
  refine ⟨hreported, hnobody, by decide +kernel, by decide +kernel, fun htruly => ?_⟩
  obtain ⟨w, hw, -⟩ := htruly "chart" 1 (by rw [hreported]; exact List.mem_singleton_self _)
  rw [hnobody] at hw
  cases hw

end Scene

end SatelliteWindows
