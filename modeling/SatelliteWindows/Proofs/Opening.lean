import SatelliteWindows.Proofs.Expiry
import SatelliteWindows.Proofs.Provisions
import SatelliteWindows.Proofs.Reopening

/-!
# What becomes of an opening

To open a satellite means one of two things. Its live window is brought to the front and told so, or
another window is asked for. Which one it is depends on the roster and on the platform alone, and
each of them does the same whatever fails: the shell, the window, or the request for a window. This
module says of both everything that is done and everything that is remembered.
-/

namespace SatelliteWindows

namespace Scene

open Journal

variable {σ : Type}

/-! ## Telling windows -/

/-- Windows were told something, and asked to do something, on the way from one scene to another:
that is written down, what was not taken is counted, and nothing else is remembered. -/
structure Told (notice : Journal) (s t : Scene σ) : Prop where
  /-- What is written down. -/
  journal : t.journal = s.journal ++ notice
  /-- What is remembered. -/
  fleet : t.fleet = { s.fleet with
    tally := { s.fleet.tally with
      deliveriesFailed := s.fleet.tally.deliveriesFailed + notice.refusals.length } }

/-- To do nothing is to tell nobody anything. -/
theorem Told.refl (s : Scene σ) : Told [] s s := ⟨(List.append_nil _).symm, rfl⟩

/-- What is told in two stretches is told in both together. -/
theorem Told.trans {a b : Journal} {s t u : Scene σ} (hst : Told a s t) (htu : Told b t u) :
    Told (a ++ b) s u where
  journal := by rw [htu.journal, hst.journal, List.append_assoc]
  fleet := by
    rw [htu.fleet, hst.fleet, refusals_append, List.length_append]
    simp only [Nat.add_assoc]

/-- What is no message is only written down. -/
theorem told_record {e : Effect} (he : e.attempt? = none) (s : Scene σ) (world : σ) :
    Told [e] s ({ s with world := world }.record e) := by
  have hnone : refusals [e] = [] := by simp [refusals, attempts, he]
  refine ⟨rfl, ?_⟩
  rw [hnone]
  rfl

variable [Desktop σ]

/-- What is written down of a message that is handed to a window. -/
def handing (name : String) (w : WindowId) (m : Message) (s : Scene σ) : Journal :=
  (Lot.handed (Desktop.deliver w m s.world).1).effects m ⟨name, w⟩

/-- A message that is handed over is all that is told. -/
theorem told_deliver (name : String) (w : WindowId) (m : Message) (s : Scene σ) :
    Told (s.handing name w m) s (s.deliver name w m) := by
  have hcount : (s.handing name w m).refusals.length =
      (Lot.handed (Desktop.deliver w m s.world).1).failures :=
    congrArg Tally.deliveriesFailed (Lot.tally_effects m ⟨name, w⟩ _)
  rw [deliver_eq]
  refine ⟨rfl, ?_⟩
  rw [hcount]

/-! ## Asking for another window -/

/-- Another window was asked for, on the given desktop and after the given notice. -/
structure AskedAnew (name : String) (params : Option Payload) (request : OpenRequest)
    (notice : Journal) (desktop : σ) (s t : Scene σ) : Prop where
  /-- What was done, in order: the notice, one request, and a report with the size that was asked
  for, whether or not the request failed. -/
  journal : t.journal = s.journal ++ notice ++
    [.openRequest request (Desktop.openWindow request desktop).1,
      .report (.opening name request.size.width request.size.height)]
  /-- What became of the desktop. -/
  world : t.world = (Desktop.openWindow request desktop).2
  /-- Events are held back for the satellite, and what was held back already is kept. -/
  queue : t.fleet.backlog.queue? name = some (s.fleet.backlog.held name)
  /-- The same is held back for other satellites. -/
  others : ∀ other, other ≠ name → t.fleet.backlog.queue? other = s.fleet.backlog.queue? other
  /-- Parameters that are given take the place of those that were kept for the satellite. -/
  startup : ∀ other, t.fleet.startup.get? other =
    (if name == other then params else none).or (s.fleet.startup.get? other)
  /-- The satellite is awaited under the next number. -/
  awaited : ∀ other, t.fleet.awaited.get? other =
    if other = name then some (s.fleet.generation + 1) else s.fleet.awaited.get? other
  /-- The number is taken, the opening is counted with the messages that were not taken, and
  nothing else is remembered. -/
  fleet : t.fleet = { s.fleet with
    backlog := t.fleet.backlog
    startup := t.fleet.startup
    awaited := t.fleet.awaited
    generation := s.fleet.generation + 1
    tally := { s.fleet.tally with
      opensRequested := s.fleet.tally.opensRequested + 1
      deliveriesFailed := s.fleet.tally.deliveriesFailed + notice.refusals.length } }

/-- A satellite that is opened anew is asked for with the next number. -/
theorem askedAnew_openAnew {notice : Journal} {s u : Scene σ} (h : Told notice s u) (name : String)
    (params : Option Payload) (placement : Placement) :
    (u.openAnew name params placement).1 = .opened (s.fleet.generation + 1) ∧
      AskedAnew name params (u.requestFor name placement) notice u.world s
        (u.openAnew name params placement).2 := by
  have hfleet : (u.openAnew name params placement).2.fleet = u.fleet.expect name params := rfl
  have hstartup := congrArg Provisions.startup (provisions_openAnew name params placement u)
  refine ⟨?_, ?_, rfl, ?_, fun other hne => ?_, fun other => ?_, fun other => ?_, ?_⟩
  · show Opening.opened (u.fleet.generation + 1) = _
    rw [h.fleet]
  · simp [openAnew, requestWindow, report, record, alter, h.journal]
  · rw [hfleet, h.fleet]
    exact (Backlog.queue?_hold _ name name).trans (if_pos rfl)
  · rw [hfleet, h.fleet]
    exact (Backlog.queue?_hold _ name other).trans (if_neg hne)
  · have hget := congrArg (fun startup => startup.get? other) hstartup
    rw [h.fleet, Provisions.get?_supply] at hget
    exact hget
  · rw [hfleet, h.fleet]
    exact NameMap.get?_put _ name other _
  · rw [hfleet, h.fleet]
    rfl

/-! ## Bringing a window to the front -/

/-- How a live window is brought to the front: by the shell where that is how it is done, and by the
window itself elsewhere. -/
def attend (name : String) (w : WindowId) (s : Scene σ) : Scene σ :=
  match s.fleet.platform.reactivation with
  | .hostActivate => s.raise (WindowName.ofSatellite name)
  | _ => s.focus w

/-- What is written down of it. -/
def attention (name : String) (w : WindowId) (s : Scene σ) : Effect :=
  match s.fleet.platform.reactivation with
  | .hostActivate => .raise (WindowName.ofSatellite name)
      (Desktop.raise (WindowName.ofSatellite name) s.world).1
  | _ => .focus w (Desktop.focus w s.world).1

/-- An attempt to bring a window to the front is written down, and nothing else is done. -/
theorem attend_eq (name : String) (w : WindowId) (s : Scene σ) :
    (s.attend name w).fleet = s.fleet ∧
      (s.attend name w).journal = s.journal ++ [s.attention name w] := by
  unfold attention attend
  cases s.fleet.platform.reactivation <;> exact ⟨rfl, rfl⟩

/-- The live window of a satellite was brought to the front, and told so. -/
structure BroughtForward (name : String) (params : Option Payload) (w : WindowId)
    (s t : Scene σ) : Prop where
  /-- What was done, in order: an attempt to bring the window to the front, one message with the
  parameters, and a report, whether or not the window or the shell failed. -/
  journal : t.journal = s.journal ++ [s.attention name w] ++
    (s.attend name w).handing name w (.reactivated params) ++ [.report (.reactivated name)]
  /-- What became of the desktop. -/
  world : t.world = (Desktop.deliver w (.reactivated params) (s.attend name w).world).2
  /-- That is counted with the message if it was not taken, and nothing else is remembered. -/
  fleet : t.fleet = { s.fleet with
    tally := { s.fleet.tally with
      reactivations := s.fleet.tally.reactivations + 1
      deliveriesFailed := s.fleet.tally.deliveriesFailed +
        ((s.attend name w).handing name w (.reactivated params)).refusals.length } }

/-- A satellite that is brought forward gets its window to the front and its params. -/
theorem broughtForward_reactivate (name : String) (params : Option Payload) (w : WindowId)
    (s : Scene σ) :
    BroughtForward name params w s ((s.attend name w).reactivate name w params) := by
  obtain ⟨hfleet, hjournal⟩ := attend_eq name w s
  -- the count comes before the message, and the message does not depend on it
  have htold := told_deliver name w (.reactivated params)
    ((s.attend name w).count fun t => { t with reactivations := t.reactivations + 1 })
  refine ⟨?_, ?_, ?_⟩
  · refine (congrArg (· ++ [.report (.reactivated name)]) htold.journal).trans ?_
    rw [← hjournal]
    rfl
  · unfold reactivate
    exact world_deliver name w _ _
  · refine htold.fleet.trans ?_
    dsimp only [count, alter]
    rw [hfleet]
    rfl

/-- Where live windows are not opened anew, the live window of a satellite is brought to the
front. -/
theorem openPlaced_of_live {name : String} {s : Scene σ} {w : WindowId}
    (hrole : s.fleet.role = .main) (hfind : s.find? name = some w)
    (hpolicy : s.fleet.platform.reactivation ≠ .reopen) (params : Option Payload)
    (placement : Placement) :
    s.openPlaced name params placement =
      (.ok .reactivated, (s.attend name w).reactivate name w params) := by
  unfold openPlaced attend
  rw [hrole, hfind]
  dsimp only
  cases hcase : s.fleet.platform.reactivation with
  | hostActivate | refocus => rfl
  | reopen => exact absurd hcase hpolicy

/-! ## Openings -/

/-- The live window of a satellite, if there is one, is told that it is about to be opened again. -/
def forewarn (name : String) (s : Scene σ) : Scene σ :=
  (s.find? name).elim s fun w => s.deliver name w .pendingReactivate

/-- What is written down of it. -/
def warning (name : String) (s : Scene σ) : Journal :=
  (s.find? name).elim [] fun w => s.handing name w .pendingReactivate

/-- A satellite is told that a window is asked for again, if it is known to be open. -/
theorem told_forewarn (name : String) (s : Scene σ) :
    Told (s.warning name) s (s.forewarn name) := by
  unfold warning forewarn
  cases s.find? name with
  | none => exact .refl s
  | some w => exact told_deliver name w .pendingReactivate s

/-- Otherwise another window is asked for, once the live one has been told. -/
theorem openPlaced_anew {name : String} {s : Scene σ} (hrole : s.fleet.role = .main)
    (hanew : s.find? name = none ∨ s.fleet.platform.reactivation = .reopen)
    (params : Option Payload) (placement : Placement) :
    s.openPlaced name params placement =
      ((s.forewarn name).openAnew name params placement).map .ok id := by
  unfold openPlaced forewarn
  rw [hrole]
  dsimp only
  cases hfind : s.find? name with
  | none => rfl
  | some w =>
    rw [hanew.resolve_left (by simp [hfind])]
    rfl

/-- What a move is answered with, if it is a request. -/
def answer? (m : Move σ) (s : Scene σ) : Option (Except Fault Answer) :=
  match m with
  | .request r => some (s.perform r).1
  | .shift _ => none

/-- Only requests to open a satellite are answered with the number of an opening. -/
theorem meaning_of_answer {r : Request} {s : Scene σ} {g : Nat}
    (h : (s.perform r).1 = .ok (.opening (.opened g))) : ∃ name, s.meaning r = .opened name g := by
  have hdone : ∀ {α : Type} (e : Except Fault α),
      e.map (fun _ => Answer.done) ≠ .ok (.opening (.opened g)) := fun e => by
    cases e <;> exact nofun
  cases r with
  | openSatellite name params preferred => exact ⟨name, answer_eq_opened_iff.mp h⟩
  | forceReopen | invoke => exact absurd h (hdone _)
  | _ => cases h

/-- A number that an opening was answered with on a run is not given again. -/
theorem generation_of_answer {moves : List (Move σ)} {s : Scene σ} {k : Nat}
    (h : some (.ok (.opening (.opened k))) ∈ s.along answer? moves) :
    k ≤ (s.run moves).fleet.generation := by
  induction moves generalizing s with
  | nil => cases h
  | cons m rest ih =>
    rcases List.mem_cons.mp h with hanswer | hlater
    · cases m with
      | shift change => cases hanswer
      | request r =>
        obtain ⟨name, hmeaning⟩ := meaning_of_answer (Option.some.inj hanswer).symm
        have hopening : (s.run []).happening (.request r) = .opened name k := hmeaning
        exact generation_le_run hopening
    · exact ih hlater

/-- The request for the window of a satellite that may be anywhere: as large as preferred, but in
neither dimension larger than the screen. -/
def fitting (name : String) (preferred screen : Size) : OpenRequest where
  name := name
  windowName := WindowName.ofSatellite name
  size := ⟨min preferred.width screen.width, min preferred.height screen.height⟩
  position := none

/-- On every run of the main window, on every platform and whatever fails, the request to open a
satellite succeeds. Where the satellite has a live window and the platform can bring it to the
front, that is done, and nothing is asked for or remembered. Otherwise the live window, if there is
one, is told that it is about to be opened again, and another window is asked for under a number
that no opening was answered with before. -/
theorem opening_case_law (platform : Platform) (session : Payload) (world : σ)
    (moves : List (Move σ)) (name : String) (params : Option Payload) (preferred : Size) :
    let first := start .main platform session world
    let s := first.run moves
    let r : Request := .openSatellite name params preferred
    let g := s.fleet.generation + 1
    (∀ w, s.find? name = some w → platform.reactivation ≠ .reopen →
      (s.perform r).1 = .ok (.opening .reactivated) ∧
        BroughtForward name params w s (s.perform r).2) ∧
    (s.find? name = none ∨ platform.reactivation = .reopen →
      (s.perform r).1 = .ok (.opening (.opened g)) ∧
        (∀ k, some (.ok (.opening (.opened k))) ∈ first.along answer? moves → k < g) ∧
        AskedAnew name params
          (fitting name preferred (Desktop.screen (s.forewarn name).world)) (s.warning name)
          (s.forewarn name).world s (s.perform r).2) := by
  intro first s r g
  have hstation : s.station = (.main, platform) := station_run moves first
  have hrole : s.fleet.role = .main := congrArg Prod.fst hstation
  have hplatform : s.fleet.platform = platform := congrArg Prod.snd hstation
  have hperform : s.perform r = (s.openPlaced name params (.fit preferred)).map
      (fun o => o.map .opening) id := rfl
  constructor
  · intro w hfind hpolicy
    rw [hperform, openPlaced_of_live hrole hfind (hplatform ▸ hpolicy)]
    exact ⟨rfl, broughtForward_reactivate name params w s⟩
  · intro hanew
    obtain ⟨hopened, hasked⟩ :=
      askedAnew_openAnew (told_forewarn name s) name params (.fit preferred)
    rw [hperform, openPlaced_anew hrole (hplatform ▸ hanew)]
    refine ⟨?_, fun k hk => Nat.lt_succ_of_le (generation_of_answer hk), hasked⟩
    exact congrArg (fun o => Except.ok (Answer.opening o)) hopened

/-- A satellite whose window has registered and refuses messages. -/
def unresponsive : List (Move Simulation) :=
  [.request (.openSatellite "chart" (some (.int 1)) ⟨400, 300⟩), .request (.register "chart" 0),
    .shift fun d => { d.modify 0 fun window => { window with failing := true } with
      failingRaises := true, failingOpens := true }]

/-- What is written down of the warning to such a window. -/
def warningRefused : Journal :=
  let refusal : Fault :=
    .delivery "chart" "notify-pending-reactivate" "satellite handler raised"
  [.delivery "chart" 0 .pendingReactivate (some refusal),
    .report (.deliveryFailed "chart" "notify-pending-reactivate" refusal.message)]

/-- A shell that fails brings no window to the front, and the window does not take what it is told;
the satellite counts as brought to the front all the same. Where live windows are opened anew, the
window does not take the warning either, and no window comes up; the opening counts. -/
theorem opening_of_unresponsive :
    let first := fun platform => start .main platform .null
      ({ screen := ⟨1280, 800⟩ } : Simulation)
    let r : Request := .openSatellite "chart" (some (.int 2)) ⟨4000, 300⟩
    let s := (first .nativeShell).run unresponsive
    let t := (first (.browser .chromium)).run unresponsive
    (s.find? "chart" = some 0 ∧ (s.perform r).1 = .ok (.opening .reactivated) ∧
      BroughtForward "chart" (some (.int 2)) 0 s (s.perform r).2) ∧
    t.find? "chart" = some 0 ∧ (t.perform r).1 = .ok (.opening (.opened 2)) ∧
      AskedAnew "chart" (some (.int 2)) ⟨"chart", "_satellite_chart", ⟨1280, 300⟩, none⟩
        warningRefused t.world t (t.perform r).2 := by
  intro first r s t
  have hs : s.find? "chart" = some 0 := by decide +kernel
  have ht : t.find? "chart" = some 0 := by decide +kernel
  obtain ⟨hforward, -⟩ := opening_case_law .nativeShell .null
    ({ screen := ⟨1280, 800⟩ } : Simulation) unresponsive "chart" (some (.int 2)) ⟨4000, 300⟩
  obtain ⟨-, hanew⟩ := opening_case_law (.browser .chromium) .null
    ({ screen := ⟨1280, 800⟩ } : Simulation) unresponsive "chart" (some (.int 2)) ⟨4000, 300⟩
  obtain ⟨hanswer, -, hasked⟩ := hanew (.inr rfl)
  refine ⟨⟨hs, hforward 0 hs (by decide)⟩, ht, hanswer.trans (by decide +kernel), ?_⟩
  have hworld : (t.forewarn "chart").world = t.world := by decide +kernel
  have hwarning : t.warning "chart" = warningRefused := by decide +kernel
  have hrequest : fitting "chart" ⟨4000, 300⟩ (Desktop.screen t.world) =
      ⟨"chart", "_satellite_chart", ⟨1280, 300⟩, none⟩ := by decide +kernel
  have hasked : AskedAnew "chart" (some (.int 2))
      (fitting "chart" ⟨4000, 300⟩ (Desktop.screen (t.forewarn "chart").world))
      (t.warning "chart") (t.forewarn "chart").world t (t.perform r).2 := hasked
  rw [hworld, hrequest, hwarning] at hasked
  exact hasked

end Scene

end SatelliteWindows
