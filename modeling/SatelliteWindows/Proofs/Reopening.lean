import SatelliteWindows.Proofs.History
import SatelliteWindows.Simulation

/-!
# Refusals, and windows that are to be opened again

A request that is refused should leave everything as it was, and a window that is told that it is
about to be closed and opened again should be replaced by another one. Every request keeps to both
except the one to reopen a satellite by force. That request closes the window before it is known
whether another one can be asked for, and this module says exactly when it cannot.
-/

namespace SatelliteWindows

namespace Journal

/-- The notices in a journal that a window is about to be closed and opened again. -/
def notices (j : Journal) : List Attempt :=
  j.attempts.filter fun a => decide (a.message = .pendingReactivate)

/-- The notices of two stretches are those of the one and of the other. -/
@[simp] theorem notices_append (j k : Journal) : notices (j ++ k) = notices j ++ notices k := by
  simp [notices, attempts]

end Journal

namespace Scene

open Journal

variable {σ : Type} [Desktop σ]

/-- What a request adds to the journal. -/
def news (r : Request) (s : Scene σ) : Journal := (s.perform r).2.journal.drop s.journal.length

/-- What a request adds to the journal is its news. -/
theorem journal_perform (r : Request) (s : Scene σ) :
    (s.perform r).2.journal = s.journal ++ s.news r := by
  obtain ⟨added, hadded⟩ := (leads_perform r s).journal
  unfold news
  rw [← hadded, List.drop_left]

/-- Whatever is known to be added is its news. -/
theorem news_eq_of_journal {r : Request} {s : Scene σ} {added : Journal}
    (h : (s.perform r).2.journal = s.journal ++ added) : s.news r = added :=
  List.append_cancel_left ((journal_perform r s).symm.trans h)

/-- The notices that a request gives, where those in the journal are known. -/
theorem notices_news {r : Request} {s : Scene σ} {ns : List Attempt}
    (h : notices (s.perform r).2.journal = notices s.journal ++ ns) : notices (s.news r) = ns := by
  rw [journal_perform, notices_append] at h
  exact List.append_cancel_left h

/-- The windows that a request asks for, where those in the journal are known. -/
theorem asked_of_openRequests {r : Request} {s : Scene σ} {qs : List OpenRequest}
    (h : openRequests (s.perform r).2.journal = openRequests s.journal ++ qs) :
    s.asked r = qs := by
  rw [asked_eq] at h
  exact List.append_cancel_left h

/-! ## Windows that can be replaced -/

/-- The live window of a satellite and its place, if the window says where it is. -/
def replaceable? (name : String) (s : Scene σ) : Option (WindowId × Geometry) :=
  (s.find? name).bind fun w =>
    match Desktop.geometry s.world w with
    | .ok g => some (w, g)
    | .error _ => none

/-- Tell a satellite's window that it is about to be opened again, and close it, whether or not it
can be done. -/
def vacate (name : String) (w : WindowId) (s : Scene σ) : Scene σ :=
  ((s.deliver name w .pendingReactivate).closeWindow w).2

/-- Without a window that can be replaced, a forced reopening does nothing. -/
theorem forceReopen_of_none {name : String} {s : Scene σ} (h : s.replaceable? name = none)
    (params : Option Payload) : s.forceReopen name params = (.ok (), s) := by
  unfold replaceable? at h
  unfold forceReopen
  cases hfind : s.find? name with
  | none => rfl
  | some w =>
    rw [hfind] at h
    dsimp only [Option.bind_some] at h ⊢
    cases hgeometry : Desktop.geometry s.world w with
    | error f => rfl
    | ok g =>
      rw [hgeometry] at h
      cases h

/-- A window that can be replaced is vacated first, and then its satellite is opened in the place
where it was. -/
theorem forceReopen_of_some {name : String} {s : Scene σ} {w : WindowId} {g : Geometry}
    (h : s.replaceable? name = some (w, g)) (params : Option Payload) :
    s.forceReopen name params =
      ((s.vacate name w).openPlaced name params (.restore g)).map (fun r => r.map fun _ => ())
        id := by
  unfold replaceable? at h
  unfold forceReopen
  cases hfind : s.find? name with
  | none =>
    rw [hfind] at h
    cases h
  | some v =>
    rw [hfind] at h
    dsimp only [Option.bind_some] at h ⊢
    cases hgeometry : Desktop.geometry s.world v with
    | error f =>
      rw [hgeometry] at h
      cases h
    | ok k =>
      rw [hgeometry] at h
      cases h
      rfl

/-- To vacate a window changes neither where satellites are looked after nor for whom. -/
theorem surroundings_vacate (name : String) (w : WindowId) (s : Scene σ) :
    (s.vacate name w).fleet.role = s.fleet.role ∧
      (s.vacate name w).fleet.platform = s.fleet.platform := by
  unfold vacate deliver
  cases Desktop.deliver w .pendingReactivate s.world with
  | mk fault world => cases fault <;> exact ⟨rfl, rfl⟩

/-- To vacate a window is written down. -/
theorem journal_vacate (name : String) (w : WindowId) (s : Scene σ) :
    notices (s.vacate name w).journal = notices s.journal ++
      [⟨name, w, .pendingReactivate, (Desktop.deliver w .pendingReactivate s.world).1⟩] ∧
    openRequests (s.vacate name w).journal = openRequests s.journal := by
  unfold vacate closeWindow deliver
  cases Desktop.deliver w .pendingReactivate s.world with
  | mk fault world =>
    cases fault <;>
      simp [record, report, count, alter, notices, attempts, openRequests, Effect.attempt?,
        Effect.openRequest?]

/-- A window cannot make room without a trace. -/
theorem vacate_ne (name : String) (w : WindowId) (s : Scene σ) : s.vacate name w ≠ s := by
  intro h
  have hnotices := (journal_vacate name w s).1
  rw [h] at hnotices
  simp at hnotices

/-! ## Refusals -/

/-- A satellite opens no others, and refuses without doing anything. -/
theorem openPlaced_of_satellite {s : Scene σ} (h : s.fleet.role = .satellite) (name : String)
    (params : Option Payload) (placement : Placement) :
    s.openPlaced name params placement = (.error (.notMainWindow name), s) := by
  unfold openPlaced
  rw [h]

/-- The main window is never refused a satellite. -/
theorem openPlaced_of_main {s : Scene σ} (h : s.fleet.role = .main) (name : String)
    (params : Option Payload) (placement : Placement) :
    ∃ o, (s.openPlaced name params placement).1 = .ok o := by
  unfold openPlaced
  rw [h]
  dsimp only
  cases s.find? name with
  | none => exact ⟨_, rfl⟩
  | some w =>
    dsimp only
    cases s.fleet.platform.reactivation <;> exact ⟨_, rfl⟩

/-- An opening that is refused changes nothing. -/
theorem openPlaced_of_error {s : Scene σ} {name : String} {params : Option Payload}
    {placement : Placement} {f : Fault} (h : (s.openPlaced name params placement).1 = .error f) :
    (s.openPlaced name params placement).2 = s := by
  cases hrole : s.fleet.role with
  | satellite => rw [openPlaced_of_satellite hrole]
  | main =>
    obtain ⟨o, ho⟩ := openPlaced_of_main hrole name params placement
    rw [ho] at h
    cases h

/-- A call that cannot be served changes nothing. -/
theorem serveCall_of_error {s : Scene σ} {c : Call} {caller : Caller} {f : Fault}
    (h : (s.serveCall c caller).1 = .error f) : (s.serveCall c caller).2 = s := by
  cases c with
  | register | registerChild =>
    unfold serveCall at h ⊢
    dsimp only at h ⊢
    split at h
    · cases h
    · rfl
  | flush | unregisterChild => cases h

/-- A call that is refused does nothing. -/
theorem invoke_of_error {s : Scene σ} {operation : String} {caller : Caller} {f : Fault}
    (h : (s.invoke operation caller).1 = .error f) : (s.invoke operation caller).2 = s := by
  unfold invoke at h ⊢
  cases hcall : s.fleet.calls.get? operation with
  | none => rfl
  | some c =>
    rw [hcall] at h
    exact serveCall_of_error h

/-- A request ousts a window if it is to reopen by force a satellite whose window can be replaced,
but made where no satellite can be opened. -/
def Ousts (r : Request) (s : Scene σ) : Prop :=
  ∃ name params, r = .forceReopen name params ∧ s.fleet.role = .satellite ∧
    (s.replaceable? name).isSome = true

/-- A request that ousts a window is refused, and the window is vacated all the same. -/
theorem perform_of_ousts {r : Request} {s : Scene σ} (h : s.Ousts r) :
    ∃ name params w g, r = .forceReopen name params ∧ s.replaceable? name = some (w, g) ∧
      s.perform r = (.error (.notMainWindow name), s.vacate name w) := by
  obtain ⟨name, params, rfl, hrole, hsome⟩ := h
  obtain ⟨⟨w, g⟩, hwg⟩ := Option.isSome_iff_exists.mp hsome
  have hvacant : (s.vacate name w).fleet.role = .satellite :=
    (surroundings_vacate name w s).1.trans hrole
  refine ⟨name, params, w, g, rfl, hwg, ?_⟩
  dsimp only [perform]
  rw [forceReopen_of_some hwg, openPlaced_of_satellite hvacant]
  rfl

/-- A forced reopening that ousts no window is not refused. -/
theorem forceReopen_of_not_ousts {s : Scene σ} {name : String} {params : Option Payload}
    (h : ¬ s.Ousts (.forceReopen name params)) : ∃ u, (s.forceReopen name params).1 = .ok u := by
  cases hwg : s.replaceable? name with
  | none => exact ⟨(), by rw [forceReopen_of_none hwg]⟩
  | some place =>
    have hrole : (s.vacate name place.1).fleet.role = .main := by
      rw [(surroundings_vacate name place.1 s).1]
      cases hrole : s.fleet.role with
      | main => rfl
      | satellite => exact absurd ⟨name, params, rfl, hrole, by rw [hwg]; rfl⟩ h
    obtain ⟨o, ho⟩ := openPlaced_of_main hrole name params (.restore place.2)
    refine ⟨(), ?_⟩
    rw [forceReopen_of_some hwg, Prod.map_fst, ho]
    rfl

/-- A request that ousts no window changes nothing if it is refused. -/
theorem perform_of_error {r : Request} {s : Scene σ} (hr : ¬ s.Ousts r) {f : Fault}
    (h : (s.perform r).1 = .error f) : (s.perform r).2 = s := by
  cases r with
  | openSatellite name params preferred =>
    refine openPlaced_of_error (f := f) ?_
    dsimp only [perform, Prod.map_fst, openSatellite] at h
    cases ho : (s.openPlaced name params (.fit preferred)).1 with
    | error k =>
      rw [ho] at h
      cases h
      rfl
    | ok o =>
      rw [ho] at h
      cases h
  | forceReopen name params =>
    obtain ⟨u, hu⟩ := forceReopen_of_not_ousts hr
    dsimp only [perform, Prod.map_fst] at h
    rw [hu] at h
    cases h
  | invoke operation caller =>
    refine invoke_of_error (f := f) ?_
    dsimp only [perform, Prod.map_fst] at h
    cases hu : (s.invoke operation caller).1 with
    | error k =>
      rw [hu] at h
      cases h
      rfl
    | ok u =>
      rw [hu] at h
      cases h
  | expire name generation => cases h
  | _ => cases h

/-- Requests that are refused change nothing of what is remembered, of the desktop and of what was
done, except exactly those that oust a window: they are refused too, but the window has been told
that it is opened again, and was to be closed. -/
theorem refusals_change_nothing_iff (r : Request) (s : Scene σ) :
    ((∀ f, (s.perform r).1 = .error f → (s.perform r).2 = s) ↔ ¬ s.Ousts r) ∧
    (s.Ousts r → ∃ name params w g, r = .forceReopen name params ∧
      s.replaceable? name = some (w, g) ∧
      s.perform r = (.error (.notMainWindow name), s.vacate name w)) := by
  refine ⟨⟨fun hatomic housts => ?_, fun hnot f hf => perform_of_error hnot hf⟩,
    perform_of_ousts⟩
  obtain ⟨name, params, w, g, -, -, hperform⟩ := perform_of_ousts housts
  have hsame := hatomic (.notMainWindow name) (by rw [hperform])
  rw [hperform] at hsame
  exact vacate_ne name w s hsame

/-- A satellite that has registered with a window where no satellite can be opened. -/
def confined : Scene Simulation :=
  (start .satellite .nativeShell .null
    { screen := ⟨1280, 800⟩
      windows := [{ name := "chart", geometry := ⟨⟨400, 300⟩, Point.origin⟩ }] }).move
    (.request (.register "chart" 0))

/-- A forced reopening is refused there when the window has been closed already. -/
theorem window_closed_before_refusal :
    let r : Request := .forceReopen "chart" none
    (confined.perform r).1 = .error (.notMainWindow "chart") ∧ (confined.perform r).2 ≠ confined ∧
      confined.isAlive 0 = true ∧ (confined.perform r).2.isAlive 0 = false := by
  decide +kernel

/-! ## Notices -/

/-- Whether a window is asked for if a satellite is opened. -/
def AsksAnew (name : String) (s : Scene σ) : Prop :=
  s.fleet.role = .main ∧
    (s.find? name = none ∨ s.fleet.platform.reactivation = .reopen)

/-- A message that is handed over is a notice if it says so. -/
theorem notices_deliver (name : String) (w : WindowId) (m : Message) (s : Scene σ) :
    notices (s.deliver name w m).journal = notices s.journal ++
      if m = .pendingReactivate then [⟨name, w, m, (Desktop.deliver w m s.world).1⟩] else [] := by
  unfold deliver
  cases Desktop.deliver w m s.world with
  | mk fault world =>
    cases fault <;> by_cases hm : m = .pendingReactivate <;>
      simp [record, report, count, alter, notices, attempts, Effect.attempt?, hm]

/-- To bring a window to the front gives no notice. -/
theorem notices_reactivate (name : String) (w : WindowId) (params : Option Payload)
    (s : Scene σ) : notices (s.reactivate name w params).journal = notices s.journal := by
  unfold reactivate report record
  rw [notices_append, notices_deliver, if_neg (by simp), List.append_nil]
  exact List.append_nil _

/-- An opening that asks for a window asks for one of the satellite, once. -/
theorem openRequests_of_asksAnew {name : String} {s : Scene σ} (h : s.AsksAnew name)
    (params : Option Payload) (placement : Placement) :
    ∃ q, q.name = name ∧ openRequests (s.openPlaced name params placement).2.journal =
      openRequests s.journal ++ [q] := by
  obtain ⟨hrole, hask⟩ := h
  unfold openPlaced
  rw [hrole]
  dsimp only
  cases hfind : s.find? name with
  | none => exact ⟨_, rfl, openRequests_openAnew name params placement s⟩
  | some w =>
    have hreopen : s.fleet.platform.reactivation = .reopen :=
      hask.resolve_left (by simp [hfind])
    have hsame := (frugal_deliver name w .pendingReactivate s).openRequests
    dsimp only
    rw [hreopen]
    refine ⟨(s.deliver name w .pendingReactivate).requestFor name placement, rfl, ?_⟩
    rw [← hsame]
    exact openRequests_openAnew name params placement _

/-- Any other opening neither asks for a window nor gives notice to one. -/
theorem journal_of_not_asksAnew {name : String} {s : Scene σ} (h : ¬ s.AsksAnew name)
    (params : Option Payload) (placement : Placement) :
    notices (s.openPlaced name params placement).2.journal = notices s.journal ∧
      openRequests (s.openPlaced name params placement).2.journal = openRequests s.journal := by
  unfold openPlaced
  cases hrole : s.fleet.role with
  | satellite => exact ⟨rfl, rfl⟩
  | main =>
    have hnot := not_or.mp fun hask => h ⟨hrole, hask⟩
    dsimp only
    cases hfind : s.find? name with
    | none => exact absurd hfind hnot.1
    | some w =>
      dsimp only
      cases hpolicy : s.fleet.platform.reactivation with
      | reopen => exact absurd hpolicy hnot.2
      | hostActivate =>
        refine ⟨?_, ((calm_raise _ s).trans (calm_reactivate name w params _)).openRequests⟩
        rw [notices_reactivate]
        simp [raise, record, notices, attempts, Effect.attempt?]
      | refocus =>
        refine ⟨?_, ((calm_focus w s).trans (calm_reactivate name w params _)).openRequests⟩
        rw [notices_reactivate]
        simp [focus, record, notices, attempts, Effect.attempt?]

/-- A request keeps its word if, where it gives notice to a window, it asks for exactly one window,
of the satellite that it is about. -/
def KeepsWord (name : String) (r : Request) (s : Scene σ) : Prop :=
  notices (s.news r) ≠ [] → ∃ q, s.asked r = [q] ∧ q.name = name

/-- The request to open a satellite always keeps its word. -/
theorem keepsWord_openSatellite (name : String) (params : Option Payload) (preferred : Size)
    (s : Scene σ) : s.KeepsWord name (.openSatellite name params preferred) := by
  intro hnotices
  by_cases hask : s.AsksAnew name
  · obtain ⟨q, hname, hq⟩ := openRequests_of_asksAnew hask params (.fit preferred)
    exact ⟨q, asked_of_openRequests hq, hname⟩
  · obtain ⟨hsame, -⟩ := journal_of_not_asksAnew hask params (.fit preferred)
    refine absurd (notices_news (r := .openSatellite name params preferred) ?_) hnotices
    exact hsame.trans (List.append_nil _).symm

/-- A window that is vacated gets notice, so its satellite has to be one that a window is asked for
then. -/
theorem keepsWord_forceReopen_iff {name : String} {s : Scene σ} {w : WindowId} {g : Geometry}
    (h : s.replaceable? name = some (w, g)) (params : Option Payload) :
    s.KeepsWord name (.forceReopen name params) ↔ (s.vacate name w).AsksAnew name := by
  obtain ⟨hnotice, hrequests⟩ := journal_vacate name w s
  have hafter : (s.perform (.forceReopen name params)).2 =
      ((s.vacate name w).openPlaced name params (.restore g)).2 := by
    dsimp only [perform]
    rw [forceReopen_of_some h]
    rfl
  constructor
  · intro hkeeps
    by_contra hask
    obtain ⟨hsame, hnone⟩ := journal_of_not_asksAnew hask params (.restore g)
    rw [← hafter, hnotice] at hsame
    rw [← hafter, hrequests] at hnone
    have hasked : s.asked (.forceReopen name params) = [] :=
      asked_of_openRequests (hnone.trans (List.append_nil _).symm)
    obtain ⟨q, hq, -⟩ := hkeeps (by rw [notices_news hsame]; simp)
    rw [hasked] at hq
    cases hq
  · intro hask _
    obtain ⟨q, hname, hq⟩ := openRequests_of_asksAnew hask params (.restore g)
    rw [← hafter, hrequests] at hq
    exact ⟨q, asked_of_openRequests hq, hname⟩

/-- The request to open a satellite keeps its word always. The request to reopen it by force does so
exactly if there is no window that can be replaced, or satellites can be opened here and, once the
window has been told and was to be closed, no window of the satellite is alive or the platform is
one that opens live windows anew. -/
theorem notices_kept_iff (name : String) (params : Option Payload) (s : Scene σ) :
    (∀ preferred, s.KeepsWord name (.openSatellite name params preferred)) ∧
    (s.KeepsWord name (.forceReopen name params) ↔
      ∀ w g, s.replaceable? name = some (w, g) → s.fleet.role = .main ∧
        ((s.vacate name w).find? name = none ∨ s.fleet.platform.reactivation = .reopen)) := by
  refine ⟨fun preferred => keepsWord_openSatellite name params preferred s, ?_⟩
  cases hwg : s.replaceable? name with
  | none =>
    refine ⟨fun _ w g h => (by cases h), fun _ hnotices => absurd ?_ hnotices⟩
    refine notices_news (r := .forceReopen name params) ?_
    dsimp only [perform]
    rw [forceReopen_of_none hwg]
    exact (List.append_nil _).symm
  | some place =>
    obtain ⟨hrole, hplatform⟩ := surroundings_vacate name place.1 s
    rw [keepsWord_forceReopen_iff hwg]
    unfold AsksAnew
    rw [hrole, hplatform]
    constructor
    · rintro hask w g h
      cases h
      exact hask
    · exact fun hask => hask place.1 place.2 rfl

/-- A satellite of the main window, registered with a window that cannot be closed, on a platform
that focuses live windows. -/
def stubborn : Scene Simulation :=
  (start .main (.browser .gecko) .null
    { screen := ⟨1280, 800⟩
      windows := [{ name := "chart", geometry := ⟨⟨400, 300⟩, Point.origin⟩
                    defects := { close := true } }] }).move
    (.request (.register "chart" 0))

/-- A window that cannot be closed gets notice that it is opened again, and is brought to the front
instead. A window that is closed before the request is refused gets notice too. -/
theorem notice_without_window :
    let r : Request := .forceReopen "chart" none
    ((stubborn.perform r).1 = .ok .done ∧
      (attempts (stubborn.news r)).map Attempt.message = [.pendingReactivate, .reactivated none] ∧
      stubborn.asked r = []) ∧
    (attempts (confined.news r)).map Attempt.message = [.pendingReactivate] ∧
      confined.asked r = [] := by
  decide +kernel

end Scene

end SatelliteWindows
