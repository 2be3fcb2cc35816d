import SatelliteWindows.Proofs.Household.Entries
import SatelliteWindows.Proofs.Scenario.Hosting
import SatelliteWindows.Proofs.Scenario.Log

/-!
# The satellites that are listed

A desktop lists the satellites that it has made windows for, in the order of their names. In a run
these are the satellites that a window was asked for while the desktop was not denying. A window
that was made may die, but its satellite stays on the list.
-/

namespace SatelliteWindows

namespace NameMap

variable {α : Type}

/-- A name is among those that have values if a value is found for it. -/
theorem mem_names_iff {t : NameMap α} {name : String} :
    name ∈ t.names ↔ ∃ value, t.get? name = some value := by
  rw [← Option.ne_none_iff_exists', names, get?, Ne, List.lookup_eq_none_iff]
  simp

/-- Names are the same in whatever order they stand. -/
theorem mem_sortedNames {t : NameMap α} {name : String} : name ∈ t.sortedNames ↔ name ∈ t.names :=
  List.mem_mergeSort

/-- No name occurs twice, so that the names go up. -/
theorem sortedNames_pairwise (t : NameMap α) : t.sortedNames.Pairwise (· < ·) := by
  have hsorted : t.sortedNames.Pairwise (fun a b => decide (a ≤ b) = true) :=
    List.pairwise_mergeSort (fun a b c hab hbc => by
      rw [decide_eq_true_eq] at hab hbc ⊢
      exact Std.le_trans hab hbc) (fun a b => by
      rw [Bool.or_eq_true, decide_eq_true_eq, decide_eq_true_eq]
      exact Std.le_total) t.names
  have hnodup : t.sortedNames.Nodup := (List.mergeSort_perm t.names _).nodup_iff.mpr t.nodup
  refine (hsorted.and hnodup).imp fun {a b} hab => ?_
  exact Std.lt_of_le_of_ne (of_decide_eq_true hab.1) hab.2

end NameMap

namespace Simulation

variable {a b d : Simulation} {names : List String}

/-- Windows may have changed, but not what is remembered of the requests for them. -/
structure Recalls (a b : Simulation) : Prop where
  /-- The windows last made for satellites are the same. -/
  latest : b.latest = a.latest
  /-- Requests for windows fail as before. -/
  failingOpens : b.failingOpens = a.failingOpens
  /-- No window is asked for. -/
  requests : b.requests = a.requests
  /-- Satellites keep their windows. -/
  windows : ∀ name, a.HasWindow name → b.HasWindow name

/-- Windows that are dealt with are recalled. -/
theorem Recalls.of_tended (h : Tended a b) : Recalls a b :=
  ⟨h.latest, h.failingOpens, h.requests, (Grown.of_tended h).windows⟩

/-- What is reported of the satellites that are listed. -/
def described (d : Simulation) : List SatelliteReport :=
  d.satellites.filterMap (Run.describeSatellite d)

/-- A desktop has made windows for the satellites of some names, and for no others. -/
structure Lists (names : List String) (d : Simulation) : Prop where
  /-- Requests for windows do not fail. -/
  failingOpens : d.failingOpens = false
  /-- The window last made for a satellite is a window of that satellite. -/
  named : ∀ name w, d.latest? name = some w → d.HasWindow name
  /-- For whom windows were made. -/
  listed : ∀ name, (∃ w, d.latest? name = some w) ↔ name ∈ names

/-- On an empty desktop there is nothing to list. -/
theorem lists_nil (screen : Size) : Lists [] { screen := screen } :=
  ⟨rfl, nofun, fun _ => ⟨nofun, nofun⟩⟩

namespace Lists

/-- What is recalled stays listed. -/
theorem recalls (h : Lists names a) (hab : Recalls a b) : Lists names b := by
  have hlatest : ∀ name, b.latest? name = a.latest? name := fun name => by
    unfold latest?
    rw [hab.latest]
  refine ⟨hab.failingOpens.trans h.failingOpens, fun name w hw => ?_, fun name => ?_⟩
  · rw [hlatest] at hw
    exact hab.windows name (h.named name w hw)
  · rw [hlatest]
    exact h.listed name

/-- A window that is made is one for the satellite that it was asked for. -/
theorem makeWindow (h : Lists names d) (r : OpenRequest) :
    Lists (names ++ [r.name]) (d.makeWindow r) := by
  rcases makeWindow_eq r d with ⟨w, x, hw, -, -, heq⟩ | ⟨-, heq⟩
  · have hgrown := grown_modify w SimulatedWindow.loadAgain (fun _ => rfl) d
    rw [heq]
    refine ⟨h.failingOpens, fun name v hv => hgrown.windows name (h.named name v hv),
      fun name => (h.listed name).trans ?_⟩
    have hthere : r.name ∈ names := (h.listed r.name).mp ⟨w, hw⟩
    rw [List.mem_append, List.mem_singleton]
    exact ⟨.inl, fun hname => hname.elim id fun hself => hself ▸ hthere⟩
  · have hgrown := grown_makeWindow r d
    rw [heq] at hgrown ⊢
    refine ⟨h.failingOpens, fun name v hv => ?_, fun name => ?_⟩
    · rw [latest?_withFresh] at hv
      split at hv
      · next hself => exact hself ▸ hasWindow_withFresh r d
      · exact hgrown.windows name (h.named name v hv)
    · rw [latest?_withFresh, List.mem_append, List.mem_singleton, ← h.listed name]
      split
      · next hself => exact ⟨fun _ => .inr hself, fun _ => ⟨_, rfl⟩⟩
      · next hother => exact ⟨.inl, fun hname => hname.resolve_right hother⟩

/-- A satellite that a window is asked for is listed, unless the desktop is denying. -/
theorem openWindow (h : Lists names d) (r : OpenRequest) :
    Lists (names ++ (granted d (d.openWindow r).2).map OpenRequest.name) (d.openWindow r).2 := by
  have hasked : Lists names (d.asked r) := ⟨h.failingOpens, h.named, h.listed⟩
  unfold Simulation.openWindow
  rw [if_neg (by rw [h.failingOpens]; exact Bool.false_ne_true)]
  dsimp only
  split
  · next hdenying =>
    rw [granted, if_pos hdenying, List.map_nil, List.append_nil]
    exact hasked
  · next hdenying =>
    have hgranted : granted d ((d.asked r).makeWindow r) = [r] := by
      have hrequests : ((d.asked r).makeWindow r).requests = d.requests ++ [r] := by
        rcases makeWindow_eq r (d.asked r) with ⟨w, x, -, -, -, heq⟩ | ⟨-, heq⟩ <;> rw [heq] <;> rfl
      rw [granted, if_neg hdenying, hrequests, List.drop_left]
    show Lists (names ++ (granted d ((d.asked r).makeWindow r)).map OpenRequest.name)
      ((d.asked r).makeWindow r)
    rw [hgranted]
    exact hasked.makeWindow r

/-- Whatever is asked of a desktop, it lists those satellites that a window was asked for, unless it
was denying. -/
theorem reaches (h : Lists names a) (hab : Desktop.Reaches a b) :
    Lists (names ++ (granted a b).map OpenRequest.name) b := by
  have hdealt : ∀ {b c : Simulation}, Tended b c →
      Lists (names ++ (granted a b).map OpenRequest.name) b →
      Lists (names ++ (granted a c).map OpenRequest.name) c := fun {b c} hbc hb => by
    have hsame : granted a c = granted a b := by
      unfold granted
      rw [hbc.requests]
    rw [hsame]
    exact hb.recalls (.of_tended hbc)
  induction hab with
  | refl =>
    rw [granted_of_requests_eq rfl, List.map_nil, List.append_nil]
    exact h
  | deliver w m _ ih => exact hdealt (tended_deliver w m _) ih
  | focus w _ ih => exact hdealt (tended_focus w _) ih
  | close w _ ih => exact hdealt (tended_close w _) ih
  | @openWindow b r hreached ih =>
    have hbefore := keeps_of_reaches hreached
    have hboth : granted a b ++ granted b (Desktop.openWindow r b).2 =
        granted a (Desktop.openWindow r b).2 :=
      granted_append hbefore.requests (keeps_openWindow r b).requests hbefore.denying
    rw [← hboth, List.map_append, ← List.append_assoc]
    exact ih.openWindow r
  | raise windowName _ ih => exact hdealt (tended_raise windowName _) ih
  | elapse _ ih => exact ih

/-- The satellites of a desktop are those that are listed. -/
theorem mem_satellites (h : Lists names d) (name : String) :
    name ∈ d.satellites ↔ name ∈ names := by
  unfold satellites
  rw [NameMap.mem_sortedNames, NameMap.mem_names_iff]
  exact h.listed name

/-- Every satellite that is listed is reported under its name. -/
theorem map_name_described (h : Lists names d) :
    d.described.map SatelliteReport.name = d.satellites := by
  have hall : ∀ name ∈ d.satellites,
      (Run.describeSatellite d name).map SatelliteReport.name = some name := fun name hname => by
    obtain ⟨w, hw⟩ := (h.listed name).mpr ((h.mem_satellites name).mp hname)
    obtain ⟨v, window, hv, hwindow, hname⟩ := h.named name w hw
    unfold Run.describeSatellite
    rw [hv, Option.bind_eq_bind, Option.bind_some, hwindow, Option.bind_eq_bind, Option.bind_some]
    exact congrArg some hname
  rw [described, List.map_filterMap, List.filterMap_congr hall, List.filterMap_some]

end Lists

end Simulation

/-! ## Along a run -/

/-- A move that is a request, or changes windows without touching what the desktop remembers of
requests for them. -/
def Move.IsPlain : Move Simulation → Prop
  | .request _ => True
  | .shift change => ∀ d : Simulation, d.Recalls (change d)

namespace Scene

open Simulation

variable {names : List String} {s : Scene Simulation}

/-- The windows that a move asks for, unless the desktop is denying. -/
def heeds (m : Move Simulation) (s : Scene Simulation) : List OpenRequest :=
  s.world.granted (s.move m).world

/-- After a plain move those are listed whose requests it has heeded, besides the others. -/
theorem lists_move (h : s.world.Lists names) {m : Move Simulation} (hm : m.IsPlain) :
    (s.move m).world.Lists (names ++ (s.heeds m).map OpenRequest.name) := by
  cases m with
  | request r => exact h.reaches (leads_perform r s).world
  | shift change =>
    have hrecalls := hm s.world
    have hnone : s.heeds (.shift change) = [] := granted_of_requests_eq hrecalls.requests
    rw [hnone, List.map_nil, List.append_nil]
    exact h.recalls hrecalls

/-- After any plain moves the desktop lists whom windows were asked for. -/
theorem lists_run (h : s.world.Lists names) {moves : List (Move Simulation)}
    (hmoves : ∀ m ∈ moves, m.IsPlain) :
    (s.run moves).world.Lists (names ++ (s.along heeds moves).flatten.map OpenRequest.name) := by
  induction moves generalizing names s with
  | nil =>
    have hnone : (s.along heeds []).flatten.map OpenRequest.name = [] := rfl
    rw [hnone, List.append_nil]
    exact h
  | cons m rest ih =>
    have hmove := lists_move h (hmoves m List.mem_cons_self)
    have hrest := ih hmove fun n hn => hmoves n (List.mem_cons_of_mem m hn)
    rw [along, List.flatten_cons, List.map_append, ← List.append_assoc]
    exact hrest

end Scene

/-- A step that changes the desktop does not touch what it remembers of requests for windows. -/
theorem Step.recalls_of_deed {s : Step} {size : Size} {d : Simulation}
    {f : Simulation → Simulation} (h : s.deed size d = .ok (.change f)) (e : Simulation) :
    e.Recalls (f e) := by
  -- a change of a window is one of a window that was found
  have hfound : ∀ {x : Except StepFault WindowId} {g : WindowId → Simulation → Simulation},
      (x >>= fun w => pure (Deed.change (g w))) = .ok (.change f) → ∃ w, f = g w :=
    fun {x g} hx => by
      cases x with
      | error cause => cases hx
      | ok w =>
        cases hx
        exact ⟨w, rfl⟩
  cases s with
  | kill name =>
    obtain ⟨w, rfl⟩ := hfound (x := d.liveWindowFor name) h
    exact .of_tended (Simulation.tended_kill w e)
  | failDeliveries name failing =>
    obtain ⟨w, rfl⟩ := hfound (x := d.windowFor name) h
    exact .of_tended (Simulation.tended_of_indifferent
      (f := fun window => { window with failing := failing })
      (fun _ => ⟨rfl, rfl, rfl, rfl, .inl rfl⟩) w e)
  | move name size position =>
    obtain ⟨w, rfl⟩ := hfound (x := d.windowFor name) h
    exact .of_tended (Simulation.tended_of_indifferent
      (f := fun window => { window with geometry := ⟨size, position⟩ })
      (fun _ => ⟨rfl, rfl, rfl, rfl, .inl rfl⟩) w e)
  | denyOpens deny =>
    cases h
    exact ⟨rfl, rfl, rfl, fun _ => id⟩
  | register name =>
    unfold deed at h
    dsimp only at h
    cases hw : d.liveWindowFor name <;> rw [hw] at h <;> cases h
  | _ => cases h

namespace Run

open Occurrence

/-- All moves in a log are plain. -/
def IsPlain (log : List Occurrence) : Prop := ∀ m ∈ moves log, m.IsPlain

/-- Where nothing has happened nothing is out of the way. -/
theorem isPlain_nil : IsPlain [] := nofun

/-- What is plain in two stretches is plain in both together. -/
theorem IsPlain.append {log more : List Occurrence} (h : IsPlain log) (hmore : IsPlain more) :
    IsPlain (log ++ more) := fun m hm => by
  rw [moves_append] at hm
  exact (List.mem_append.mp hm).elim (h m) (hmore m)

/-- A request is plain. -/
theorem isPlain_request (req : Request) : IsPlain [.move (.request req)] := fun m hm => by
  cases List.mem_singleton.mp hm
  trivial

/-- What the coordinator does in a turn is plain. -/
theorem isPlain_workLog (n : Nat) (r : Run) : IsPlain (r.workLog n) := by
  induction n generalizing r with
  | zero => exact isPlain_nil
  | succ n ih =>
    unfold workLog
    split
    · exact isPlain_nil
    · dsimp only
      split
      · refine IsPlain.append ?_ (ih _)
        unfold serveLog
        split
        · exact isPlain_request _
        · exact isPlain_nil
      · unfold stopLog
        split
        · exact isPlain_request .mainWindowClosed
        · exact isPlain_nil

/-- What steps do to the desktop is plain. -/
theorem isPlain_proceedLog (n : Nat) (l : List Step) (r : Run) : IsPlain (r.proceedLog n l) := by
  induction l generalizing n r with
  | nil => exact isPlain_nil
  | cons s rest ih =>
    unfold proceedLog
    dsimp only
    split
    · next f hdeed =>
      have hchange : IsPlain [.move (.shift f)] := fun m hm => by
        cases List.mem_singleton.mp hm
        exact Step.recalls_of_deed hdeed
      exact hchange.append (ih n _)
    · split
      · exact isPlain_nil
      · split
        · exact ih _ _
        · exact isPlain_nil
    · exact isPlain_nil

/-- So is what the steps behind a finished one do. -/
theorem isPlain_finishLog (answer : Answer) (r : Run) : IsPlain (r.finishLog answer) := by
  unfold finishLog
  split
  · exact isPlain_nil
  · exact isPlain_proceedLog _ _ _

/-- So is what the script does in a turn. -/
theorem isPlain_goOnLog (r : Run) : IsPlain r.goOnLog := by
  unfold goOnLog
  split
  · exact isPlain_proceedLog _ _ r
  · unfold resumeLog
    split
    · exact isPlain_finishLog _ r
    · exact isPlain_nil
  · split
    · exact isPlain_finishLog _ r
    · exact isPlain_nil
  · exact isPlain_nil

/-- So is what any party does in a turn. -/
theorem isPlain_turnLog (p : Party) (r : Run) : IsPlain (r.turnLog p) := by
  cases p with
  | script => exact isPlain_goOnLog r
  | coordinator => exact isPlain_workLog _ r
  | _ => exact isPlain_nil

/-- So is what is done in several turns. -/
theorem isPlain_takeTurnsLog (n : Nat) (r : Run) : IsPlain (r.takeTurnsLog n) := by
  induction n generalizing r with
  | zero => exact isPlain_nil
  | succ n ih =>
    unfold takeTurnsLog
    split
    · exact isPlain_nil
    · exact (isPlain_turnLog _ _).append (ih _)

/-- So is what is done in any number of rounds. -/
theorem isPlain_roundsLog (n : Nat) (r : Run) : IsPlain (r.roundsLog n) := by
  induction n generalizing r with
  | zero => exact isPlain_nil
  | succ n ih =>
    unfold roundsLog
    split
    · exact isPlain_nil
    · refine IsPlain.append (IsPlain.append ?_ (isPlain_takeTurnsLog _ _)) (ih _)
      split
      · exact isPlain_goOnLog _
      · exact isPlain_nil

end Run

end SatelliteWindows
