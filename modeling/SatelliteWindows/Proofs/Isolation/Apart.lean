import SatelliteWindows.Proofs.Isolation.Harm
import SatelliteWindows.Proofs.Isolation.Seat

/-!
# What does not concern a satellite

All satellites share one roster, one backlog, one numbering of openings and one desktop. This module
says what there is to see of them for a single satellite with windows of its own, and shows that
requests about other satellites leave all of it alone, whatever becomes of the windows of those, as
long as no message to one of them harms a window of the satellite.
-/

namespace SatelliteWindows

/-- What a fleet remembers of a satellite, apart from windows and numbers of openings, and what it
treats all satellites by. -/
structure Outlook where
  /-- The kind of window that looks after the fleet. -/
  role : Role
  /-- Where that window runs. -/
  platform : Platform
  /-- The session. -/
  session : Payload
  /-- What can be called. -/
  calls : CallTable Call
  /-- What is held back for the satellite. -/
  queue : Option (List Event)
  /-- The parameters last supplied for the satellite. -/
  params : Option Payload

namespace Fleet

/-- What is remembered of a satellite. -/
def outlook (name : String) (f : Fleet) : Outlook :=
  ⟨f.role, f.platform, f.session, f.calls, f.backlog.queue? name, f.startup.get? name⟩

/-- A fleet comes of another one by something that concerns neither a satellite nor the windows of
its own. -/
structure Apart (name : String) (own : List WindowId) (f g : Fleet) : Prop where
  /-- The same is remembered of the satellite. -/
  outlook : g.outlook name = f.outlook name
  /-- Its opening is still the same. -/
  awaited : g.awaited.get? name = f.awaited.get? name
  /-- The same window is registered for it. -/
  seat : g.roster.seat? name = f.roster.seat? name
  /-- No number is given to two openings. -/
  generation : f.generation ≤ g.generation
  /-- No satellite came to be registered twice. -/
  unique : f.roster.Unique → g.roster.Unique
  /-- No window of its own was registered for another satellite. -/
  others : ∀ e ∈ g.roster.entries, e ∈ f.roster.entries ∨ e.window ∉ own

namespace Apart

variable {name other : String} {own : List WindowId} {f g h : Fleet}

/-- To do nothing concerns nobody. -/
theorem refl : Apart name own f f := ⟨rfl, rfl, rfl, Nat.le_refl _, id, fun _ he => .inl he⟩

/-- What concerns neither in two stretches does not in both together. -/
theorem trans (hfg : Apart name own f g) (hgh : Apart name own g h) : Apart name own f h := by
  refine ⟨hgh.outlook.trans hfg.outlook, hgh.awaited.trans hfg.awaited, hgh.seat.trans hfg.seat,
    Nat.le_trans hfg.generation hgh.generation, hgh.unique ∘ hfg.unique, fun e he => ?_⟩
  rcases hgh.others e he with hmem | hnot
  · exact hfg.others e hmem
  · exact .inr hnot

/-- Nothing is counted of a satellite by itself. -/
theorem tally (count : Tally → Tally) : Apart name own f { f with tally := count f.tally } :=
  ⟨rfl, rfl, rfl, Nat.le_refl _, id, fun _ he => .inl he⟩

/-- To release what is held back for another satellite does not concern this one. -/
theorem release (hne : other ≠ name) :
    Apart name own f { f with backlog := f.backlog.release other } := by
  refine ⟨?_, rfl, rfl, Nat.le_refl _, id, fun _ he => .inl he⟩
  simp [Fleet.outlook, Backlog.queue?_release, hne.symm]

/-- Nor does it when the number of another's opening is forgotten. -/
theorem erase (hne : other ≠ name) :
    Apart name own f { f with awaited := f.awaited.erase other } := by
  refine ⟨rfl, ?_, rfl, Nat.le_refl _, id, fun _ he => .inl he⟩
  simp [NameMap.get?_erase, hne.symm]

/-- Nor does it when another is awaited. -/
theorem expect (hne : other ≠ name) (params : Option Payload) :
    Apart name own f (f.expect other params) := by
  refine ⟨?_, ?_, rfl, Nat.le_succ _, id, fun _ he => .inl he⟩
  · cases params <;>
      simp [Fleet.outlook, Fleet.expect, Backlog.queue?_hold, NameMap.get?_put, hne.symm]
  · simp [Fleet.expect, NameMap.get?_put, hne.symm]

/-- Nor does it when another registers, with a window that is not one of its own. -/
theorem register (hu : f.roster.Unique) (hne : other ≠ name) {w : WindowId} (hw : w ∉ own) :
    Apart name own f { f with roster := f.roster.upsert ⟨other, w⟩ } := by
  refine ⟨rfl, rfl, ?_, Nat.le_refl _, fun hu => hu.upsert _, fun e he => ?_⟩
  · simp [Roster.seat?_upsert hu, hne.symm]
  · rcases Roster.mem_upsert he with rfl | hmem
    · exact .inr hw
    · exact .inl hmem

end Apart

end Fleet

/-- The windows of a satellite's own are as healthy as before, as far as they are there. -/
def Simulation.Untouched (own : List WindowId) (a b : Simulation) : Prop :=
  ∀ v ∈ own, ∀ h, a.health? v = some h → b.health? v = some h

namespace Simulation.Untouched

variable {own : List WindowId} {a b c : Simulation}

/-- Windows that are left alone are as healthy as before. -/
theorem refl : Untouched own a a := fun _ _ _ h => h

/-- Windows that are untouched in two stretches are untouched in both together. -/
theorem trans (hab : Untouched own a b) (hbc : Untouched own b c) : Untouched own a c :=
  fun v hv h hh => hbc v hv h (hab v hv h hh)

/-- Where every window keeps its nature, nothing is touched. -/
theorem of_nature? (h : ∀ v, b.nature? v = a.nature? v) : Untouched own a b := by
  intro v _ k hk
  unfold health? at hk ⊢
  rw [h, hk]

/-- A message touches no window whose health it leaves as it was. -/
theorem deliver {w : WindowId} {m : Message}
    (h : ∀ v ∈ own, (a.deliver w m).2.health? v = a.health? v) :
    Untouched own a (a.deliver w m).2 := fun v hv _ hh => (h v hv).trans hh

/-- Closing another window does not touch them. -/
theorem close {w : WindowId} (hw : w ∉ own) : Untouched own a (a.close w).2 := by
  intro v hv h hh
  have hne : ¬ w = v := fun heq => hw (heq ▸ hv)
  rw [(Simulation.of_nature? (nature?_close w a v)).1, if_neg hne, hh]
  rfl

/-- Nor does bringing a window to the front. -/
theorem focus (w : WindowId) : Untouched own a (a.focus w).2 := of_nature? (nature?_focus w a)

/-- Nor does bringing one to the front by the shell. -/
theorem raise (windowName : String) : Untouched own a (a.raise windowName).2 :=
  of_nature? (nature?_raise windowName a)

/-- Nor does asking for a window. -/
theorem openWindow (r : OpenRequest) : Untouched own a (a.openWindow r).2 := by
  intro v _ h hh
  unfold health? at hh ⊢
  rcases nature?_openWindow r a v with hsame | hnone
  · rw [hsame, hh]
  · rw [hnone] at hh
    cases hh

end Simulation.Untouched

namespace Journal

/-- The messages that were handed to certain windows. -/
def attemptsTo (ws : List WindowId) (j : Journal) : List Attempt :=
  j.attempts.filter fun a => decide (a.window ∈ ws)

/-- The messages that were handed over in two stretches were handed over in the one or in
the other. -/
theorem attemptsTo_append (ws : List WindowId) (j k : Journal) :
    attemptsTo ws (j ++ k) = attemptsTo ws j ++ attemptsTo ws k := by
  simp [attemptsTo, attempts]

/-- An effect that hands nothing to certain windows is none of the messages handed to them. -/
theorem attemptsTo_append_singleton {ws : List WindowId} {e : Effect} (j : Journal)
    (he : ∀ a, e.attempt? = some a → a.window ∉ ws) :
    attemptsTo ws (j ++ [e]) = attemptsTo ws j := by
  rw [attemptsTo_append]
  unfold attemptsTo attempts
  cases ha : e.attempt? with
  | none => simp [ha]
  | some a => simp [ha, he a ha]

/-- Of what is written down of a delivery, the delivery alone is a message that was handed to a
window. -/
theorem attemptsTo_handed (ws : List WindowId) (m : Message) (d : Entry) (fault : Option Fault) :
    attemptsTo ws ((Lot.handed fault).effects m d) =
      if d.window ∈ ws then [⟨d.name, d.window, m, fault⟩] else [] := by
  cases fault <;> by_cases hw : d.window ∈ ws <;>
    simp [attemptsTo, attempts, Lot.effects, Effect.attempt?, hw]

end Journal

namespace Scene

variable {name other : String} {own : List WindowId} {s t u : Scene Simulation}

/-- A satellite keeps its windows to itself. -/
structure Kept (name : String) (own : List WindowId) (s : Scene Simulation) : Prop where
  /-- No satellite is registered twice. -/
  unique : s.fleet.roster.Unique
  /-- Other satellites are registered with other windows. -/
  others : ∀ e ∈ s.fleet.roster.entries, e.name ≠ name → e.window ∉ own

/-- A scene comes of another one by something that concerns neither a satellite nor its windows. -/
structure Apart (name : String) (own : List WindowId) (s t : Scene Simulation) : Prop where
  /-- What is remembered. -/
  fleet : s.fleet.Apart name own t.fleet
  /-- How the windows are. -/
  world : s.world.Untouched own t.world
  /-- No message was handed to a window of its own. -/
  attempts : t.journal.attemptsTo own = s.journal.attemptsTo own

/-- To do nothing concerns nobody. -/
theorem Apart.refl (s : Scene Simulation) : Apart name own s s := ⟨.refl, .refl, rfl⟩

/-- What concerns neither in two stretches does not in both together. -/
theorem Apart.trans (hst : Apart name own s t) (htu : Apart name own t u) :
    Apart name own s u :=
  ⟨hst.fleet.trans htu.fleet, hst.world.trans htu.world, htu.attempts.trans hst.attempts⟩

/-- What does not concern a satellite leaves its windows to it. -/
theorem Apart.kept (h : Apart name own s t) (hk : Kept name own s) : Kept name own t := by
  refine ⟨h.fleet.unique hk.unique, fun e he hne => ?_⟩
  rcases h.fleet.others e he with hmem | hnot
  · exact hk.others e hmem hne
  · exact hnot

/-- The live window of another satellite is none of its own. -/
theorem Kept.not_mem_of_find? (hk : Kept name own s) (hne : other ≠ name) {w : WindowId}
    (h : s.find? other = some w) : w ∉ own :=
  hk.others _ ((Roster.find?_eq_some hk.unique).mp h).1 hne

/-! ## Single steps -/

/-- What a fleet does that does not concern a satellite does not concern it in the scene either. -/
theorem apart_alter {f : Fleet → Fleet} (hf : s.fleet.Apart name own (f s.fleet)) :
    Apart name own s (s.alter f) := ⟨hf, .refl, rfl⟩

/-- Counting concerns no satellite. -/
theorem apart_count (f : Tally → Tally) (s : Scene Simulation) : Apart name own s (s.count f) :=
  apart_alter (.tally f)

/-- A step of the desktop that hands nothing to windows is written down. -/
theorem apart_record {world : Simulation} {e : Effect} (hw : s.world.Untouched own world)
    (he : e.attempt? = none) : Apart name own s ({ s with world := world }.record e) :=
  ⟨.refl, hw, Journal.attemptsTo_append_singleton _ fun a ha => by rw [he] at ha; cases ha⟩

/-- Nor does a report. -/
theorem apart_report (a : Activity) (s : Scene Simulation) : Apart name own s (s.report a) :=
  apart_record .refl rfl

/-- Nor does it when a window is brought to the front. -/
theorem apart_focus (w : WindowId) (s : Scene Simulation) : Apart name own s (s.focus w) :=
  apart_record (.focus w) rfl

/-- Nor when that is done by the shell. -/
theorem apart_raise (windowName : String) (s : Scene Simulation) :
    Apart name own s (s.raise windowName) := apart_record (.raise windowName) rfl

/-- Nor when a window is asked for. -/
theorem apart_requestWindow (r : OpenRequest) (s : Scene Simulation) :
    Apart name own s (s.requestWindow r) := apart_record (.openWindow r) rfl

/-- To close another window does not concern it. -/
theorem apart_closeWindow {w : WindowId} (hw : w ∉ own) (s : Scene Simulation) :
    Apart name own s (s.closeWindow w).2 := apart_record (.close hw) rfl

/-- A message to another window that spares those of the satellite does not concern it. -/
theorem apart_deliver {w : WindowId} (hw : w ∉ own) {m : Message}
    (h : Spares own s (s.deliver other w m)) : Apart name own s (s.deliver other w m) := by
  have hspared := fun v (hv : v ∈ own) => h.health?_deliver hw hv
  rw [deliver_eq]
  refine ⟨.tally fun t => { t with deliveriesFailed := t.deliveriesFailed + _ },
    .deliver hspared, ?_⟩
  rw [Journal.attemptsTo_append, Journal.attemptsTo_handed, if_neg hw, List.append_nil]

/-- Neither does any message to another window that is no event. -/
theorem apart_tell {w : WindowId} (hw : w ∉ own) {m : Message} (hm : m.event? = none)
    (other : String) (s : Scene Simulation) : Apart name own s (s.deliver other w m) :=
  apart_deliver hw ((discreet_deliver hm other w s).spares own)

/-- What is done again and again concerns a satellite no more than doing it once. -/
theorem apart_foldl {α : Type} {step : Scene Simulation → α → Scene Simulation} {l : List α}
    (hstep : ∀ a ∈ l, ∀ t, Apart name own t (step t a)) (s : Scene Simulation) :
    Apart name own s (l.foldl step s) := by
  induction l generalizing s with
  | nil => exact .refl s
  | cons a rest ih =>
    exact (hstep a List.mem_cons_self s).trans
      (ih (fun b hb => hstep b (List.mem_cons_of_mem a hb)) (step s a))

/-- So does what spares its windows again and again. -/
theorem apart_foldl_of_spares {α : Type} {step : Scene Simulation → α → Scene Simulation}
    {l : List α} (htraced : ∀ t a, Traced t (step t a))
    (hstep : ∀ a ∈ l, ∀ t, Spares own t (step t a) → Apart name own t (step t a))
    (h : Spares own s (l.foldl step s)) : Apart name own s (l.foldl step s) := by
  induction l generalizing s with
  | nil => exact .refl s
  | cons a rest ih =>
    obtain ⟨hfirst, hrest⟩ := h.split (htraced s a) (traced_foldl htraced rest (step s a))
    exact (hstep a List.mem_cons_self s hfirst).trans
      (ih (fun b hb => hstep b (List.mem_cons_of_mem a hb)) hrest)

/-- Messages to another window do not concern it, as long as they spare its own. -/
theorem apart_deliverAll {w : WindowId} (hw : w ∉ own) {ms : List Message}
    (h : Spares own s (s.deliverAll other w ms)) :
    Apart name own s (s.deliverAll other w ms) :=
  apart_foldl_of_spares (fun t m => traced_deliver other w m t)
    (fun _ _ _ ht => apart_deliver hw ht) h

/-- To close other windows does not concern it. -/
theorem apart_closeWindows {ws : List WindowId} (hws : ∀ w ∈ ws, w ∉ own)
    (s : Scene Simulation) : Apart name own s (s.closeWindows ws) :=
  apart_foldl (fun w hw t => apart_closeWindow (hws w hw) t) s

/-- To report that entries were dropped does not concern it. -/
theorem apart_reportEvicted (dead : List Entry) (s : Scene Simulation) :
    Apart name own s (s.reportEvicted dead) :=
  apart_foldl (fun _ _ t => (apart_count _ t).trans (apart_report _ _)) s

/-! ## Offers to other satellites -/

/-- What is offered to windows of other satellites, dead or alive, taking them with each other or
not, does not concern a satellite whose windows are spared. -/
theorem apart_offer {l : List Entry} (hl : ∀ e ∈ l, e.window ∉ own) {m : Message}
    (h : Spares own s (offer m l s).2) : Apart name own s (offer m l s).2 := by
  induction l generalizing s with
  | nil => exact .refl s
  | cons e rest ih =>
    have hrest : ∀ d ∈ rest, d.window ∉ own := fun d hd => hl d (List.mem_cons_of_mem e hd)
    have helapse : s.elapse = s := rfl
    revert h
    unfold offer
    rw [helapse]
    dsimp only
    split
    · exact ih hrest
    · split
      · intro h
        obtain ⟨hfirst, hlater⟩ :=
          h.split (traced_deliver e.name e.window m s) (traced_offer m rest _)
        exact (apart_deliver (hl e List.mem_cons_self) hfirst).trans (ih hrest hlater)
      · exact ih hrest

/-! ## Requests about other satellites -/

/-- Another satellite that is opened anew does not concern it. -/
theorem apart_openAnew (hne : other ≠ name) (params : Option Payload) (placement : Placement)
    (s : Scene Simulation) : Apart name own s (s.openAnew other params placement).2 :=
  (apart_alter (.expect hne params)).trans
    ((apart_requestWindow _ _).trans (apart_report _ _))

/-- Another window that is brought to the front does not concern it. -/
theorem apart_reactivate {w : WindowId} (hw : w ∉ own) (other : String)
    (params : Option Payload) (s : Scene Simulation) :
    Apart name own s (s.reactivate other w params) :=
  (apart_count _ s).trans ((apart_tell hw rfl other _).trans (apart_report _ _))

/-- Another satellite that is opened does not concern it. -/
theorem apart_openPlaced (hk : Kept name own s) (hne : other ≠ name) (params : Option Payload)
    (placement : Placement) : Apart name own s (s.openPlaced other params placement).2 := by
  unfold openPlaced
  cases s.fleet.role with
  | satellite => exact .refl s
  | main =>
    dsimp only
    cases hfind : s.find? other with
    | none => exact apart_openAnew hne params placement s
    | some w =>
      have hw := hk.not_mem_of_find? hne hfind
      dsimp only
      cases s.fleet.platform.reactivation with
      | hostActivate =>
        exact (apart_raise _ s).trans (apart_reactivate hw other params _)
      | refocus => exact (apart_focus w s).trans (apart_reactivate hw other params _)
      | reopen =>
        exact (apart_tell hw rfl other s).trans (apart_openAnew hne params placement _)

/-- Nor does one that is forced open again. -/
theorem apart_forceReopen (hk : Kept name own s) (hne : other ≠ name)
    (params : Option Payload) : Apart name own s (s.forceReopen other params).2 := by
  unfold forceReopen
  cases hfind : s.find? other with
  | none => exact .refl s
  | some w =>
    have hw := hk.not_mem_of_find? hne hfind
    dsimp only
    cases Desktop.geometry s.world w with
    | error f => exact .refl s
    | ok g =>
      have hvacate : Apart name own s ((s.deliver other w .pendingReactivate).closeWindow w).2 :=
        (apart_tell hw rfl other s).trans (apart_closeWindow hw _)
      exact hvacate.trans (apart_openPlaced (hvacate.kept hk) hne params _)

/-- To bring a satellite to the front without telling it concerns none, not even itself. -/
theorem apart_activate (other : String) (s : Scene Simulation) :
    Apart name own s (s.activate other) := by
  unfold activate
  split
  · exact apart_raise _ s
  · split
    · exact apart_focus _ s
    · exact .refl s

/-- Nor does one that is closed. -/
theorem apart_closeSatellite (hk : Kept name own s) (hne : other ≠ name) :
    Apart name own s (s.closeSatellite other) := by
  unfold closeSatellite
  dsimp only
  have hforget : Apart name own s (s.alter fun f =>
      { f with awaited := f.awaited.erase other, backlog := f.backlog.release other }) :=
    apart_alter ((Fleet.Apart.erase hne).trans (Fleet.Apart.release hne))
  refine hforget.trans ?_
  have hkept := hforget.kept hk
  generalize s.alter _ = t at hkept
  cases hfind : t.find? other with
  | none => exact .refl t
  | some w =>
    have hclose : Apart name own t (t.closeWindow w).2 :=
      apart_closeWindow (hkept.not_mem_of_find? hne hfind) t
    dsimp only
    cases hc : t.closeWindow w with
    | mk fault u =>
      rw [hc] at hclose
      cases fault with
      | none => exact hclose.trans (apart_report _ u)
      | some f => exact hclose

/-- Nor does one whose opening expires. -/
theorem apart_expire (hne : other ≠ name) (generation : Nat) (s : Scene Simulation) :
    Apart name own s (s.expire other generation).2 := by
  have herase : Apart name own s (s.alter fun f =>
      { f with awaited := f.awaited.erase other }) := apart_alter (.erase hne)
  unfold expire
  split
  · dsimp only
    split
    · exact herase.trans ((apart_alter (.release hne)).trans
        ((apart_count _ _).trans (apart_report _ _)))
    · exact herase
  · exact .refl s

/-- Nor does one that registers, with a window that is not one of its own. -/
theorem apart_register (hk : Kept name own s) (hne : other ≠ name) {w : WindowId}
    (hw : w ∉ own) : Apart name own s (s.register other w) := by
  unfold register
  dsimp only
  have hroster : Apart name own s (s.alter fun f =>
      { f with roster := f.roster.upsert ⟨other, w⟩, awaited := f.awaited.erase other }) :=
    apart_alter ((Fleet.Apart.register hk.unique hne hw).trans (Fleet.Apart.erase hne))
  refine hroster.trans ?_
  generalize s.alter _ = t
  have hsession : Apart name own t (t.deliver other w (.setSession t.fleet.session)) :=
    apart_tell hw rfl other t
  refine hsession.trans ?_
  split
  · exact (apart_tell hw rfl other _).trans (apart_report _ _)
  · exact apart_report _ _

/-- Nor does one whose queue is passed on, as long as its own windows are spared. -/
theorem apart_flush (hk : Kept name own s) (hne : other ≠ name)
    (h : Spares own s (s.flush other)) : Apart name own s (s.flush other) := by
  have hlet : Apart name own s (s.letGo other) := apart_alter (.release hne)
  rw [flush_eq] at h ⊢
  split
  · exact hlet
  · next hheld =>
    rw [if_neg hheld] at h
    have htraced := traced_foldl
      fun t w => traced_deliverAll other w ((s.fleet.backlog.held other).map .event) t
    obtain ⟨-, hlater⟩ := h.split (traced_alter _ s)
      ((htraced _ (s.letGo other)).trans (traced_report _ _))
    obtain ⟨hpassed, -⟩ := hlater.split (htraced _ _) (traced_report _ _)
    refine hlet.trans (Apart.trans ?_ (apart_report _ _))
    refine apart_foldl_of_spares (fun t w => traced_deliverAll other w _ t)
      (fun w hw t ht => ?_) hpassed
    obtain ⟨e, he, rfl⟩ := List.mem_map.mp hw
    obtain ⟨hmem, hname⟩ := List.mem_filter.mp he
    have hother : e.name = other := by simpa using (Bool.and_eq_true_iff.mp hname).1
    exact apart_deliverAll (hk.others e hmem (hother ▸ hne)) ht

/-- Nor does a call of another satellite, which may register or have its queue passed on. -/
theorem apart_serveCall (hk : Kept name own s) {caller : Caller} (hne : caller.name ≠ name)
    {c : Call} (hw : c = .register → ∀ w, caller.window = some w → w ∉ own)
    (h : Spares own s (s.serveCall c caller).2) : Apart name own s (s.serveCall c caller).2 := by
  cases c with
  | register =>
    unfold serveCall
    cases hwindow : caller.window with
    | none =>
      simp only [Caller.requireWindow, hwindow]
      exact .refl s
    | some w =>
      simp only [Caller.requireWindow, hwindow]
      exact apart_register hk hne (hw rfl w hwindow)
  | flush => exact apart_flush hk hne h
  | registerChild =>
    unfold serveCall
    dsimp only
    split
    · exact apart_report _ s
    · exact .refl s
  | unregisterChild => exact apart_report _ s

end Scene

/-- Whether a request is about a satellite, or about all of them. -/
def Request.concerns (name : String) : Request → Bool
  | openSatellite other .. | forceReopen other _ | activate other | close other
  | register other _ | flush other | registerChild other _ | expire other _
  | isOpen other => other == name
  | unregisterChild windowName => WindowName.satellite windowName == name
  | invoke _ caller => caller.name == name
  | closeAll | mainWindowClosed | installCalls | dispatchEvent _ | dispatchCommand _
  | updateSession _ => true
  | metrics => false

namespace Scene

variable {name : String} {own : List WindowId} {s : Scene Simulation}

/-- A request that does not concern a satellite leaves the satellite and its windows alone, unless
it registers one of them for another satellite or harms one of them. -/
theorem apart_perform (hk : Kept name own s) {r : Request} (hr : r.concerns name = false)
    (hw : ∀ other w, s.meaning r = .registered other w → w ∉ own)
    (h : Spares own s (s.perform r).2) : Apart name own s (s.perform r).2 := by
  cases r with
  | openSatellite other params preferred =>
    exact apart_openPlaced hk (by simpa [Request.concerns] using hr) params _
  | forceReopen other params =>
    exact apart_forceReopen hk (by simpa [Request.concerns] using hr) params
  | activate other => exact apart_activate other s
  | close other => exact apart_closeSatellite hk (by simpa [Request.concerns] using hr)
  | register other w =>
    exact apart_register hk (by simpa [Request.concerns] using hr) (hw other w rfl)
  | flush other => exact apart_flush hk (by simpa [Request.concerns] using hr) h
  | registerChild other w => exact apart_report _ s
  | unregisterChild windowName => exact apart_report _ s
  | invoke operation caller =>
    have hne : caller.name ≠ name := by simpa [Request.concerns] using hr
    dsimp only [perform] at h ⊢
    unfold invoke at h ⊢
    cases hcall : s.fleet.calls.get? operation with
    | none => exact .refl s
    | some c =>
      rw [hcall] at h
      refine apart_serveCall hk hne (fun hc w hwindow => hw caller.name w ?_) h
      simp only [meaning, hcall, hc, hwindow]
  | expire other generation =>
    exact apart_expire (by simpa [Request.concerns] using hr) generation s
  | isOpen other => exact .refl s
  | metrics => exact .refl s
  | closeAll | mainWindowClosed | installCalls | dispatchEvent | dispatchCommand
  | updateSession => cases hr

end Scene

end SatelliteWindows
