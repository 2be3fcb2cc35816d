import Mathlib.Data.List.Forall2
import SatelliteWindows.Proofs.Isolation.Alike

/-!
# Twins

Two scenes are twins for a satellite if fleets, desktops and what was done look alike to it. Twins
stay twins when something that does not concern the satellite happens in either of them, and when
the same is asked about the satellite in both; and what is asked is answered alike. An event that
is handed to a window may do it harm in the one and not in the other; as long as nobody looks at the
window again, the scenes are still kin.
-/

namespace SatelliteWindows.Scene

variable {name : String} {own : List WindowId} {R : List (WindowId × WindowId)}
  {G : List (Nat × Nat)} {s t s' t' : Scene Simulation} {v w : WindowId}

/-- Windows are kept as long as the roster is the same. -/
theorem Kept.of_eq (hk : Kept name own s) (hroster : t.fleet.roster = s.fleet.roster) :
    Kept name own t :=
  ⟨hroster ▸ hk.unique, fun e he => hk.others e (hroster ▸ he)⟩

/-- Taking entries off a roster keeps the windows of a satellite its own. -/
theorem Kept.filter (hk : Kept name own s) (p : Entry → Bool) :
    Kept name own (s.alter fun f => { f with roster := ⟨f.roster.entries.filter p⟩ }) :=
  ⟨Roster.unique_filter hk.unique p, fun e he => hk.others e (List.mem_filter.mp he).1⟩

/-- So does registering a window for the satellite itself. -/
theorem Kept.register (hk : Kept name own s) (v : WindowId) :
    Kept name own (s.alter fun f =>
      { f with roster := f.roster.upsert ⟨name, v⟩, awaited := f.awaited.erase name }) := by
  refine ⟨hk.unique.upsert _, fun e he hne => ?_⟩
  rcases Roster.mem_upsert he with rfl | hmem
  · exact absurd rfl hne
  · exact hk.others e hmem hne

/-- Two scenes look alike to a satellite, except perhaps for the health of its windows. -/
structure Kin (name : String) (R : List (WindowId × WindowId)) (G : List (Nat × Nat))
    (s t : Scene Simulation) : Prop where
  /-- The satellite keeps its windows to itself in the one. -/
  left : Kept name (R.map Prod.fst) s
  /-- It does so in the other. -/
  right : Kept name (R.map Prod.snd) t
  /-- No window corresponds to two others. -/
  windows : Matching R
  /-- What is remembered looks alike. -/
  fleet : s.fleet.Twin name R G t.fleet
  /-- The same messages were handed to its windows. -/
  attempts : List.Forall₂ (Attempt.Alike R) (s.journal.attemptsTo (R.map Prod.fst))
    (t.journal.attemptsTo (R.map Prod.snd))

/-- Two scenes look alike to a satellite. -/
structure Twin (name : String) (R : List (WindowId × WindowId)) (G : List (Nat × Nat))
    (s t : Scene Simulation) : Prop extends Kin name R G s t where
  /-- Its windows are alike. -/
  world : s.world.Alike R t.world

namespace Kin

/-- Kin stay kin whatever happens in either of them that does not concern the satellite. -/
theorem apart (h : Kin name R G s t) (hs : Apart name (R.map Prod.fst) s s')
    (ht : Apart name (R.map Prod.snd) t t') : Kin name R G s' t' := by
  refine ⟨hs.kept h.left, ht.kept h.right, h.windows, h.fleet.apart hs.fleet ht.fleet, ?_⟩
  rw [hs.attempts, ht.attempts]
  exact h.attempts

/-- Events are held back for the satellite in both scenes or in neither. -/
theorem isHolding (h : Kin name R G s t) :
    t.fleet.isHolding name = s.fleet.isHolding name := by
  unfold Fleet.isHolding Backlog.isHolding
  rw [h.fleet.fields.2.2.2.2.1]

/-- They are the same. -/
theorem held (h : Kin name R G s t) :
    t.fleet.backlog.held name = s.fleet.backlog.held name := by
  unfold Backlog.held
  rw [h.fleet.fields.2.2.2.2.1]

end Kin

namespace Twin

/-- Where twins have become kin and the windows were left alone, they are twins still. -/
theorem of_kin (h : Twin name R G s t) {G' : List (Nat × Nat)} (hkin : Kin name R G' s' t')
    (hs : s.world.Untouched (R.map Prod.fst) s'.world)
    (ht : t.world.Untouched (R.map Prod.snd) t'.world) : Twin name R G' s' t' :=
  ⟨hkin, h.world.untouched hs ht⟩

/-- Twins stay twins whatever happens in either of them that does not concern the satellite. -/
theorem apart (h : Twin name R G s t) (hs : Apart name (R.map Prod.fst) s s')
    (ht : Apart name (R.map Prod.snd) t t') : Twin name R G s' t' :=
  h.of_kin (h.toKin.apart hs ht) hs.world ht.world

/-- Of two windows that correspond to each other both are alive or neither is. -/
theorem isAlive (h : Twin name R G s t) (hvw : (v, w) ∈ R) : t.isAlive w = s.isAlive v :=
  (t.world.isAlive_eq w).trans
    ((h.world.any_health? hvw _).trans (s.world.isAlive_eq v).symm)

/-- The satellite has no live window in either, or ones that correspond to each other. -/
theorem find?_cases (h : Twin name R G s t) :
    (s.find? name = none ∧ t.find? name = none) ∨
    ∃ v w, (v, w) ∈ R ∧ s.find? name = some v ∧ t.find? name = some w := by
  unfold find?
  rw [Roster.find?_eq_filter h.left.unique, Roster.find?_eq_filter h.right.unique]
  rcases rel_cases h.fleet.seat with ⟨hs, ht⟩ | ⟨v, w, hvw, hs, ht⟩
  · exact .inl (by rw [hs, ht]; exact ⟨rfl, rfl⟩)
  · rw [hs, ht]
    have halive := h.isAlive hvw
    cases hv : s.isAlive v with
    | true => exact .inr ⟨v, w, hvw, by simp [hv], by simp [halive, hv]⟩
    | false => exact .inl ⟨by simp [hv], by simp [halive, hv]⟩

end Twin

/-- Two lists of entries without an entry of a satellite, or with one each between those of others.
The windows of the two entries correspond to each other. -/
inductive Flanked (name : String) (R : List (WindowId × WindowId)) (l l' : List Entry) : Prop where
  /-- There are entries of others only. -/
  | absent (others : ∀ e ∈ l, e.window ∉ R.map Prod.fst) (absent : ∀ v, ⟨name, v⟩ ∉ l)
      (others' : ∀ e ∈ l', e.window ∉ R.map Prod.snd)
  /-- There is one entry between those of others. -/
  | present {v w : WindowId} {before after before' after' : List Entry} (hvw : (v, w) ∈ R)
      (hl : l = before ++ ⟨name, v⟩ :: after) (hl' : l' = before' ++ ⟨name, w⟩ :: after')
      (others : ∀ e, e ∈ before ∨ e ∈ after → e.name ≠ name ∧ e.window ∉ R.map Prod.fst)
      (others' : ∀ e, e ∈ before' ∨ e ∈ after' → e.name ≠ name ∧ e.window ∉ R.map Prod.snd)

/-- On a roster the entry of a satellite stands between those of others with other windows. -/
theorem Kept.entries_of_seat? (hk : Kept name own s) (h : s.fleet.roster.seat? name = some v) :
    ∃ before after, s.fleet.roster.entries = before ++ ⟨name, v⟩ :: after ∧
      ∀ e, e ∈ before ∨ e ∈ after → e.name ≠ name ∧ e.window ∉ own := by
  obtain ⟨before, after, hl, hbefore, hafter⟩ := Roster.entries_of_seat? hk.unique h
  refine ⟨before, after, hl, fun e he => ?_⟩
  have hname : e.name ≠ name := he.elim (hbefore e) (hafter e)
  have hmem : e ∈ s.fleet.roster.entries := by
    rw [hl]
    simpa using he.imp_right .inr
  exact ⟨hname, hk.others e hmem hname⟩

namespace Kin

/-- The entries of the satellite stand between entries of others in both scenes. -/
theorem flanked (h : Kin name R G s t) :
    Flanked name R s.fleet.roster.entries t.fleet.roster.entries := by
  rcases rel_cases h.fleet.seat with ⟨hs, ht⟩ | ⟨v, w, hvw, hs, ht⟩
  · have hnames := Roster.name_ne_of_seat?_eq_none hs
    exact .absent (fun e he => h.left.others e he (hnames e he))
      (fun v hv => hnames _ hv rfl)
      fun e he => h.right.others e he (Roster.name_ne_of_seat?_eq_none ht e he)
  · obtain ⟨before, after, hl, hothers⟩ := h.left.entries_of_seat? hs
    obtain ⟨before', after', hl', hothers'⟩ := h.right.entries_of_seat? ht
    exact .present hvw hl hl' hothers hothers'

/-! ## Single steps -/

/-- What is remembered is changed in both. -/
theorem alter (h : Kin name R G s t) {f g : Fleet → Fleet} {G' : List (Nat × Nat)}
    (hfleet : (f s.fleet).Twin name R G' (g t.fleet))
    (hleft : Kept name (R.map Prod.fst) (s.alter f))
    (hright : Kept name (R.map Prod.snd) (t.alter g)) : Kin name R G' (s.alter f) (t.alter g) :=
  ⟨hleft, hright, h.windows, hfleet, h.attempts⟩

/-- What is changed is not the roster. -/
theorem adjust (h : Kin name R G s t) {f g : Fleet → Fleet} {G' : List (Nat × Nat)}
    (hfleet : (f s.fleet).Twin name R G' (g t.fleet))
    (hf : (f s.fleet).roster = s.fleet.roster) (hg : (g t.fleet).roster = t.fleet.roster) :
    Kin name R G' (s.alter f) (t.alter g) :=
  h.alter hfleet (h.left.of_eq hf) (h.right.of_eq hg)

/-- Entries are taken off both rosters, that of the satellite off both or off neither. -/
theorem filter (h : Kin name R G s t) {p q : Entry → Bool}
    (hpq : ∀ v w, s.fleet.roster.seat? name = some v → t.fleet.roster.seat? name = some w →
      (v, w) ∈ R → q ⟨name, w⟩ = p ⟨name, v⟩) :
    Kin name R G (s.alter fun f => { f with roster := ⟨f.roster.entries.filter p⟩ })
      (t.alter fun f => { f with roster := ⟨f.roster.entries.filter q⟩ }) :=
  h.alter (h.fleet.filter h.left.unique h.right.unique hpq) (h.left.filter p) (h.right.filter q)

/-- What is counted makes no difference. -/
theorem count (h : Kin name R G s t) (f g : Tally → Tally) :
    Kin name R G (s.count f) (t.count g) := h.apart (apart_count f s) (apart_count g t)

/-- The same message is handed to windows that correspond to each other and are equally healthy. -/
theorem deliver (h : Kin name R G s t) (hvw : (v, w) ∈ R)
    (hhealth : t.world.health? w = s.world.health? v) (m : Message) :
    Kin name R G (s.deliver name v m) (t.deliver name w m) := by
  have hv : v ∈ R.map Prod.fst := List.mem_map_of_mem (f := Prod.fst) hvw
  have hw : w ∈ R.map Prod.snd := List.mem_map_of_mem (f := Prod.snd) hvw
  have htaken :
      (Desktop.deliver w m t.world).1.isNone = (Desktop.deliver v m s.world).1.isNone := by
    refine (t.world.isNone_deliver w m).trans (Eq.trans ?_ (s.world.isNone_deliver v m).symm)
    rw [hhealth]
  rw [deliver_eq, deliver_eq]
  refine ⟨h.left.of_eq rfl, h.right.of_eq rfl, h.windows, ?_, ?_⟩
  · exact h.fleet.tally (fun c => { c with deliveriesFailed := c.deliveriesFailed + _ })
      fun c => { c with deliveriesFailed := c.deliveriesFailed + _ }
  · dsimp only
    rw [Journal.attemptsTo_append, Journal.attemptsTo_append, Journal.attemptsTo_handed,
      Journal.attemptsTo_handed, if_pos hv, if_pos hw]
    exact List.rel_append h.attempts (.cons ⟨rfl, rfl, hvw, htaken⟩ .nil)

end Kin

namespace Twin

/-- Two scenes go on to look alike if the fleets do what keeps them so. -/
theorem adjust (h : Twin name R G s t) {f g : Fleet → Fleet} {G' : List (Nat × Nat)}
    (hfleet : (f s.fleet).Twin name R G' (g t.fleet))
    (hf : (f s.fleet).roster = s.fleet.roster) (hg : (g t.fleet).roster = t.fleet.roster) :
    Twin name R G' (s.alter f) (t.alter g) :=
  h.of_kin (h.toKin.adjust hfleet hf hg) .refl .refl

/-- They are the same but for the health of windows when the same message is handed over in both. -/
theorem deliver (h : Twin name R G s t) (hvw : (v, w) ∈ R) (m : Message) :
    Kin name R G (s.deliver name v m) (t.deliver name w m) :=
  h.toKin.deliver hvw (h.world _ hvw).2 m

/-- A message that is no event does the windows no harm. -/
theorem tell (h : Twin name R G s t) (hvw : (v, w) ∈ R) {m : Message} (hm : m.event? = none) :
    Twin name R G (s.deliver name v m) (t.deliver name w m) := by
  refine h.of_kin (h.deliver hvw m) ?_ ?_
  · rw [world_deliver]
    exact .deliver fun u _ => Simulation.health?_deliver_of_not_event hm v s.world u
  · rw [world_deliver]
    exact .deliver fun u _ => Simulation.health?_deliver_of_not_event hm w t.world u

/-- Windows that correspond to each other are closed. -/
theorem closeWindow (h : Twin name R G s t) (hvw : (v, w) ∈ R) :
    Twin name R G (s.closeWindow v).2 (t.closeWindow w).2 := by
  have hnone : ∀ (ws : List WindowId) (j : Journal) (u : WindowId) (fault : Option Fault),
      Journal.attemptsTo ws (j ++ [.close u fault]) = Journal.attemptsTo ws j :=
    fun ws j u fault => Journal.attemptsTo_append_singleton j fun a ha => by cases ha
  refine ⟨⟨h.left.of_eq rfl, h.right.of_eq rfl, h.windows, h.fleet, ?_⟩,
    h.world.close h.windows hvw⟩
  show List.Forall₂ _ (Journal.attemptsTo _ (s.journal ++ _))
    (Journal.attemptsTo _ (t.journal ++ _))
  rw [hnone, hnone]
  exact h.attempts

/-! ## Openings -/

/-- A window is asked for in both; where it shall be makes no difference. -/
theorem openAnew (h : Twin name R G s t) (params : Option Payload) (p q : Placement) :
    Twin name R ((s.fleet.generation + 1, t.fleet.generation + 1) :: G)
      (s.openAnew name params p).2 (t.openAnew name params q).2 := by
  have hexpect := h.adjust (h.fleet.expect params) rfl rfl
  exact hexpect.apart ((apart_requestWindow _ _).trans (apart_report _ _))
    ((apart_requestWindow _ _).trans (apart_report _ _))

/-- They look alike when the satellite is brought to the front in both. -/
theorem reactivate (h : Twin name R G s t) (hvw : (v, w) ∈ R) (params : Option Payload) :
    Twin name R G (s.reactivate name v params) (t.reactivate name w params) := by
  unfold Scene.reactivate
  exact ((h.apart (apart_count _ s) (apart_count _ t)).tell hvw rfl).apart (apart_report _ _)
    (apart_report _ _)

end Twin

/-- Openings with the same result, except that they may have different numbers. -/
inductive SameOpening (G : List (Nat × Nat)) : Except Fault Opening → Except Fault Opening → Prop
  where
  /-- Both are refused. -/
  | refused (f : Fault) : SameOpening G (.error f) (.error f)
  /-- Both bring a live window to the front. -/
  | reactivated : SameOpening G (.ok .reactivated) (.ok .reactivated)
  /-- Both ask for a window. -/
  | opened {i j : Nat} (corresponding : (i, j) ∈ G) :
      SameOpening G (.ok (.opened i)) (.ok (.opened j))

/-- Where it is not said what became of them, such openings are the same. -/
theorem SameOpening.map_const {x y : Except Fault Opening} (h : SameOpening G x y) {α : Type}
    (a : α) : (y.map fun _ => a) = x.map fun _ => a := by
  cases h <;> rfl

namespace Twin

/-- A satellite is opened in both, and what becomes of it is the same. -/
theorem openPlaced (h : Twin name R G s t) (params : Option Payload) (p q : Placement) :
    ∃ G', G ⊆ G' ∧
      Twin name R G' (s.openPlaced name params p).2 (t.openPlaced name params q).2 ∧
      SameOpening G' (s.openPlaced name params p).1 (t.openPlaced name params q).1 := by
  obtain ⟨hrole, hplatform, -⟩ := h.fleet.fields
  unfold Scene.openPlaced
  rw [hrole, hplatform]
  cases s.fleet.role with
  | satellite => exact ⟨G, List.Subset.refl G, h, .refused _⟩
  | main =>
    dsimp only
    rcases h.find?_cases with ⟨hs, ht⟩ | ⟨v, w, hvw, hs, ht⟩
    · rw [hs, ht]
      exact ⟨_, List.subset_cons_self _ _, h.openAnew params p q, .opened List.mem_cons_self⟩
    · rw [hs, ht]
      dsimp only
      cases s.fleet.platform.reactivation with
      | hostActivate =>
        have hraise := h.apart (apart_raise (WindowName.ofSatellite name) s)
          (apart_raise (WindowName.ofSatellite name) t)
        exact ⟨G, List.Subset.refl G, hraise.reactivate hvw params, .reactivated⟩
      | refocus =>
        have hfocus := h.apart (apart_focus v s) (apart_focus w t)
        exact ⟨G, List.Subset.refl G, hfocus.reactivate hvw params, .reactivated⟩
      | reopen =>
        have hnotice := h.tell hvw (m := .pendingReactivate) rfl
        exact ⟨_, List.subset_cons_self _ _, hnotice.openAnew params p q,
          .opened List.mem_cons_self⟩

/-- A satellite is reopened by force in both, and both are refused or neither. -/
theorem forceReopen (h : Twin name R G s t) (params : Option Payload) :
    ∃ G', G ⊆ G' ∧
      Twin name R G' (s.forceReopen name params).2 (t.forceReopen name params).2 ∧
      (t.forceReopen name params).1 = (s.forceReopen name params).1 := by
  unfold Scene.forceReopen
  rcases h.find?_cases with ⟨hs, ht⟩ | ⟨v, w, hvw, hs, ht⟩
  · rw [hs, ht]
    exact ⟨G, List.Subset.refl G, h, rfl⟩
  · rw [hs, ht]
    dsimp only
    have hplaced : (Desktop.geometry t.world w).isOk = (Desktop.geometry s.world v).isOk :=
      (t.world.isOk_geometry w).trans
        ((h.world.any_health? hvw _).trans (s.world.isOk_geometry v).symm)
    cases hp : Desktop.geometry s.world v <;> cases hq : Desktop.geometry t.world w <;>
      rw [hp, hq] at hplaced
    · exact ⟨G, List.Subset.refl G, h, rfl⟩
    · cases hplaced
    · cases hplaced
    · next p q =>
      have hvacant := (h.tell hvw (m := .pendingReactivate) rfl).closeWindow hvw
      obtain ⟨G', hsub, htwin, hsame⟩ := hvacant.openPlaced params (.restore p) (.restore q)
      exact ⟨G', hsub, htwin, hsame.map_const ()⟩

/-! ## Closing and giving up -/

/-- A satellite is closed in both. -/
theorem closeSatellite (h : Twin name R G s t) :
    Twin name R G (s.closeSatellite name) (t.closeSatellite name) := by
  have hforget : Twin name R G
      (s.alter fun f =>
        { f with awaited := f.awaited.erase name, backlog := f.backlog.release name })
      (t.alter fun f =>
        { f with awaited := f.awaited.erase name, backlog := f.backlog.release name }) :=
    h.adjust h.fleet.erase.release rfl rfl
  unfold Scene.closeSatellite
  dsimp only
  generalize s.alter _ = s, t.alter _ = t at hforget
  rcases hforget.find?_cases with ⟨hs, ht⟩ | ⟨v, w, hvw, hs, ht⟩
  · rw [hs, ht]
    exact hforget
  · rw [hs, ht]
    dsimp only
    have hclose := hforget.closeWindow hvw
    cases hs : s.closeWindow v with
    | mk fault s' =>
      cases ht : t.closeWindow w with
      | mk fault' t' =>
        rw [hs, ht] at hclose
        -- Whether it is reported that the window was closed is nothing to the satellite.
        cases fault with
        | none =>
          cases fault' with
          | none => exact hclose.apart (apart_report _ s') (apart_report _ t')
          | some f => exact hclose.apart (apart_report _ s') (.refl t')
        | some f =>
          cases fault' with
          | none => exact hclose.apart (.refl s') (apart_report _ t')
          | some f => exact hclose

/-- Corresponding openings are given up in both, or in neither. -/
theorem expire (h : Twin name R G s t) {i j : Nat} (hij : (i, j) ∈ G) :
    Twin name R G (s.expire name i).2 (t.expire name j).2 ∧
      (t.expire name j).1 = (s.expire name i).1 := by
  have hawaited : t.fleet.awaited.get? name = some j ↔ s.fleet.awaited.get? name = some i := by
    rcases rel_cases h.fleet.awaited with ⟨hs, ht⟩ | ⟨k, l, hkl, hs, ht⟩
    · rw [hs, ht]
      exact iff_of_false nofun nofun
    · rw [hs, ht, Option.some.injEq, Option.some.injEq]
      exact (h.fleet.matching (k, l) hkl (i, j) hij).symm
  have herase : Twin name R G (s.alter fun f => { f with awaited := f.awaited.erase name })
      (t.alter fun f => { f with awaited := f.awaited.erase name }) :=
    h.adjust h.fleet.erase rfl rfl
  unfold Scene.expire
  simp only [hawaited, h.isHolding]
  split
  · split
    · have hrelease : Twin name R G
          ((s.alter fun f => { f with awaited := f.awaited.erase name }).alter fun f =>
            { f with backlog := f.backlog.release name })
          ((t.alter fun f => { f with awaited := f.awaited.erase name }).alter fun f =>
            { f with backlog := f.backlog.release name }) :=
        herase.adjust herase.fleet.release rfl rfl
      exact ⟨hrelease.apart ((apart_count _ _).trans (apart_report _ _))
        ((apart_count _ _).trans (apart_report _ _)), rfl⟩
    · exact ⟨herase, rfl⟩
  · exact ⟨h, rfl⟩

/-! ## Registering and flushing -/

/-- Windows that correspond to each other register for a satellite. -/
theorem register (h : Twin name R G s t) (hvw : (v, w) ∈ R) :
    Twin name R G (s.register name v) (t.register name w) := by
  have hseat := h.of_kin (h.toKin.alter
    (h.fleet.register h.left.unique h.right.unique hvw).erase (h.left.register v)
    (h.right.register w)) .refl .refl
  unfold Scene.register
  dsimp only
  generalize s.alter _ = s, t.alter _ = t at hseat
  have hsession := hseat.tell hvw (m := .setSession s.fleet.session) rfl
  rw [hseat.fleet.fields.2.2.1]
  generalize s.deliver _ _ _ = s, t.deliver _ _ _ = t at hsession
  rw [hsession.fleet.fields.2.2.2.2.2]
  cases s.fleet.startup.get? name with
  | none => exact hsession.apart (apart_report _ _) (apart_report _ _)
  | some params =>
    exact (hsession.tell hvw rfl).apart (apart_report _ _) (apart_report _ _)

end Twin

/-- Of several events the first one does a window all the harm that they do. -/
theorem health?_deliverAll (e : Event) (rest : List Event) (s : Scene Simulation) :
    (s.deliverAll name v ((e :: rest).map .event)).world.health? v =
      (s.deliver name v (.event e)).world.health? v := by
  induction rest generalizing s e with
  | nil => rfl
  | cons f rest ih =>
    refine (ih f (s.deliver name v (.event e))).trans ?_
    rw [world_deliver, world_deliver]
    exact Simulation.health?_deliver_deliver v e f s.world v

/-- Events are handed to windows that correspond to each other. If they are equally healthy before
and after it, they were so all along, and took the same events. -/
theorem Kin.deliverAll (h : Kin name R G s t) (hvw : (v, w) ∈ R) {es : List Event}
    (hbefore : t.world.health? w = s.world.health? v)
    (hafter : (t.deliverAll name w (es.map .event)).world.health? w =
      (s.deliverAll name v (es.map .event)).world.health? v) :
    Kin name R G (s.deliverAll name v (es.map .event)) (t.deliverAll name w (es.map .event)) := by
  induction es generalizing s t with
  | nil => exact h
  | cons e rest ih =>
    have hfirst := hafter
    rw [health?_deliverAll, health?_deliverAll] at hfirst
    exact ih (h.deliver hvw hbefore (.event e)) hfirst hafter

namespace Twin

/-- What was held back is passed on in both. -/
theorem flush (h : Twin name R G s t)
    (halike : (s.flush name).world.Alike R (t.flush name).world) :
    Twin name R G (s.flush name) (t.flush name) := by
  refine ⟨?_, halike⟩
  have hlet : Twin name R G (s.letGo name) (t.letGo name) :=
    h.adjust h.fleet.release rfl rfl
  rw [flush_eq, flush_eq, h.held, Roster.live_eq h.left.unique,
    Roster.live_eq h.right.unique] at halike ⊢
  split
  · exact hlet.toKin
  · next hheld =>
    rw [if_neg hheld, if_neg hheld] at halike
    refine Kin.apart ?_ (apart_report _ _) (apart_report _ _)
    rcases h.find?_cases with ⟨hs, ht⟩ | ⟨v, w, hvw, hs, ht⟩
    · unfold find? at hs ht
      rw [hs, ht]
      exact hlet.toKin
    · unfold find? at hs ht
      rw [hs, ht] at halike ⊢
      exact hlet.toKin.deliverAll hvw (hlet.world _ hvw).2 (halike _ hvw).2

/-! ## Broadcasts -/

/-- They look alike when dead entries are dropped in both. -/
theorem sweep (h : Twin name R G s t) : Twin name R G s.sweep t.sweep := by
  have hlive := h.of_kin (h.toKin.filter (p := fun e => s.isAlive e.window)
    (q := fun e => t.isAlive e.window) fun v w _ _ hvw => h.isAlive hvw) .refl .refl
  exact hlive.apart (apart_reportEvicted _ _) (apart_reportEvicted _ _)

/-- The turn of a satellite is the same in both. -/
theorem offer_own (h : Twin name R G s t) (hvw : (v, w) ∈ R) (m : Message) :
    Kin name R G (offer m [⟨name, v⟩] s).2 (offer m [⟨name, w⟩] t).2 ∧
      (⟨name, w⟩ ∈ (offer m [⟨name, w⟩] t).1 ↔ ⟨name, v⟩ ∈ (offer m [⟨name, v⟩] s).1) := by
  have hs : s.elapse = s := rfl
  have ht : t.elapse = t := rfl
  unfold offer
  dsimp only
  rw [hs, ht, h.isHolding, h.isAlive hvw]
  split
  · exact ⟨h.toKin, iff_of_false List.not_mem_nil List.not_mem_nil⟩
  · split
    · exact ⟨h.deliver hvw m, iff_of_false List.not_mem_nil List.not_mem_nil⟩
    · exact ⟨h.toKin, iff_of_true List.mem_cons_self List.mem_cons_self⟩

end Twin

/-- A message is offered first to one entry and then to the others. -/
theorem offer_cons (m : Message) (e : Entry) (rest : List Entry) (s : Scene Simulation) :
    offer m (e :: rest) s =
      if s.elapse.fleet.isHolding e.name then offer m rest s.elapse
      else if s.elapse.isAlive e.window then offer m rest (s.elapse.deliver e.name e.window m)
      else (offer m rest s.elapse).map (e :: ·) id := rfl

/-- A message is offered to some entries and then to the others. -/
theorem offer_append (m : Message) (l k : List Entry) (s : Scene Simulation) :
    offer m (l ++ k) s =
      ((offer m l s).1 ++ (offer m k (offer m l s).2).1, (offer m k (offer m l s).2).2) := by
  induction l generalizing s with
  | nil => rfl
  | cons e rest ih =>
    rw [List.cons_append, offer_cons, offer_cons]
    split
    · exact ih s.elapse
    · split
      · exact ih (s.elapse.deliver e.name e.window m)
      · rw [ih s.elapse]
        rfl

/-- Windows that are spared while a message goes round are so in the first and in the last turns. -/
theorem Spares.turns {m : Message} {l k : List Entry}
    (h : Spares own s (offer m (l ++ k) s).2) :
    Spares own s (offer m l s).2 ∧
      Spares own (offer m l s).2 (offer m k (offer m l s).2).2 := by
  rw [Scene.offer_append] at h
  exact h.split (traced_offer m l s) (traced_offer m k _)

/-- Entries that are found dead are among those that the message is offered to. -/
theorem mem_of_mem_offer {m : Message} {l : List Entry} {s : Scene Simulation} {d : Entry}
    (h : d ∈ (offer m l s).1) : d ∈ l := by
  obtain ⟨lots, ⟨hround, -, -⟩, hfound⟩ := wentRound_offer m l s
  rw [hfound] at h
  obtain ⟨x, hx, rfl⟩ := List.mem_map.mp h
  rw [← hround.entries]
  exact List.mem_map_of_mem (List.mem_filter.mp hx).1

/-- The entry of a satellite is found dead in its own turn or not at all. -/
theorem mem_offer_between {before after : List Entry}
    (hothers : ∀ e, e ∈ before ∨ e ∈ after → e.name ≠ name) (m : Message) (s : Scene Simulation) :
    ⟨name, v⟩ ∈ (offer m (before ++ ⟨name, v⟩ :: after) s).1 ↔
      ⟨name, v⟩ ∈ (offer m [⟨name, v⟩] (offer m before s).2).1 := by
  show _ ∈ (offer m (before ++ ([⟨name, v⟩] ++ after)) s).1 ↔ _
  rw [offer_append, offer_append]
  simp only [List.mem_append]
  constructor
  · rintro (hmem | hmem | hmem)
    · exact absurd rfl (hothers _ (.inl (mem_of_mem_offer hmem)))
    · exact hmem
    · exact absurd rfl (hothers _ (.inr (mem_of_mem_offer hmem)))
  · exact fun hmem => .inr (.inl hmem)

/-- Between entries of others there is only one of the satellite. -/
theorem eq_of_mem_between {before after : List Entry}
    (hothers : ∀ e, e ∈ before ∨ e ∈ after → e.name ≠ name)
    (h : ⟨name, w⟩ ∈ before ++ ⟨name, v⟩ :: after) : w = v := by
  rcases List.mem_append.mp h with hmem | hmem
  · exact absurd rfl (hothers _ (.inl hmem))
  · rcases List.mem_cons.mp hmem with heq | hmem
    · exact (Entry.mk.inj heq).2
    · exact absurd rfl (hothers _ (.inr hmem))

namespace Twin

/-- A message goes round in both; what comes before and after the turn of the satellite may be quite
different. -/
theorem offer (h : Twin name R G s t) {l l' : List Entry} (hl : Flanked name R l l') {m : Message}
    (hs : Spares (R.map Prod.fst) s (Scene.offer m l s).2)
    (ht : Spares (R.map Prod.snd) t (Scene.offer m l' t).2) :
    Kin name R G (Scene.offer m l s).2 (Scene.offer m l' t).2 ∧
      ∀ v w, ⟨name, v⟩ ∈ l → ⟨name, w⟩ ∈ l' →
        (⟨name, w⟩ ∈ (Scene.offer m l' t).1 ↔ ⟨name, v⟩ ∈ (Scene.offer m l s).1) := by
  cases hl with
  | absent others absent others' =>
    exact ⟨h.toKin.apart (apart_offer others hs) (apart_offer others' ht),
      fun v w hv => absurd hv (absent v)⟩
  | present hvw hl hl' others others' =>
    rename_i v w before after before' after'
    subst hl hl'
    rw [List.append_cons] at hs ht
    obtain ⟨hturns, hafter⟩ := hs.turns
    obtain ⟨hturns', hafter'⟩ := ht.turns
    rw [Scene.offer_append] at hafter hafter'
    have hfirst := h.apart
      (apart_offer (fun e he => (others e (.inl he)).2) hturns.turns.1)
      (apart_offer (fun e he => (others' e (.inl he)).2) hturns'.turns.1)
    obtain ⟨hown, hdead⟩ := hfirst.offer_own hvw m
    have hlast := hown.apart (apart_offer (fun e he => (others e (.inr he)).2) hafter)
      (apart_offer (fun e he => (others' e (.inr he)).2) hafter')
    refine ⟨?_, fun x y hx hy => ?_⟩
    · rw [List.append_cons, List.append_cons before', Scene.offer_append, Scene.offer_append,
        Scene.offer_append, Scene.offer_append]
      exact hlast
    · obtain rfl := eq_of_mem_between (fun e he => (others e he).1) hx
      obtain rfl := eq_of_mem_between (fun e he => (others' e he).1) hy
      rw [mem_offer_between fun e he => (others e he).1,
        mem_offer_between fun e he => (others' e he).1]
      exact hdead

/-- A message is broadcast in both. -/
theorem broadcast (h : Twin name R G s t) {m : Message}
    (hs : Spares (R.map Prod.fst) s (s.broadcast m))
    (ht : Spares (R.map Prod.snd) t (t.broadcast m)) :
    Kin name R G (s.broadcast m) (t.broadcast m) := by
  have hsweep := h.sweep
  obtain ⟨hoffer, hdead⟩ := hsweep.offer hsweep.flanked hs.round ht.round
  have hroster : ∀ u : Scene Simulation,
      (Scene.offer m u.fleet.roster.entries u).2.fleet.roster = u.fleet.roster :=
    fun u => congrArg Handshake.roster (handshake_offer m _ u)
  unfold Scene.broadcast Scene.evict
  dsimp only
  have hspared := hoffer.filter
    (p := fun e => decide (e ∉ (Scene.offer m s.sweep.fleet.roster.entries s.sweep).1))
    (q := fun e => decide (e ∉ (Scene.offer m t.sweep.fleet.roster.entries t.sweep).1))
    fun v w hv hw _ => by
      rw [hroster, Roster.seat?_eq_some hsweep.left.unique] at hv
      rw [hroster, Roster.seat?_eq_some hsweep.right.unique] at hw
      simp only [hdead v w hv hw]
  exact hspared.apart (apart_reportEvicted _ _) (apart_reportEvicted _ _)

/-- They are the same but for the health of windows when the same event is dispatched in both. -/
theorem dispatchEvent (h : Twin name R G s t) {e : Event}
    (hs : Spares (R.map Prod.fst) s (s.dispatchEvent e))
    (ht : Spares (R.map Prod.snd) t (t.dispatchEvent e)) :
    Kin name R G (s.dispatchEvent e) (t.dispatchEvent e) := by
  have hbroadcast := (h.broadcast (m := .event e) hs ht).count
  unfold Scene.dispatchEvent
  exact Kin.adjust (hbroadcast _ _) ((hbroadcast _ _).fleet.enqueueAll e) rfl rfl

/-- So they are when the same command is dispatched in both. -/
theorem dispatchCommand (h : Twin name R G s t) (c : Command) :
    Kin name R G (s.dispatchCommand c) (t.dispatchCommand c) := by
  have hcommand : (Message.command c.id).event? = none := rfl
  unfold Scene.dispatchCommand
  exact (h.broadcast ((discreet_broadcast hcommand s).spares _)
    ((discreet_broadcast hcommand t).spares _)).count _ _

/-! ## Closing all -/

/-- Windows are closed in both, one after the other. -/
theorem closeWindows (h : Twin name R G s t) {l l' : List Entry} (hl : Flanked name R l l') :
    Twin name R G (s.closeWindows (l.map Entry.window)) (t.closeWindows (l'.map Entry.window)) := by
  have hwindows : ∀ {own : List WindowId} {k : List Entry}, (∀ e ∈ k, e.window ∉ own) →
      ∀ u ∈ k.map Entry.window, u ∉ own := by
    intro own k hk u hu
    obtain ⟨e, he, rfl⟩ := List.mem_map.mp hu
    exact hk e he
  cases hl with
  | absent others absent others' =>
    exact h.apart (apart_closeWindows (hwindows others) s)
      (apart_closeWindows (hwindows others') t)
  | present hvw hl hl' others others' =>
    have hfirst := h.apart
      (apart_closeWindows (hwindows fun e he => (others e (.inl he)).2) s)
      (apart_closeWindows (hwindows fun e he => (others' e (.inl he)).2) t)
    have hown := hfirst.closeWindow hvw
    have hlast := hown.apart
      (apart_closeWindows (hwindows fun e he => (others e (.inr he)).2) _)
      (apart_closeWindows (hwindows fun e he => (others' e (.inr he)).2) _)
    subst hl hl'
    unfold Scene.closeWindows at hlast ⊢
    rw [List.map_append, List.map_append, List.foldl_append, List.foldl_append]
    exact hlast

/-- All satellites are closed in both, however many there are. -/
theorem closeAll (h : Twin name R G s t) : Twin name R G s.closeAll t.closeAll := by
  have hflanked := h.flanked
  have hempty : Twin name R G (s.alter fun f => { f with roster := Roster.empty })
      (t.alter fun f => { f with roster := Roster.empty }) :=
    h.of_kin (h.toKin.alter
      ⟨h.fleet.outlook, h.fleet.awaited, .none, h.fleet.given, h.fleet.matching⟩
      ⟨Roster.unique_empty, nofun⟩ ⟨Roster.unique_empty, nofun⟩) .refl .refl
  unfold Scene.closeAll
  dsimp only [Roster.removeAll]
  have hclosed := hempty.closeWindows hflanked
  exact (hclosed.adjust hclosed.fleet.clear rfl rfl).apart (apart_report _ _) (apart_report _ _)

end Twin

end SatelliteWindows.Scene
