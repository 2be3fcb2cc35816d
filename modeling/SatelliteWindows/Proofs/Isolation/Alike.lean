import SatelliteWindows.Proofs.Isolation.Apart

/-!
# What looks alike to a satellite

Two desktops, two attempts to hand over a message, and two fleets look alike to a satellite if it
cannot tell one from the other. Its windows may have other numbers on the one desktop than on the
other, and its openings other numbers in the one fleet than in the other: what matters is which of
them correspond to each other. Whatever looks alike does so still when the same is done to both.
-/

namespace SatelliteWindows

/-- No window, and no number, corresponds to two others. -/
def Matching (R : List (Nat × Nat)) : Prop := ∀ x ∈ R, ∀ y ∈ R, x.1 = y.1 ↔ x.2 = y.2

/-- Numbers given out at the same time correspond to each other, and to none that were given out
before. -/
theorem Matching.cons {R : List (Nat × Nat)} (h : Matching R) {v w : Nat}
    (hv : ∀ x ∈ R, x.1 ≠ v) (hw : ∀ x ∈ R, x.2 ≠ w) : Matching ((v, w) :: R) := by
  intro x hx y hy
  rcases List.mem_cons.mp hx with rfl | hx <;> rcases List.mem_cons.mp hy with rfl | hy
  · exact iff_of_true rfl rfl
  · exact iff_of_false (hv y hy).symm (hw y hy).symm
  · exact iff_of_false (hv x hx) (hw x hx)
  · exact h x hx y hy

/-- Of two things that correspond to each other, if they are there, both are there or neither. -/
theorem rel_cases {α β : Type} {r : α → β → Prop} {a : Option α} {b : Option β}
    (h : Option.Rel r a b) : (a = none ∧ b = none) ∨ ∃ x y, r x y ∧ a = some x ∧ b = some y := by
  cases h with
  | none => exact .inl ⟨rfl, rfl⟩
  | some hxy => exact .inr ⟨_, _, hxy, rfl, rfl⟩

/-- The windows of a satellite on one desktop and those on another that correspond to them are
there, and equally healthy. -/
def Simulation.Alike (R : List (WindowId × WindowId)) (a b : Simulation) : Prop :=
  ∀ x ∈ R, (a.health? x.1).isSome ∧ b.health? x.2 = a.health? x.1

instance Simulation.decidableAlike (R : List (WindowId × WindowId)) (a b : Simulation) :
    Decidable (Simulation.Alike R a b) :=
  inferInstanceAs (Decidable (∀ x ∈ R, (a.health? x.1).isSome ∧ b.health? x.2 = a.health? x.1))

namespace Simulation.Alike

variable {R : List (WindowId × WindowId)} {a b : Simulation} {v w : WindowId}

/-- Windows that correspond to each other are both there, and in the same health. -/
theorem exists_health (h : Alike R a b) {x : WindowId × WindowId} (hx : x ∈ R) :
    ∃ k, a.health? x.1 = some k ∧ b.health? x.2 = some k := by
  obtain ⟨hsome, hsame⟩ := h x hx
  obtain ⟨k, hk⟩ := Option.isSome_iff_exists.mp hsome
  exact ⟨k, hk, hsame.trans hk⟩

/-- Windows that are equally healthy give the same answers. -/
theorem any_health? (h : Alike R a b) (hvw : (v, w) ∈ R) (p : Health → Bool) :
    (b.health? w).any p = (a.health? v).any p := by
  rw [(h _ hvw).2]

/-- Windows stay alike as long as their health is not touched on either desktop. -/
theorem untouched (h : Alike R a b) {c d : Simulation}
    (hac : a.Untouched (R.map Prod.fst) c) (hbd : b.Untouched (R.map Prod.snd) d) :
    Alike R c d := by
  intro x hx
  obtain ⟨k, hv, hw⟩ := h.exists_health hx
  rw [hac _ (List.mem_map_of_mem hx) k hv, hbd _ (List.mem_map_of_mem hx) k hw]
  exact ⟨rfl, rfl⟩

/-- They stay alike when two that correspond to each other are closed. -/
theorem close (h : Alike R a b) (hR : Matching R) (hvw : (v, w) ∈ R) :
    Alike R (a.close v).2 (b.close w).2 := by
  intro x hx
  obtain ⟨k, hv, hw⟩ := h.exists_health hx
  rw [(of_nature? (nature?_close v a x.1)).1, (of_nature? (nature?_close w b x.2)).1, hv, hw]
  simp only [hR (v, w) hvw x hx]
  exact ⟨rfl, trivial⟩

end Simulation.Alike

/-- The same message was handed to windows that correspond to each other, and it was taken by both
or by neither. -/
structure Attempt.Alike (R : List (WindowId × WindowId)) (a b : Attempt) : Prop where
  /-- It was for the same satellite. -/
  name : b.name = a.name
  /-- It was the same message. -/
  message : b.message = a.message
  /-- The windows correspond to each other. -/
  window : (a.window, b.window) ∈ R
  /-- It was taken, or it was not. -/
  taken : b.fault.isNone = a.fault.isNone

namespace Fleet

/-- Two fleets remember the same of a satellite, up to windows and numbers of openings that
correspond to each other. -/
structure Twin (name : String) (R : List (WindowId × WindowId)) (G : List (Nat × Nat))
    (f g : Fleet) : Prop where
  /-- They remember the same of the satellite. -/
  outlook : g.outlook name = f.outlook name
  /-- They wait for corresponding openings. -/
  awaited : Option.Rel (fun i j => (i, j) ∈ G) (f.awaited.get? name) (g.awaited.get? name)
  /-- Corresponding windows are registered for it. -/
  seat : Option.Rel (fun v w => (v, w) ∈ R) (f.roster.seat? name) (g.roster.seat? name)
  /-- The numbers of its openings have been given out. -/
  given : ∀ x ∈ G, x.1 ≤ f.generation ∧ x.2 ≤ g.generation
  /-- None of them corresponds to two others. -/
  matching : Matching G

namespace Twin

variable {name : String} {R : List (WindowId × WindowId)} {G : List (Nat × Nat)} {f g : Fleet}

/-- Fleets remember the same of a satellite as long as nothing concerns it in either. -/
theorem apart (h : Twin name R G f g) {own own' : List WindowId} {f' g' : Fleet}
    (hf : f.Apart name own f') (hg : g.Apart name own' g') : Twin name R G f' g' := by
  refine ⟨?_, ?_, ?_, fun x hx => ?_, h.matching⟩
  · rw [hf.outlook, hg.outlook, h.outlook]
  · rw [hf.awaited, hg.awaited]
    exact h.awaited
  · rw [hf.seat, hg.seat]
    exact h.seat
  · exact ⟨Nat.le_trans (h.given x hx).1 hf.generation,
      Nat.le_trans (h.given x hx).2 hg.generation⟩

/-- More windows may come to correspond to each other. -/
theorem mono (h : Twin name R G f g) {R' : List (WindowId × WindowId)} (hsub : R ⊆ R') :
    Twin name R' G f g := by
  refine ⟨h.outlook, h.awaited, ?_, h.given, h.matching⟩
  rcases rel_cases h.seat with ⟨hf, hg⟩ | ⟨v, w, hvw, hf, hg⟩
  · rw [hf, hg]
    exact .none
  · rw [hf, hg]
    exact .some (hsub hvw)

/-- The parts of what is remembered of a satellite agree one by one. -/
theorem fields (h : Twin name R G f g) :
    g.role = f.role ∧ g.platform = f.platform ∧ g.session = f.session ∧ g.calls = f.calls ∧
      g.backlog.queue? name = f.backlog.queue? name ∧
      g.startup.get? name = f.startup.get? name := by
  have h := h.outlook
  unfold Fleet.outlook at h
  simpa only [Outlook.mk.injEq] using h

/-- Nothing that is counted makes a difference. -/
theorem tally (h : Twin name R G f g) (count count' : Tally → Tally) :
    Twin name R G { f with tally := count f.tally } { g with tally := count' g.tally } :=
  ⟨h.outlook, h.awaited, h.seat, h.given, h.matching⟩

/-- They do so when they release what they hold back for it. -/
theorem release (h : Twin name R G f g) :
    Twin name R G { f with backlog := f.backlog.release name }
      { g with backlog := g.backlog.release name } := by
  obtain ⟨hrole, hplatform, hsession, hcalls, -, hparams⟩ := h.fields
  refine ⟨?_, h.awaited, h.seat, h.given, h.matching⟩
  simp [Fleet.outlook, Backlog.queue?_release, hrole, hplatform, hsession, hcalls, hparams]

/-- They do so when they forget the number of its opening. -/
theorem erase (h : Twin name R G f g) :
    Twin name R G { f with awaited := f.awaited.erase name }
      { g with awaited := g.awaited.erase name } := by
  refine ⟨h.outlook, ?_, h.seat, h.given, h.matching⟩
  simp [NameMap.get?_erase]

/-- A satellite is opened anew in both; the numbers of the two openings correspond to each other
from then on. -/
theorem expect (h : Twin name R G f g) (params : Option Payload) :
    Twin name R ((f.generation + 1, g.generation + 1) :: G) (f.expect name params)
      (g.expect name params) := by
  obtain ⟨hrole, hplatform, hsession, hcalls, hqueue, hparams⟩ := h.fields
  refine ⟨?_, ?_, h.seat, fun x hx => ?_, h.matching.cons (fun x hx => ?_) fun x hx => ?_⟩
  · cases params <;>
      simp [Fleet.outlook, Fleet.expect, Backlog.queue?_hold, NameMap.get?_put, hrole, hplatform,
        hsession, hcalls, hqueue, hparams]
  · simp [Fleet.expect, NameMap.get?_put]
  · rcases List.mem_cons.mp hx with rfl | hx
    · exact ⟨Nat.le_refl _, Nat.le_refl _⟩
    · exact ⟨Nat.le_succ_of_le (h.given x hx).1, Nat.le_succ_of_le (h.given x hx).2⟩
  · exact Nat.ne_of_lt (Nat.lt_succ_of_le (h.given x hx).1)
  · exact Nat.ne_of_lt (Nat.lt_succ_of_le (h.given x hx).2)

/-- They do so when it registers in both, with windows that correspond to each other. -/
theorem register (h : Twin name R G f g) (hf : f.roster.Unique) (hg : g.roster.Unique)
    {v w : WindowId} (hvw : (v, w) ∈ R) :
    Twin name R G { f with roster := f.roster.upsert ⟨name, v⟩ }
      { g with roster := g.roster.upsert ⟨name, w⟩ } := by
  refine ⟨h.outlook, h.awaited, ?_, h.given, h.matching⟩
  simp [Roster.seat?_upsert hf, Roster.seat?_upsert hg, hvw]

/-- Entries are taken off both rosters, that of the satellite off both or off neither. -/
theorem filter (h : Twin name R G f g) (hf : f.roster.Unique) (hg : g.roster.Unique)
    {p q : Entry → Bool} (hpq : ∀ v w, f.roster.seat? name = some v →
      g.roster.seat? name = some w → (v, w) ∈ R → q ⟨name, w⟩ = p ⟨name, v⟩) :
    Twin name R G { f with roster := ⟨f.roster.entries.filter p⟩ }
      { g with roster := ⟨g.roster.entries.filter q⟩ } := by
  refine ⟨h.outlook, h.awaited, ?_, h.given, h.matching⟩
  dsimp only
  rw [Roster.seat?_filter hf, Roster.seat?_filter hg]
  rcases rel_cases h.seat with ⟨hv, hw⟩ | ⟨v, w, hvw, hv, hw⟩
  · rw [hv, hw]
    exact .none
  · have hsame := hpq v w hv hw hvw
    rw [hv, hw]
    cases hp : p ⟨name, v⟩ with
    | true => simp [Option.filter, hsame, hp, hvw]
    | false => simp [Option.filter, hsame, hp]

/-- They do so when the same event is held back in both. -/
theorem enqueueAll (h : Twin name R G f g) (e : Event) :
    Twin name R G { f with backlog := f.backlog.enqueueAll e }
      { g with backlog := g.backlog.enqueueAll e } := by
  obtain ⟨hrole, hplatform, hsession, hcalls, hqueue, hparams⟩ := h.fields
  refine ⟨?_, h.awaited, h.seat, h.given, h.matching⟩
  simp [Fleet.outlook, Backlog.queue?_enqueueAll, hrole, hplatform, hsession, hcalls, hqueue,
    hparams]

/-- All satellites are closed. -/
theorem clear (h : Twin name R G f g) :
    Twin name R G { f with backlog := Backlog.empty, awaited := NameMap.empty }
      { g with backlog := Backlog.empty, awaited := NameMap.empty } := by
  obtain ⟨hrole, hplatform, hsession, hcalls, -, hparams⟩ := h.fields
  refine ⟨?_, .none, h.seat, h.given, h.matching⟩
  simp [Fleet.outlook, hrole, hplatform, hsession, hcalls, hparams]

/-- They do so when the session is replaced in both by the same. -/
theorem updateSession (h : Twin name R G f g) (snapshot : Payload) :
    Twin name R G { f with session := snapshot } { g with session := snapshot } := by
  obtain ⟨hrole, hplatform, -, hcalls, hqueue, hparams⟩ := h.fields
  refine ⟨?_, h.awaited, h.seat, h.given, h.matching⟩
  simp [Fleet.outlook, hrole, hplatform, hcalls, hqueue, hparams]

/-- They do so when the same is done to their calls. -/
theorem install (h : Twin name R G f g) (change : CallTable Call → CallTable Call) :
    Twin name R G { f with calls := change f.calls } { g with calls := change g.calls } := by
  obtain ⟨hrole, hplatform, hsession, hcalls, hqueue, hparams⟩ := h.fields
  refine ⟨?_, h.awaited, h.seat, h.given, h.matching⟩
  simp [Fleet.outlook, hrole, hplatform, hsession, hcalls, hqueue, hparams]

end Twin

end Fleet

end SatelliteWindows
