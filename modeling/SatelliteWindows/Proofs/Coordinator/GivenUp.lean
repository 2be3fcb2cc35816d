import SatelliteWindows.Proofs.Coordinator.Timers

/-!
# Openings that are given up

An opening is given up only when its timer goes off, and a timer is set only by the request to open.
Until a coordinator is shut down, every timer goes off when its time has come. Openings are given up
in the order in which they were made.
-/

namespace SatelliteWindows

namespace Happening

/-- The number of the opening that is given up. -/
def givenUp? : Happening → Option Nat
  | expired _ g => some g
  | _ => none

/-- Only an opening that expires is given up. -/
theorem givenUp?_eq_some {x : Happening} {g : Nat} (h : x.givenUp? = some g) :
    ∃ name, x = .expired name g := by
  cases x with
  | expired name k =>
    cases h
    exact ⟨name, rfl⟩
  | _ => cases h

end Happening

namespace Coordinator

variable {σ : Type} [Desktop σ]

/-! ## Only timers give up openings -/

/-- Only the request to give up an opening can mean that one was given up. -/
theorem happening_ne_expired {r : Request} (hr : r.givesUp = false) (moment : Nat) (s : Scene σ)
    (name : String) (g : Nat) :
    Step.happening ⟨moment, s, .request r⟩ ≠ .expired name g := by
  have hopening : ∀ r, s.meaningOfOpening r ≠ .expired name g := by
    intro r
    unfold Scene.meaningOfOpening
    split
    · exact fun h => by cases h
    · exact fun h => by cases h
  show s.meaning r ≠ .expired name g
  cases r with
  | expire name generation => cases hr
  | openSatellite | forceReopen => exact hopening _
  | invoke operation caller =>
    unfold Scene.meaning
    dsimp only
    split
    · exact fun h => by cases h
    · exact fun h => by cases h
    · exact fun h => by cases h
  | _ => exact fun h => by cases h

/-- An opening is given up when its timer goes off in a wait. -/
theorem wait_of_expired {a : Act σ} {c : Coordinator σ} {y : Step σ} {name : String} {g : Nat}
    (hy : y ∈ c.stepsOf a) (h : y.happening = .expired name g) :
    ∃ ms, a = .wait ms ∧ ∃ t ∈ c.due (c.clock + delay ms),
      t.name = name ∧ t.generation = g ∧ y.moment = t.deadline := by
  cases a with
  | ask r allowed =>
    obtain ⟨-, rfl⟩ := mem_served hy
    exact absurd h (happening_ne_expired allowed c.clock c.scene name g)
  | wait ms =>
    obtain ⟨t, ht, hmoment, hmove⟩ := mem_rings hy
    refine ⟨ms, rfl, t, ht, ?_⟩
    rcases happening_of_expire hmove with hexpired | hother
    · rw [hexpired] at h
      cases h
      exact ⟨rfl, rfl, hmoment⟩
    · rw [hother] at h
      cases h
  | shutdown =>
    obtain ⟨-, rfl⟩ := mem_served hy
    cases h
  | shift change =>
    rw [List.mem_singleton.mp hy] at h
    cases h

variable {span : Nat}

/-- The timers after an act are timers from before it, or one that is set for a new opening. -/
theorem Timed.mem_timers_act {c : Coordinator σ} (h : Timed span c) (a : Act σ) {t : Timer}
    (ht : t ∈ (c.act a).timers) :
    t ∈ c.timers ∨ ∃ z ∈ c.stepsOf a, z.asksToOpen = true ∧
      z.happening = .opened t.name t.generation ∧ z.moment + span = t.deadline := by
  obtain ⟨-, ⟨-, htimers⟩ | ⟨u, -, htimers, hdeadline, -, -, z, hz, hmoment, hasks, hopened⟩ |
    ⟨-, htimers⟩⟩ := h.act_cases a
  · rw [htimers] at ht
    exact .inl ht
  · rw [htimers] at ht
    rcases List.mem_append.mp ht with ht | ht
    · exact .inl ht
    · rw [List.mem_singleton.mp ht]
      exact .inr ⟨z, hz, hasks, hopened, by omega⟩
  · rw [htimers] at ht
    exact .inl ((List.dropWhile_sublist _).subset ht)

/-- An opening that is given up had its timer set already, or a request to open made it, as long
ago as openings are waited for. -/
theorem Timed.of_expired (hpos : 0 < span) (acts : List (Act σ)) {c : Coordinator σ}
    (h : Timed span c) {y : Step σ} (hy : y ∈ c.steps acts) {name : String} {g : Nat}
    (hexpired : y.happening = .expired name g) :
    (∃ t ∈ c.timers, t.name = name ∧ t.generation = g ∧ y.moment = t.deadline) ∨
      ∃ z ∈ c.steps acts, z.asksToOpen = true ∧ z.happening = .opened name g ∧
        z.moment + span = y.moment := by
  induction acts generalizing c with
  | nil => cases hy
  | cons a rest ih =>
    rcases List.mem_append.mp hy with hfirst | hrest
    · obtain ⟨ms, rfl, t, ht, hname, hg, hmoment⟩ := wait_of_expired hfirst hexpired
      exact .inl ⟨t, (mem_due ht).1, hname, hg, hmoment⟩
    · rcases ih (h.act hpos a) hrest with ⟨t, ht, rfl, rfl, hmoment⟩ | ⟨z, hz, hopening⟩
      · rcases h.mem_timers_act a ht with hmem | ⟨z, hz, hasks, hopened, hdeadline⟩
        · exact .inl ⟨t, hmem, rfl, rfl, hmoment⟩
        · exact .inr ⟨z, List.mem_append_left _ hz, hasks, hopened, by omega⟩
      · exact .inr ⟨z, List.mem_append_right _ hz, hopening⟩

/-! ## Timers go off -/

/-- A coordinator at work stays so until it is shut down, and then closes all satellites. -/
theorem running_act {c : Coordinator σ} (h : c.running = true) (a : Act σ) :
    (c.act a).running = true ∨
      ∃ y ∈ c.stepsOf a, y.moment = c.clock ∧ y.happening = .allClosed := by
  cases a with
  | ask r allowed => exact .inl (serve_of_running h r).2.2.1
  | wait ms => exact .inl ((c.wait_fields ms).2.1.trans h)
  | shutdown =>
    have hone : c.stepsOf .shutdown = [⟨c.clock, c.scene, .request .mainWindowClosed⟩] := if_pos h
    refine .inr ⟨⟨c.clock, c.scene, .request .mainWindowClosed⟩, ?_, rfl, rfl⟩
    rw [hone]
    exact List.mem_singleton.mpr rfl
  | shift change => exact .inl h

/-- A timer stays set until its time has come. -/
theorem Timed.mem_timers_of_lt {c : Coordinator σ} (h : Timed span c) {a : Act σ} {t : Timer}
    (ht : t ∈ c.timers) (hlt : (c.act a).clock < t.deadline) : t ∈ (c.act a).timers := by
  obtain ⟨-, ⟨-, htimers⟩ | ⟨u, -, htimers, hdeadline, -⟩ | ⟨-, htimers⟩⟩ :=
    h.act_cases a
  · rw [htimers]
    exact ht
  · rw [htimers]
    exact List.mem_append_left _ ht
  · rw [htimers]
    rw [← c.due_append_unset (c.act a).clock] at ht
    rcases List.mem_append.mp ht with hdue | hleft
    · have hle := (mem_due hdue).2
      omega
    · exact hleft

/-- A timer goes off in the wait in which its time comes; until then that wait only lets timers go
off. -/
theorem exists_ring_of_due {c : Coordinator σ} (h : c.running = true) {ms : Nat} {t : Timer}
    (ht : t ∈ c.due (c.clock + delay ms)) :
    ∃ front x back, c.stepsOf (.wait ms) = front ++ x :: back ∧ x.moment = t.deadline ∧
      x.move = .request (.expire t.name t.generation) ∧
      ∀ y ∈ front, ∃ n k, y.move = .request (.expire n k) := by
  obtain ⟨first, rest, hdue⟩ := List.append_of_mem ht
  have hsteps : c.stepsOf (.wait ms) = rings (first ++ t :: rest) (c.unset (c.clock + delay ms)) :=
    congrArg (rings · _) hdue
  generalize hd : ringAll first (c.unset (c.clock + delay ms)) = d
  have hrunning : d.running = true := by
    rw [← hd, (ringAll_eq first _).1]
    exact h
  have hserved : { d with clock := t.deadline }.served (.expire t.name t.generation) =
      [⟨t.deadline, d.scene, .request (.expire t.name t.generation)⟩] := if_pos hrunning
  refine ⟨rings first (c.unset (c.clock + delay ms)),
    ⟨t.deadline, d.scene, .request (.expire t.name t.generation)⟩, rings rest (d.ring t), ?_, rfl,
    rfl, fun y hy => ?_⟩
  · rw [hsteps, rings_append, hd, rings, hserved]
    rfl
  · obtain ⟨u, -, -, hmove⟩ := mem_rings hy
    exact ⟨u.name, u.generation, hmove⟩

/-- A timer goes off when its time has come, unless the coordinator was shut down before. Until it
goes off, whatever is done at that time comes of other timers. -/
theorem Timed.exists_ring (hpos : 0 < span) (acts : List (Act σ)) {c : Coordinator σ}
    (h : Timed span c) (hrunning : c.running = true) {t : Timer} (ht : t ∈ c.timers)
    (hdue : t.deadline ≤ (c.run acts).clock) :
    (∃ y ∈ c.steps acts, y.moment < t.deadline ∧ y.happening = .allClosed) ∨
      ∃ front x back, c.steps acts = front ++ x :: back ∧ x.moment = t.deadline ∧
        x.move = .request (.expire t.name t.generation) ∧
        ∀ y ∈ front, y.moment < t.deadline ∨ ∃ n k, y.move = .request (.expire n k) := by
  induction acts generalizing c with
  | nil =>
    have hahead := h.ahead t ht
    have hnow : t.deadline ≤ c.clock := hdue
    omega
  | cons a rest ih =>
    -- either its time comes later, or it comes in this act, which is then a wait
    by_cases hlt : (c.act a).clock < t.deadline
    · rcases running_act hrunning a with hstill | ⟨y, hy, hmoment, hclosed⟩
      · rcases ih (h.act hpos a) hstill (h.mem_timers_of_lt ht hlt) hdue with
          ⟨y, hy, hbefore, hclosed⟩ | ⟨front, x, back, hsplit, hmoment, hmove, hfront⟩
        · exact .inl ⟨y, List.mem_append_right _ hy, hbefore, hclosed⟩
        · refine .inr ⟨c.stepsOf a ++ front, x, back, ?_, hmoment, hmove, fun y hy => ?_⟩
          · show c.stepsOf a ++ (c.act a).steps rest = _
            rw [hsplit, List.append_assoc]
          · rcases List.mem_append.mp hy with hfirst | hrest
            · have hle := (h.le_moment hfirst).2
              exact .inl (by omega)
            · exact hfront y hrest
      · have hahead := h.ahead t ht
        exact .inl ⟨y, List.mem_append_left _ hy, by omega, hclosed⟩
    · have hahead := h.ahead t ht
      cases a with
      | ask r allowed =>
        have hclock : (c.act (.ask r allowed)).clock = c.clock := (serve_of_running hrunning r).2.1
        omega
      | wait ms =>
        have hclock : (c.act (.wait ms)).clock = c.clock + delay ms := (c.wait_fields ms).1
        -- the timers are sorted, so that those that are left have later deadlines
        have hmem : t ∈ c.due (c.clock + delay ms) := by
          rw [← c.due_append_unset (c.clock + delay ms)] at ht
          rcases List.mem_append.mp ht with hnow | hleft
          · exact hnow
          · have hlater := lt_deadline_of_mem_dropWhile h.sorted t hleft
            omega
        obtain ⟨front, x, back, hsplit, hmoment, hmove, hfront⟩ := exists_ring_of_due hrunning hmem
        refine .inr ⟨front, x, back ++ (c.act (.wait ms)).steps rest, ?_, hmoment, hmove,
          fun y hy => .inr (hfront y hy)⟩
        show c.stepsOf (.wait ms) ++ _ = _
        rw [hsplit, List.append_assoc]
        rfl
      | shutdown =>
        have hclock : (c.act .shutdown).clock = c.clock := (shutdown_of_running hrunning).2.1
        omega
      | shift change =>
        have hclock : (c.act (.shift change)).clock = c.clock := rfl
        omega

/-! ## The order in which openings are given up -/

/-- The openings that timers give up are their own, in the order of the timers. -/
theorem givenUp_rings_sublist (due : List Timer) (c : Coordinator σ) :
    ((rings due c).filterMap fun y => y.happening.givenUp?).Sublist
      (due.map Timer.generation) := by
  induction due generalizing c with
  | nil => exact .refl _
  | cons t rest ih =>
    have hone : (({ c with clock := t.deadline }.served
        (.expire t.name t.generation)).filterMap fun y : Step σ => y.happening.givenUp?).Sublist
          [t.generation] := by
      unfold served
      split
      · rw [List.filterMap_cons]
        split
        · exact List.nil_sublist _
        · next g hg =>
          obtain ⟨name, hexpired⟩ := Happening.givenUp?_eq_some hg
          have hcases := happening_of_expire
            (y := ⟨t.deadline, c.scene, .request (.expire t.name t.generation)⟩) rfl
          rcases hcases with h | h
          · rw [h] at hexpired
            cases hexpired
            exact .refl _
          · rw [h] at hexpired
            cases hexpired
      · exact List.nil_sublist _
    unfold rings
    rw [List.filterMap_append]
    exact hone.append (ih (c.ring t))

/-- The openings given up in an act are those of timers, in their order. -/
theorem givenUp_stepsOf_sublist (a : Act σ) (c : Coordinator σ) :
    ((c.stepsOf a).filterMap fun y => y.happening.givenUp?).Sublist
      (c.timers.map Timer.generation) := by
  by_cases hwait : ∃ ms, a = .wait ms
  · obtain ⟨ms, rfl⟩ := hwait
    exact (givenUp_rings_sublist _ _).trans ((List.takeWhile_sublist _).map _)
  · have hnone : (c.stepsOf a).filterMap (fun y => y.happening.givenUp?) = [] := by
      refine List.filterMap_eq_nil_iff.mpr fun y hy => ?_
      cases hgiven : y.happening.givenUp? with
      | none => rfl
      | some g =>
        obtain ⟨name, hexpired⟩ := Happening.givenUp?_eq_some hgiven
        obtain ⟨ms, hms, -⟩ := wait_of_expired hy hexpired
        exact absurd ⟨ms, hms⟩ hwait
    rw [hnone]
    exact List.nil_sublist _

/-- Openings are given up in their order. -/
theorem Timed.givenUp_pairwise (hpos : 0 < span) (acts : List (Act σ)) {c : Coordinator σ}
    (h : Timed span c) :
    ((c.steps acts).filterMap fun y => y.happening.givenUp?).Pairwise (· < ·) := by
  induction acts generalizing c with
  | nil => exact .nil
  | cons a rest ih =>
    have hgeneration := generation_of_recorded (recorded_stepsOf a c)
    have hfirst : ((c.stepsOf a).filterMap fun y => y.happening.givenUp?).Pairwise (· < ·) :=
      (List.pairwise_map.mpr h.numbered).sublist (givenUp_stepsOf_sublist a c)
    show ((c.stepsOf a ++ (c.act a).steps rest).filterMap _).Pairwise _
    rw [List.filterMap_append]
    refine List.pairwise_append.mpr ⟨hfirst, ih (h.act hpos a), fun g hg k hk => ?_⟩
    obtain ⟨y, hy, hyg⟩ := List.mem_filterMap.mp hg
    obtain ⟨z, hz, hzk⟩ := List.mem_filterMap.mp hk
    obtain ⟨name, hexpired⟩ := Happening.givenUp?_eq_some hyg
    obtain ⟨other, hexpired'⟩ := Happening.givenUp?_eq_some hzk
    obtain ⟨ms, rfl, t, ht, -, rfl, -⟩ := wait_of_expired hy hexpired
    rcases (h.act hpos (.wait ms)).of_expired hpos rest hz hexpired' with
      ⟨u, hu, -, rfl, -⟩ | ⟨o, ho, -, hopened, -⟩
    · have hnumbered := h.numbered
      rw [← c.due_append_unset (c.clock + delay ms)] at hnumbered
      have hleft : u ∈ (c.wait ms).timers := hu
      rw [(c.wait_fields ms).2.2.2] at hleft
      exact (List.pairwise_append.mp hnumbered).2.2 t ht u hleft
    · have hknown := h.known t (mem_due ht).1
      have hnew := (recorded_steps rest (c.act (.wait ms))).openedAs_pairwise.2 k
        (List.mem_filterMap.mpr ⟨o, ho, by rw [hopened]; rfl⟩)
      omega

end Coordinator

end SatelliteWindows
