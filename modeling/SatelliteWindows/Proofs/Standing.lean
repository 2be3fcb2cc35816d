import SatelliteWindows.Proofs.Pending

/-!
# Openings that stand

An opening stands while it is awaited and events are held back for its satellite; only then can it
be given up. It stands until it is settled: a window registers for the satellite, what is held back
is passed on, the satellite is closed, or it is opened anew. Openings that stand no longer never do
so again, since every opening takes a new number.
-/

namespace SatelliteWindows

/-- Whether the last opening of a satellite is answered, or something else takes its place. -/
def Happening.settles (name : String) : Happening → Bool
  | opened n _ | registered n _ | flushed n | closed n => n == name
  | allClosed => true
  | _ => false

/-- Giving up is what stops a satellite and does not settle it. -/
theorem Happening.stops_eq_false {name : String} {x : Happening} (hx : x.settles name = false)
    (hexpired : ∀ g, x ≠ .expired name g) : x.stops name = false := by
  cases hstops : x.stops name with
  | false => rfl
  | true =>
    rcases stops_cases hstops with rfl | rfl | rfl | ⟨g, rfl⟩
    · simp [settles] at hx
    · simp [settles] at hx
    · cases hx
    · exact absurd rfl (hexpired g)

/-- Openings are numbered upwards. -/
theorem Turn.generation_le {x : Happening} {h k : Handshake} (turn : Turn x h k) :
    h.generation ≤ k.generation := by
  cases turn with
  | opened => exact Nat.le_succ _
  | _ => exact Nat.le_refl _

/-- An opening takes the next number. -/
theorem Turn.generation_opened {name : String} {g : Nat} {h k : Handshake}
    (turn : Turn (.opened name g) h k) : g = h.generation + 1 ∧ k.generation = g := by
  cases turn with
  | opened => exact ⟨rfl, rfl⟩

namespace Handshake

/-- The opening of a satellite with some number stands. -/
def Standing (name : String) (g : Nat) (h : Handshake) : Prop :=
  h.awaited.get? name = some g ∧ h.backlog.isHolding name = true

/-- The openings of a satellite that there were up to some number stand no longer. -/
def Past (name : String) (g : Nat) (h : Handshake) : Prop :=
  g ≤ h.generation ∧ ∀ j ≤ g, ¬ h.Standing name j

end Handshake

namespace Turn

open Happening

variable {x : Happening} {h k : Handshake} {name : String} {g : Nat}

/-- An opening that stands stood before, unless it was made now. -/
theorem standing_of (turn : Turn x h k) (hk : k.Standing name g) :
    h.Standing name g ∨ x = .opened name g := by
  obtain ⟨hawaited, hholding⟩ := hk
  rw [turn.isHolding_eq name] at hholding
  cases turn with
  | opened n =>
    have hput : (if name = n then some (h.generation + 1) else h.awaited.get? name) = some g := by
      rw [← NameMap.get?_put]
      exact hawaited
    split at hput
    · next hn =>
      cases hput
      exact .inr (by rw [hn])
    · next hn =>
      have hne : ¬ n = name := fun e => hn e.symm
      exact .inl ⟨hput, by simpa [opens, stops, hne] using hholding⟩
  | registered n w =>
    have hsame := (NameMap.of_get?_erase hawaited).2
    exact .inl ⟨hsame, by simpa [opens, stops] using hholding⟩
  | flushed n =>
    have hne : ¬ n = name := fun e => by simp [opens, stops, e] at hholding
    exact .inl ⟨hawaited, by simpa [opens, stops, hne] using hholding⟩
  | closed n | expired n j =>
    obtain ⟨hn, hsame⟩ := NameMap.of_get?_erase hawaited
    exact .inl ⟨hsame, by simpa [opens, stops, hn.symm] using hholding⟩
  | allClosed => cases hawaited
  | dispatched | commanded | idle =>
    exact .inl ⟨hawaited, by simpa [opens, stops] using hholding⟩
  | lapsed n =>
    have hsame := (NameMap.of_get?_erase hawaited).2
    exact .inl ⟨hsame, by simpa [opens, stops] using hholding⟩

/-- An opening that was made stands. -/
theorem standing_of_opened (turn : Turn (.opened name g) h k) : k.Standing name g := by
  have hholding := turn.isHolding_eq name
  have hg := turn.generation_opened.1
  cases turn with
  | opened =>
    refine ⟨?_, by simpa [opens] using hholding⟩
    show (h.awaited.put name (h.generation + 1)).get? name = some (h.generation + 1)
    rw [NameMap.get?_put, if_pos rfl]

/-- An opening that is given up stands. -/
theorem standing_of_expired (turn : Turn (.expired name g) h k) : h.Standing name g := by
  cases turn with
  | expired n j _ hawaited hholding => exact ⟨hawaited, hholding⟩

/-- Openings that stand no longer are not given up, and stay as they are. -/
theorem past (turn : Turn x h k) (hpast : h.Past name g) :
    k.Past name g ∧ ∀ j ≤ g, x ≠ .expired name j := by
  obtain ⟨hknown, hnot⟩ := hpast
  refine ⟨⟨Nat.le_trans hknown turn.generation_le, fun j hj hstanding => ?_⟩, fun j hj hx => ?_⟩
  · rcases turn.standing_of hstanding with hbefore | hopened
    · exact hnot j hj hbefore
    · rw [hopened] at turn
      have hnew := turn.generation_opened.1
      omega
  · rw [hx] at turn
    exact hnot j hj turn.standing_of_expired

/-- What settles an opening, or gives it up, leaves none standing that there was before. -/
theorem past_of_settles (turn : Turn x h k) (hg : g ≤ h.generation)
    (hx : x.settles name = true ∨ ∃ j, x = .expired name j) : k.Past name g := by
  refine ⟨Nat.le_trans hg turn.generation_le, fun j hj ⟨hawaited, hholding⟩ => ?_⟩
  rw [turn.isHolding_eq name] at hholding
  rcases hx with hsettles | ⟨i, rfl⟩
  · cases turn with
    | opened n =>
      have hn : n = name := by simpa [settles] using hsettles
      have hput : (if name = n then some (h.generation + 1) else h.awaited.get? name) =
          some j := by
        rw [← NameMap.get?_put]
        exact hawaited
      rw [if_pos hn.symm] at hput
      cases hput
      omega
    | registered n w =>
      have hn : n = name := by simpa [settles] using hsettles
      exact (NameMap.of_get?_erase hawaited).1 hn.symm
    | flushed n | closed n =>
      have hn : n = name := by simpa [settles] using hsettles
      simp [opens, stops, hn] at hholding
    | allClosed => cases hawaited
    | expired | dispatched | commanded | idle | lapsed => cases hsettles
  · simp [opens, stops] at hholding

/-- An opening goes on standing until it is settled or given up. -/
theorem standing (turn : Turn x h k) (hstanding : h.Standing name g)
    (hsettles : x.settles name = false) (hexpired : x ≠ .expired name g) : k.Standing name g := by
  obtain ⟨hawaited, hholding⟩ := hstanding
  have hnone : ∀ j, x ≠ .expired name j := by
    intro j hx
    rw [hx] at turn
    have hj : some j = some g := turn.standing_of_expired.1.symm.trans hawaited
    cases hj
    exact hexpired hx
  refine ⟨?_, ?_⟩
  · cases turn with
    | opened n | registered n w | closed n =>
      have hn : ¬ name = n := fun e => by simp [settles, e] at hsettles
      simpa [Handshake.expect, Handshake.register, Handshake.giveUp, NameMap.get?_put,
        NameMap.get?_erase, hn] using hawaited
    | expired n j =>
      have hn : ¬ name = n := fun e => hnone j (by rw [e])
      simpa [Handshake.giveUp, NameMap.get?_erase, hn] using hawaited
    | lapsed n _ hnot =>
      have hn : ¬ name = n := fun e => by simp [← e, hholding] at hnot
      simpa [NameMap.get?_erase, hn] using hawaited
    | allClosed => cases hsettles
    | flushed | dispatched | commanded | idle => exact hawaited
  · rw [turn.isHolding_eq name, stops_eq_false hsettles hnone, hholding]
    simp

end Turn

end SatelliteWindows
