import Mathlib.Data.List.Basic
import SatelliteWindows.Mailbox

/-!
# Mailboxes under other names

A mailbox does not look at what its letters say, and of the senders it only tells one from another.
So whatever is done with it can be done under other names just as well.
-/

namespace SatelliteWindows.Mailbox

variable {ρ τ α β : Type}

/-- The same mailbox, with other names for senders and letters. -/
def relabel (f : ρ → τ) (g : α → β) (m : Mailbox ρ α) : Mailbox τ β where
  free := m.free
  letters := m.letters.map g
  waiting := m.waiting.map f
  granted := m.granted.map f

/-- A letter is put in under its other name. -/
theorem relabel_put (f : ρ → τ) (g : α → β) (letter : α) (m : Mailbox ρ α) :
    (m.put letter).relabel f g = (m.relabel f g).put (g letter) := by
  unfold put relabel
  dsimp only
  rw [List.map_append, List.map_singleton]

/-- A place that is given back goes to the same sender. -/
theorem release_relabel (f : ρ → τ) (g : α → β) (m : Mailbox ρ α) :
    (m.relabel f g).release = m.release.map (Option.map f) (relabel f g) := by
  cases hwaiting : m.waiting with
  | nil => simp [release, relabel, hwaiting]
  | cons first rest => simp [release, relabel, hwaiting]

variable [DecidableEq ρ] [DecidableEq τ]

/-- Whether there is a place does not depend on names, if they tell senders apart. -/
theorem reserve_relabel {f : ρ → τ} (hf : Function.Injective f) (g : α → β) (sender : ρ)
    (m : Mailbox ρ α) :
    (m.relabel f g).reserve (f sender) = (m.reserve sender).map id (relabel f g) := by
  have hgranted : f sender ∈ (m.relabel f g).granted ↔ sender ∈ m.granted :=
    List.mem_map_of_injective hf
  have hwaiting : f sender ∈ (m.relabel f g).waiting ↔ sender ∈ m.waiting :=
    List.mem_map_of_injective hf
  unfold reserve
  by_cases hg : sender ∈ m.granted
  · rw [if_pos hg, if_pos (hgranted.mpr hg)]
    show (true, _) = (true, relabel f g _)
    unfold relabel
    dsimp only
    rw [List.map_erase hf]
  · rw [if_neg hg, if_neg fun h => hg (hgranted.mp h)]
    by_cases hfree : 0 < m.free
    · rw [if_pos hfree, if_pos (show 0 < (m.relabel f g).free from hfree)]
      rfl
    · rw [if_neg hfree, if_neg (show ¬ 0 < (m.relabel f g).free from hfree)]
      by_cases hw : sender ∈ m.waiting
      · rw [if_pos hw, if_pos (hwaiting.mpr hw)]
        rfl
      · rw [if_neg hw, if_neg fun h => hw (hwaiting.mp h)]
        show (false, _) = (false, relabel f g _)
        unfold relabel
        dsimp only
        rw [List.map_append, List.map_singleton]

end SatelliteWindows.Mailbox
