import SatelliteWindows.Proofs.Scenario.InStep

/-!
# What the script does in its turn

However long the script's turn is, it is made of few things: the script changes what is its own, it
changes the desktop, it sends letters, it rests, and it dismisses the watcher. What holds on through
each of these holds on through the turn.
-/

namespace SatelliteWindows.Run

variable {motive : Run → Prop} {r : Run}

/-- What holds on whatever the script does about its steps. -/
structure Persists (motive : Run → Prop) : Prop where
  /-- The script changes what is its own. -/
  script : ∀ {r : Run} (s : Script), motive r → motive { r with script := s }
  /-- The desktop changes. -/
  alterDesktop : ∀ {r : Run} (f : Simulation → Simulation), motive r → motive (r.alterDesktop f)
  /-- The script sends a letter, or waits for a place. -/
  send : ∀ {r : Run} {letter : Letter}, letter.isOwn = true → motive r →
    motive (r.send .script letter).2
  /-- The script rests. -/
  rest : ∀ {r : Run}, motive r → motive (r.rest .script)

namespace Persists

/-- What persists persists when a request is made. -/
theorem request (h : Persists motive) (hr : motive r) (req : Request) (n : Nat) :
    motive (r.request req n) := by
  have hsend : motive (r.send .script (.request .script req)).2 := h.send rfl hr
  cases n with
  | zero => exact h.rest (h.script _ hr)
  | succ n =>
    simp only [Run.request]
    split
    · next heq =>
      rw [heq] at hsend
      exact h.script _ hsend
    · next heq =>
      rw [heq] at hsend
      split
      · exact h.rest (h.script _ hsend)
      · exact h.script _ hsend

/-- It persists while the steps are taken. -/
theorem proceed (h : Persists motive) (hr : motive r) (n : Nat) (l : List Step) :
    motive (r.proceed n l) := by
  induction l generalizing n r with
  | nil => exact h.request (h.script _ hr) .metrics n
  | cons s rest ih =>
    have hbegun : motive { r with script := { r.script with steps := s :: rest } } := h.script _ hr
    unfold Run.proceed
    dsimp only
    split
    · exact h.request (h.script _ hbegun) .metrics n
    · exact h.request hbegun _ n
    · exact ih (h.script _ (h.alterDesktop _ hbegun)) n
    · split
      · exact h.rest (h.script _ hbegun)
      · split
        · exact ih (h.script _ hbegun) _
        · exact h.script _ hbegun

/-- It persists when a step is finished. -/
theorem finishStep (h : Persists motive) (hr : motive r) (answer : Answer) :
    motive (r.finishStep answer) := by
  unfold Run.finishStep
  split
  · exact hr
  · exact h.proceed (h.script _ hr) _ _

/-- It persists when the last letter is sent. -/
theorem leave (h : Persists motive) (hr : motive r) : motive r.leave := by
  have hsend : motive (r.send .script .farewell).2 := h.send rfl hr
  unfold Run.leave
  split
  all_goals
    next heq =>
    rw [heq] at hsend
    exact h.script _ hsend

/-- It persists when the script waits for the watcher. -/
theorem part (h : Persists motive) (hr : motive r) : motive r.part := by
  unfold Run.part
  split
  · exact h.leave hr
  · exact h.script _ hr

/-- The script's turn, given what the watcher's dismissal does. -/
theorem goOn (h : Persists motive)
    (hdismiss : ∀ {r : Run}, motive r →
      motive ({ r with watcher := { r.watcher with dismissed := true } }.wake .watcher))
    (hr : motive r) : motive r.goOn := by
  have hparts : ∀ {v : Run}, motive v → motive v.dismiss.part := fun hv => by
    refine h.part ?_
    unfold Run.dismiss
    split
    · exact hv
    · exact hdismiss hv
  unfold Run.goOn
  split
  · exact h.proceed hr _ _
  · exact h.request hr _ _
  · exact hr
  · unfold Run.resume
    split
    · exact hparts (h.script _ hr)
    · exact hparts hr
    · exact h.finishStep hr _
    · exact h.request (h.script _ hr) .metrics _
  · split
    · exact h.finishStep hr _
    · exact hr
  · exact h.part hr
  · exact h.leave hr
  · exact hr

end Persists

end SatelliteWindows.Run
