import SatelliteWindows.Simulation

/-!
# Windows get older

A simulated window that is dealt with directly gets older: it may take messages, be brought to the
front and die, but it does not come back to life, and once it is dead nothing more happens to it.
Content is loaded into windows by the desktop alone, when a window is asked for. Then either the
window that was last made for the satellite is loaded again, or another one is made under a number
that no window had before.
-/

namespace SatelliteWindows

/-- What can become of a window: it keeps its satellite and does not come back to life. Once it is
dead, no content is loaded into it, it is not brought to the front, and nothing gets into its inbox,
which can only be emptied. -/
structure SimulatedWindow.Ages (x y : SimulatedWindow) : Prop where
  /-- The satellite it was made for. -/
  name : y.name = x.name
  /-- It does not come back to life. -/
  alive : y.alive = true → x.alive = true
  /-- Nothing happens to it any more. -/
  dead : x.alive = false →
    y.loads = x.loads ∧ y.focused = x.focused ∧ (y.inbox = x.inbox ∨ y.inbox = [])

namespace SimulatedWindow.Ages

variable {x y z : SimulatedWindow}

/-- A window that is left alone gets no older. -/
theorem refl (x : SimulatedWindow) : Ages x x := ⟨rfl, id, fun _ => ⟨rfl, rfl, .inl rfl⟩⟩

/-- A window that is dead stays dead. -/
theorem stays_dead (h : Ages x y) (hx : x.alive = false) : y.alive = false := by
  cases hy : y.alive with
  | false => rfl
  | true => exact absurd (h.alive hy) (by rw [hx]; exact Bool.false_ne_true)

/-- A window that gets older twice gets older. -/
theorem trans (hxy : Ages x y) (hyz : Ages y z) : Ages x z := by
  refine ⟨hyz.name.trans hxy.name, fun hz => hxy.alive (hyz.alive hz), fun hx => ?_⟩
  obtain ⟨hloads, hfocused, hinbox⟩ := hxy.dead hx
  obtain ⟨hloads', hfocused', hinbox'⟩ := hyz.dead (hxy.stays_dead hx)
  refine ⟨hloads'.trans hloads, hfocused'.trans hfocused, ?_⟩
  rcases hinbox' with hkept | hempty
  · exact hinbox.imp hkept.trans hkept.trans
  · exact .inr hempty

/-- A window that is alive can become anything that keeps its satellite. -/
theorem of_alive (hx : x.alive = true) (hname : y.name = x.name) : Ages x y :=
  ⟨hname, fun _ => hx, fun h => absurd hx (by rw [h]; exact Bool.false_ne_true)⟩

/-- To die is to get older. -/
theorem kill (x : SimulatedWindow) : Ages x x.kill :=
  ⟨rfl, fun h => (by cases h), fun _ => ⟨rfl, rfl, .inl rfl⟩⟩

end SimulatedWindow.Ages

/-- A window into which content was loaded once more. -/
def SimulatedWindow.loadAgain (x : SimulatedWindow) : SimulatedWindow :=
  { x with loads := x.loads + 1 }

namespace Simulation

variable {a b c d : Simulation}

/-- Windows are dealt with, and the desktop itself is the same: no window comes up, none is loaded,
and every window gets older. -/
structure Tended (a b : Simulation) : Prop where
  /-- No window comes up. -/
  length : b.windows.length = a.windows.length
  /-- Every window gets older, without being loaded again. -/
  ages : ∀ {w x}, a.window? w = some x → ∃ y, b.window? w = some y ∧ x.Ages y ∧ y.loads = x.loads
  /-- The windows last made for satellites are the same. -/
  latest : b.latest = a.latest
  /-- Requests for windows are swallowed as before. -/
  denying : b.denying = a.denying
  /-- Requests for windows fail as before. -/
  failingOpens : b.failingOpens = a.failingOpens
  /-- No window is asked for. -/
  requests : b.requests = a.requests

namespace Tended

/-- What is done to other parts of the desktop does not matter to windows. -/
theorem of_windows_eq (windows : b.windows = a.windows) (latest : b.latest = a.latest)
    (denying : b.denying = a.denying) (failingOpens : b.failingOpens = a.failingOpens)
    (requests : b.requests = a.requests) : Tended a b := by
  refine ⟨by rw [windows], fun {w x} hx => ?_, latest, denying, failingOpens, requests⟩
  refine ⟨x, ?_, .refl x, rfl⟩
  unfold window? at hx ⊢
  rw [windows, hx]

/-- A desktop that is left alone is as it was. -/
theorem refl (d : Simulation) : Tended d d := .of_windows_eq rfl rfl rfl rfl rfl

/-- Windows that are dealt with twice are dealt with. -/
theorem trans (hab : Tended a b) (hbc : Tended b c) : Tended a c := by
  refine ⟨hbc.length.trans hab.length, fun {w x} hx => ?_, hbc.latest.trans hab.latest,
    hbc.denying.trans hab.denying, hbc.failingOpens.trans hab.failingOpens,
    hbc.requests.trans hab.requests⟩
  obtain ⟨y, hy, hxy, hloads⟩ := hab.ages hx
  obtain ⟨z, hz, hyz, hloads'⟩ := hbc.ages hy
  exact ⟨z, hz, hxy.trans hyz, hloads'.trans hloads⟩

/-- The window last made for a satellite is the same. -/
theorem latest?_eq (h : Tended a b) (name : String) : b.latest? name = a.latest? name := by
  unfold latest?
  rw [h.latest]

/-- A window that is dead stays so. -/
theorem isAlive_eq_false (h : Tended a b) {w : WindowId} (hw : a.isAlive w = false) :
    b.isAlive w = false := by
  cases hx : a.window? w with
  | some x =>
    obtain ⟨y, hy, hxy, -⟩ := h.ages hx
    rw [isAlive_of_window? hx] at hw
    rw [isAlive_of_window? hy]
    exact hxy.stays_dead hw
  | none =>
    have hlength := List.getElem?_eq_none_iff.mp hx
    rw [← h.length] at hlength
    have hnone : b.window? w = none := List.getElem?_eq_none hlength
    unfold isAlive
    rw [hnone]

end Tended

/-- What is done to one window is dealing with windows if the window gets older by it. -/
theorem Tended.modify (h : Tended a b) {w : WindowId} {f : SimulatedWindow → SimulatedWindow}
    (hf : ∀ x y, a.window? w = some x → x.Ages y → x.Ages (f y) ∧ (f y).loads = y.loads) :
    Tended a (b.modify w f) := by
  refine ⟨(List.length_modify ..).trans h.length, fun {v x} hx => ?_, h.latest, h.denying,
    h.failingOpens, h.requests⟩
  obtain ⟨y, hy, hxy, hloads⟩ := h.ages hx
  have hat := window?_modify w f b v
  rw [hy] at hat
  refine ⟨_, hat, ?_⟩
  split
  · next hv =>
    obtain ⟨hages, hsame⟩ := hf x y (hv ▸ hx) hxy
    exact ⟨hages, hsame.trans hloads⟩
  · exact ⟨hxy, hloads⟩

/-- A window that is changed in what does not matter here gets older. -/
theorem tended_of_indifferent {f : SimulatedWindow → SimulatedWindow}
    (hf : ∀ x, (f x).name = x.name ∧ (f x).alive = x.alive ∧ (f x).loads = x.loads ∧
      (f x).focused = x.focused ∧ ((f x).inbox = x.inbox ∨ (f x).inbox = []))
    (w : WindowId) (d : Simulation) : Tended d (d.modify w f) := by
  refine (Tended.refl d).modify fun x y _ hxy => ?_
  obtain ⟨hname, halive, hloads, hfocused, hinbox⟩ := hf y
  exact ⟨hxy.trans ⟨hname, fun h => halive ▸ h, fun _ => ⟨hloads, hfocused, hinbox⟩⟩, hloads⟩

/-- A window is dealt with when it is killed. -/
theorem tended_kill (w : WindowId) (d : Simulation) :
    Tended d (d.modify w SimulatedWindow.kill) :=
  (Tended.refl d).modify fun _ y _ hxy => ⟨hxy.trans (.kill y), rfl⟩

/-- So are several. -/
theorem tended_killAll (ws : List WindowId) (d : Simulation) : Tended d (d.killAll ws) := by
  unfold killAll
  induction ws generalizing d with
  | nil => exact .refl d
  | cons w rest ih => exact (tended_kill w d).trans (ih (d.modify w SimulatedWindow.kill))

/-- A window is dealt with when it is handed a message, whatever it does about it. -/
theorem tended_handed (x : SimulatedWindow) (m : Message) (d : Simulation) :
    Tended d ((d.suffer x m).react x m) := by
  cases m with
  | event e => exact (tended_killAll x.kills d).trans (.of_windows_eq rfl rfl rfl rfl rfl)
  | _ => exact .refl d

/-- Whatever is asked of a window deals with it if it does so while the window is there. -/
theorem tended_ask {w : WindowId}
    {request : SimulatedWindow → Option Fault × (Simulation → Simulation)}
    (h : ∀ x, d.window? w = some x → Tended d ((request x).2 d)) :
    Tended d (d.ask w request).2 := by
  unfold ask
  split
  · exact .refl d
  · next x hx => exact h x hx

/-- A window that takes a message is alive when it is handed the message. -/
theorem tended_deliver (w : WindowId) (m : Message) (d : Simulation) :
    Tended d (d.deliver w m).2 := by
  refine tended_ask fun x hx => ?_
  have hhanded := tended_handed x m d
  cases hrefusal : x.refusal? m with
  | some f => exact hhanded
  | none =>
    refine hhanded.modify fun y z hy hyz => ⟨.of_alive ?_ hyz.name, rfl⟩
    rw [← Option.some.inj (hx.symm.trans hy)]
    cases halive : x.alive with
    | true => rfl
    | false => simp [SimulatedWindow.refusal?, halive] at hrefusal

/-- A window is dealt with when it is brought to the front. -/
theorem tended_focus (w : WindowId) (d : Simulation) : Tended d (d.focus w).2 := by
  refine tended_ask fun x hx => ?_
  split
  · exact .refl d
  · next hcan =>
    refine (Tended.refl d).modify fun y z hy hyz => ⟨.of_alive ?_ hyz.name, rfl⟩
    rw [← Option.some.inj (hx.symm.trans hy)]
    cases halive : x.alive with
    | true => rfl
    | false => simp [halive] at hcan

/-- It is dealt with when it is closed, whether it closes or not. -/
theorem tended_close (w : WindowId) (d : Simulation) : Tended d (d.close w).2 := by
  refine tended_ask fun x _ => ?_
  split
  · exact .refl d
  · exact tended_kill w d

/-- It is dealt with when the shell brings it to the front. -/
theorem tended_raise (windowName : String) (d : Simulation) : Tended d (d.raise windowName).2 := by
  unfold raise
  split
  · exact .refl d
  · exact .of_windows_eq rfl rfl rfl rfl rfl

/-! ## Windows that come up -/

/-- The window that comes up for a request. -/
def freshWindow (r : OpenRequest) : SimulatedWindow where
  name := r.name
  geometry := ⟨r.size, r.position.getD Point.origin⟩

/-- A desktop that was asked for a window and has not heeded the request yet. -/
def asked (r : OpenRequest) (d : Simulation) : Simulation :=
  { d with requests := d.requests ++ [r] }

/-- A desktop on which another window has come up for a request. -/
def withFresh (r : OpenRequest) (d : Simulation) : Simulation :=
  { d with
    windows := d.windows ++ [freshWindow r]
    latest := d.latest.put r.name d.windows.length }

/-- The window that has come up is the last one made for its satellite. -/
theorem latest?_withFresh (r : OpenRequest) (d : Simulation) (name : String) :
    (d.withFresh r).latest? name =
      if name = r.name then some d.windows.length else d.latest? name :=
  NameMap.get?_put d.latest r.name name d.windows.length

/-- What comes of a request for a window that is heeded: the live window that was last made for the
satellite is loaded again, or another one is made. -/
theorem makeWindow_eq (r : OpenRequest) (d : Simulation) :
    (∃ w x, d.latest? r.name = some w ∧ d.window? w = some x ∧ x.alive = true ∧
      d.makeWindow r = d.modify w SimulatedWindow.loadAgain) ∨
    ((∀ w, d.latest? r.name = some w → d.isAlive w = false) ∧
      d.makeWindow r = d.withFresh r) := by
  unfold makeWindow
  split
  · next w hw =>
    obtain ⟨hlatest, halive⟩ := Option.filter_eq_some_iff.mp hw
    cases hx : d.window? w with
    | none => simp [isAlive, hx] at halive
    | some x =>
      rw [isAlive_of_window? hx] at halive
      exact .inl ⟨w, x, hlatest, hx, halive, rfl⟩
  · next hnone =>
    refine .inr ⟨fun w hw => ?_, rfl⟩
    simpa using Option.filter_eq_none_iff.mp hnone w hw

/-- A desktop that neither denies requests for windows nor fails them heeds them. -/
theorem openWindow_eq (r : OpenRequest) (hdenying : d.denying = false)
    (hfailing : d.failingOpens = false) : (d.openWindow r).2 = (d.asked r).makeWindow r := by
  unfold openWindow
  rw [if_neg (by rw [hfailing]; exact Bool.false_ne_true)]
  dsimp only
  rw [if_neg (by rw [hdenying]; exact Bool.false_ne_true)]
  rfl

/-- Where no live window was made for a satellite, the request for one makes a window that is alive
and as large and where it was asked for, under a new number. -/
theorem window?_openWindow (r : OpenRequest) (hdenying : d.denying = false)
    (hfailing : d.failingOpens = false)
    (hdead : ∀ w, d.latest? r.name = some w → d.isAlive w = false) :
    (d.openWindow r).2.latest? r.name = some d.windows.length ∧
      (d.openWindow r).2.window? d.windows.length = some (freshWindow r) := by
  rw [openWindow_eq r hdenying hfailing]
  rcases makeWindow_eq r (d.asked r) with
    ⟨w, x, hlatest, hx, halive, -⟩ | ⟨-, heq⟩
  · have hgone : x.alive = false := (isAlive_of_window? hx).symm.trans (hdead w hlatest)
    rw [halive] at hgone
    cases hgone
  · rw [heq]
    exact ⟨(latest?_withFresh r _ r.name).trans (if_pos rfl), List.getElem?_concat_length⟩

end Simulation

end SatelliteWindows
