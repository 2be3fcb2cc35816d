import SatelliteWindows.Proofs.Household.Windows

/-!
# The health of simulated windows

What a simulated window answers depends on its health alone: whether it is there, whether it refuses
messages, and what of it does not work. Coordination changes the health of a window in two ways: by
closing it, and by handing an event to a window that takes it along. So windows of two desktops that
are equally healthy stay so, whatever their numbers, if the same is asked of them on both.
-/

namespace SatelliteWindows

/-- What the answers of a window depend on. -/
structure Health where
  /-- Whether it is there. -/
  alive : Bool
  /-- Whether it refuses messages. -/
  failing : Bool
  /-- What of it does not work. -/
  defects : Defects
  deriving DecidableEq

namespace Health

/-- The health of a window that has died. -/
def killed (h : Health) : Health := { h with alive := false }

/-- The health of a window that was to be closed. -/
def closed (h : Health) : Health := if h.defects.close then h else h.killed

/-- Whether a window takes messages. -/
def takes (h : Health) : Bool := h.alive && !h.failing

/-- Whether a window can be closed. -/
def closable (h : Health) : Bool := h.alive && !h.defects.close

/-- Whether a window says where it is. -/
def placed (h : Health) : Bool := h.alive && !h.defects.geometry

/-- To close a window that cannot be closed makes no difference. -/
theorem closed_of_not_closable {h : Health} (hc : h.closable = false) : h.closed = h := by
  unfold closed
  split
  · rfl
  · next hclose =>
    have halive : h.alive = false := by
      simpa [closable, show h.defects.close = false by simpa using hclose] using hc
    rw [killed, ← halive]

/-- A window that can be closed dies of it. -/
theorem closed_of_closable {h : Health} (hc : h.closable = true) : h.closed = h.killed := by
  have hclose : ¬ h.defects.close = true := by
    simpa using (Bool.and_eq_true_iff.mp hc).2
  rw [closed, if_neg hclose]

end Health

/-- The health of a window, and the windows that it takes with it when it is handed an event. -/
def SimulatedWindow.nature (w : SimulatedWindow) : Health × List WindowId :=
  (⟨w.alive, w.failing, w.defects⟩, w.kills)

namespace Simulation

/-- The nature of the window of a number. -/
def nature? (d : Simulation) (v : WindowId) : Option (Health × List WindowId) :=
  (d.window? v).map SimulatedWindow.nature

/-- The health of the window of a number. -/
def health? (d : Simulation) (v : WindowId) : Option Health := (d.nature? v).map Prod.fst

/-- The windows that the window of a number takes with it when it is handed an event. -/
def victims (d : Simulation) (v : WindowId) : List WindowId :=
  ((d.nature? v).map Prod.snd).getD []

/-! ## Answers -/

/-- Whether a window is alive can be told from its health. -/
theorem isAlive_eq (d : Simulation) (v : WindowId) :
    d.isAlive v = (d.health? v).any Health.alive := by
  unfold isAlive health? nature?
  cases d.window? v <;> rfl

/-- A message is taken by a window that is there and does not refuse messages. -/
theorem isNone_deliver (d : Simulation) (v : WindowId) (m : Message) :
    (d.deliver v m).1.isNone = (d.health? v).any Health.takes := by
  unfold deliver ask health? nature? SimulatedWindow.refusal?
  cases d.window? v with
  | none => rfl
  | some w =>
    cases halive : w.alive <;> cases hfailing : w.failing <;>
      simp [Health.takes, SimulatedWindow.nature, halive, hfailing]

/-- Whether a window says where it is can be told from its health. -/
theorem isOk_geometry (d : Simulation) (v : WindowId) :
    (d.geometry v).isOk = (d.health? v).any Health.placed := by
  unfold geometry health? nature? SimulatedWindow.geometry? SimulatedWindow.place
  cases d.window? v with
  | none => rfl
  | some w =>
    cases halive : w.alive <;> cases hgeometry : w.defects.geometry <;>
      simp [Health.placed, SimulatedWindow.nature, halive, hgeometry, Except.isOk, Except.toBool]

/-! ## Changes -/

/-- What a change of the health of a window, if it is of this nature, makes of the desktop. -/
theorem of_nature? {d e : Simulation} {v : WindowId} {f : Health → Health}
    (h : e.nature? v = (d.nature? v).map (Prod.map f id)) :
    e.health? v = (d.health? v).map f ∧ e.victims v = d.victims v := by
  unfold health? victims
  rw [h]
  cases d.nature? v <;> exact ⟨rfl, rfl⟩

/-- A change that is felt by the nature of a window changes that of no other. -/
theorem nature?_modify {f : SimulatedWindow → SimulatedWindow} {g : Health → Health}
    (hf : ∀ x, (f x).nature = Prod.map g id x.nature) (w : WindowId) (d : Simulation)
    (v : WindowId) :
    (d.modify w f).nature? v = (d.nature? v).map (Prod.map (if w = v then g else id) id) := by
  unfold nature?
  rw [window?_modify]
  cases d.window? v with
  | none => rfl
  | some x =>
    by_cases hv : w = v
    · simp [hv, hf]
    · simp [hv]

/-- A change that leaves the nature of one window alone leaves all natures alone. -/
theorem nature?_modify_of_eq {f : SimulatedWindow → SimulatedWindow}
    (hf : ∀ x, (f x).nature = x.nature) (w : WindowId) (d : Simulation) (v : WindowId) :
    (d.modify w f).nature? v = d.nature? v := by
  rw [nature?_modify (g := id) hf]
  simp

/-- To kill windows changes the health of these windows only. -/
theorem nature?_killAll (ws : List WindowId) (d : Simulation) (v : WindowId) :
    (d.killAll ws).nature? v =
      (d.nature? v).map (Prod.map (if v ∈ ws then Health.killed else id) id) := by
  induction ws generalizing d with
  | nil => simp [killAll]
  | cons w rest ih =>
    have hkill := nature?_modify (f := SimulatedWindow.kill) (g := Health.killed)
      (fun _ => rfl) w d v
    refine (ih (d.modify w SimulatedWindow.kill)).trans ?_
    rw [hkill, Option.map_map]
    congr 1
    funext x
    by_cases hw : v = w
    · subst hw
      by_cases hv : v ∈ rest
      · simp [hv]
        rfl
      · simp [hv]
    · have hwv : ¬ w = v := fun h => hw h.symm
      by_cases hv : v ∈ rest <;> simp [hv, hw, hwv]

/-- What comes of asking something of a window is decided by the window, if there is one. -/
theorem ask_of_some {d : Simulation} {w : WindowId} {x : SimulatedWindow}
    (h : d.window? w = some x)
    (request : SimulatedWindow → Option Fault × (Simulation → Simulation)) :
    d.ask w request = ((request x).1, (request x).2 d) := by
  unfold ask
  rw [h]

/-- Nothing becomes of what is asked of a window that is not there. -/
theorem ask_of_none {d : Simulation} {w : WindowId} (h : d.window? w = none)
    (request : SimulatedWindow → Option Fault × (Simulation → Simulation)) :
    (d.ask w request).2 = d := by
  unfold ask
  rw [h]

/-- A message that is handed to a window kills whom the window takes with it, if it is an event. -/
theorem nature?_deliver (w : WindowId) (m : Message) (d : Simulation) (v : WindowId) :
    (d.deliver w m).2.nature? v = (d.nature? v).map
      (Prod.map (if m.event?.isSome ∧ v ∈ d.victims w then Health.killed else id) id) := by
  unfold deliver
  cases hw : d.window? w with
  | none => simp [ask_of_none hw, victims, nature?, hw]
  | some x =>
    have hvictims : d.victims w = x.kills := by simp [victims, nature?, hw, SimulatedWindow.nature]
    have hsuffer : ((d.suffer x m).react x m).nature? v = (d.nature? v).map
        (Prod.map (if m.event?.isSome ∧ v ∈ x.kills then Health.killed else id) id) := by
      cases m with
      | event e =>
        simp only [Message.event?, Option.isSome_some, true_and]
        exact nature?_killAll x.kills d v
      | _ => simp [Message.event?, suffer, react]
    rw [ask_of_some hw, hvictims]
    cases x.refusal? m with
    | some f => exact hsuffer
    | none =>
      have htake : ∀ y : SimulatedWindow, (y.take m).nature = y.nature := fun _ => rfl
      exact (nature?_modify_of_eq htake w _ v).trans hsuffer

/-- An event harms nobody that has survived another one. -/
theorem health?_deliver_deliver (w : WindowId) (e f : Event) (d : Simulation) (v : WindowId) :
    ((d.deliver w (.event e)).2.deliver w (.event f)).2.health? v =
      (d.deliver w (.event e)).2.health? v := by
  obtain ⟨hfirst, -⟩ := of_nature? (nature?_deliver w (.event e) d v)
  have hvictims := (of_nature? (nature?_deliver w (.event e) d w)).2
  rw [(of_nature? (nature?_deliver w (.event f) _ v)).1, hvictims, hfirst, Option.map_map]
  by_cases hv : v ∈ d.victims w
  · simp only [Message.event?, Option.isSome_some, hv, and_self, if_true]
    rfl
  · simp [hv]

/-- To close a window concerns no other window. -/
theorem nature?_close (w : WindowId) (d : Simulation) (v : WindowId) :
    (d.close w).2.nature? v =
      (d.nature? v).map (Prod.map (if w = v then Health.closed else id) id) := by
  unfold close
  cases hw : d.window? w with
  | none =>
    rw [ask_of_none hw]
    by_cases hv : w = v
    · subst hv
      simp [nature?, hw]
    · simp [hv]
  | some x =>
    have hx : d.nature? w = some x.nature := by simp [nature?, hw]
    have hstays : (!x.alive || x.defects.close) = !x.nature.1.closable := by
      simp [Health.closable, SimulatedWindow.nature]
    rw [ask_of_some hw, hstays]
    cases hc : x.nature.1.closable with
    | false =>
      by_cases hv : w = v
      · subst hv
        simp [hx, Prod.map, Health.closed_of_not_closable hc]
      · simp [hv]
    | true =>
      refine (nature?_modify (f := SimulatedWindow.kill) (g := Health.killed)
        (fun _ => rfl) w d v).trans ?_
      by_cases hv : w = v
      · subst hv
        simp [hx, Prod.map, Health.closed_of_closable hc]
      · simp [hv]

/-- To bring a window to the front leaves all windows in their health. -/
theorem nature?_focus (w : WindowId) (d : Simulation) (v : WindowId) :
    (d.focus w).2.nature? v = d.nature? v := by
  unfold focus
  cases hw : d.window? w with
  | none => rw [ask_of_none hw]
  | some x =>
    rw [ask_of_some hw]
    split
    · rfl
    · exact nature?_modify_of_eq (f := fun x => { x with focused := x.focused + 1 })
        (fun _ => rfl) w d v

/-- So does bringing it to the front by the shell. -/
theorem nature?_raise (windowName : String) (d : Simulation) (v : WindowId) :
    (d.raise windowName).2.nature? v = d.nature? v := by
  unfold raise
  split <;> rfl

/-- Making a window for a satellite does nothing to those that are there. -/
theorem nature?_makeWindow (r : OpenRequest) (d : Simulation) (v : WindowId) :
    (d.makeWindow r).nature? v = d.nature? v ∨ d.nature? v = none := by
  rcases makeWindow_eq r d with ⟨w, -, -, -, -, heq⟩ | ⟨-, heq⟩
  · rw [heq]
    exact .inl (nature?_modify_of_eq (f := SimulatedWindow.loadAgain) (fun _ => rfl) w d v)
  · rw [heq]
    unfold nature?
    cases hx : d.window? v with
    | none => exact .inr rfl
    | some x =>
      have hstill : (d.withFresh r).window? v = some x := (window?_add (freshWindow r) d).2 hx
      exact .inl (by rw [hstill])

/-- To ask for a window leaves those that are there in their health. -/
theorem nature?_openWindow (r : OpenRequest) (d : Simulation) (v : WindowId) :
    (d.openWindow r).2.nature? v = d.nature? v ∨ d.nature? v = none := by
  unfold openWindow
  split
  · exact .inl rfl
  · dsimp only
    split
    · exact .inl rfl
    · exact nature?_makeWindow r { d with requests := d.requests ++ [r] } v

end Simulation

end SatelliteWindows
