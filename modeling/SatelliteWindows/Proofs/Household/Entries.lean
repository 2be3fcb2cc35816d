import Mathlib.Algebra.BigOperators.Group.List.Basic
import Mathlib.Algebra.GroupWithZero.Nat
import Mathlib.Data.List.Range
import SatelliteWindows.Proofs.Household.Windows
import SatelliteWindows.Proofs.History

/-!
# What is entered in the books of a desktop

A simulated desktop that makes windows keeps books: the windows that it has made, and the requests
that it has heeded. To deal with windows changes nothing in them, and neither do windows that others
put on the desktop. A request that is heeded is entered, and so is the window that is made for it,
if none is loaded again. Whatever is asked of a desktop can be entered, then, and what is entered
can be told from the desktop before and after.
-/

namespace SatelliteWindows

namespace Simulation

variable {a b c d : Simulation} {made : List WindowId} {heeded : List OpenRequest}

/-- How often content was loaded into a window on behalf of a satellite. -/
def loadsFor (name : String) (d : Simulation) (w : WindowId) : Nat :=
  match d.window? w with
  | some x => if x.name = name then x.loads else 0
  | none => 0

/-- Content is loaded into a window on behalf of its own satellite only. -/
theorem loadsFor_of_window? {w : WindowId} {x : SimulatedWindow} (h : d.window? w = some x)
    (name : String) : d.loadsFor name w = if x.name = name then x.loads else 0 := by
  unfold loadsFor
  rw [h]

/-- A window that is the same was loaded as often. -/
theorem loadsFor_congr {w : WindowId} (h : b.window? w = a.window? w) (name : String) :
    b.loadsFor name w = a.loadsFor name w := by
  unfold loadsFor
  rw [h]

/-- The books of a desktop: the windows that it has made, and the requests that it has heeded. -/
structure Household (made : List WindowId) (heeded : List OpenRequest) (d : Simulation) : Prop where
  /-- No window is made twice. -/
  nodup : made.Nodup
  /-- Windows that were made are there, dead or alive. -/
  there : ∀ w ∈ made, w < d.windows.length
  /-- The window last made for a satellite was made, and for that satellite. -/
  latest : ∀ {name w}, d.latest? name = some w →
    w ∈ made ∧ ∃ x, d.window? w = some x ∧ x.name = name
  /-- A window that was made and is alive is the latest of its satellite. -/
  alive : ∀ {w x}, w ∈ made → d.window? w = some x → x.alive = true →
    d.latest? x.name = some w
  /-- Content is loaded once for each request that is heeded. -/
  loads : ∀ name, (made.map (d.loadsFor name)).sum = heeded.countP fun r => r.name == name

/-- The books of an empty desktop are empty. -/
theorem household_nil (screen : Size) : Household [] [] { screen := screen } :=
  ⟨List.nodup_nil, fun w hw => (by cases hw), fun h => (by cases h), fun hw => (by cases hw),
    fun _ => rfl⟩

/-! ## What changes the books -/

/-- Dealing with windows leaves the books as they are. -/
theorem Household.tended (h : Household made heeded a) (hab : Tended a b) :
    Household made heeded b := by
  -- a window that is there now was there before, and is younger by what was done to it
  have hbefore : ∀ {w y}, b.window? w = some y →
      ∃ x, a.window? w = some x ∧ x.Ages y ∧ y.loads = x.loads := by
    intro w y hy
    obtain ⟨hlt, -⟩ := List.getElem?_eq_some_iff.mp hy
    rw [hab.length] at hlt
    have hx : a.window? w = some a.windows[w] := List.getElem?_eq_getElem hlt
    obtain ⟨z, hz, hages⟩ := hab.ages hx
    rw [hy] at hz
    cases hz
    exact ⟨_, hx, hages⟩
  have hloads : ∀ name w, b.loadsFor name w = a.loadsFor name w := by
    intro name w
    cases hx : a.window? w with
    | some x =>
      obtain ⟨y, hy, hages, hsame⟩ := hab.ages hx
      rw [loadsFor_of_window? hx, loadsFor_of_window? hy, hages.name, hsame]
    | none =>
      refine loadsFor_congr (Eq.trans ?_ hx.symm) name
      exact List.getElem?_eq_none (hab.length ▸ List.getElem?_eq_none_iff.mp hx)
  refine ⟨h.nodup, fun w hw => hab.length ▸ h.there w hw, fun hw => ?_, fun hw hy halive => ?_,
    fun name => ?_⟩
  · rw [hab.latest?_eq] at hw
    obtain ⟨hmade, x, hx, hname⟩ := h.latest hw
    obtain ⟨y, hy, hages, -⟩ := hab.ages hx
    exact ⟨hmade, y, hy, hages.name.trans hname⟩
  · obtain ⟨x, hx, hages, -⟩ := hbefore hy
    rw [hab.latest?_eq, hages.name]
    exact h.alive hw hx (hages.alive halive)
  · rw [funext (hloads name)]
    exact h.loads name

/-- Other windows that are put on the desktop are not in the books. -/
theorem Household.add (h : Household made heeded d) (window : SimulatedWindow) :
    Household made heeded (d.add window).2 := by
  have hold : ∀ w ∈ made, (d.add window).2.window? w = d.window? w := fun w hw =>
    List.getElem?_append_left (h.there w hw)
  refine ⟨h.nodup, fun w hw => ?_, fun hw => ?_, fun hw hx halive => ?_, fun name => ?_⟩
  · exact Nat.lt_of_lt_of_le (h.there w hw) (by simp [Simulation.add])
  · obtain ⟨hmade, x, hx, hname⟩ := h.latest hw
    exact ⟨hmade, x, (hold _ hmade).trans hx, hname⟩
  · rw [hold _ hw] at hx
    exact h.alive hw hx halive
  · rw [← h.loads name]
    exact congrArg List.sum (List.map_congr_left fun w hw => loadsFor_congr (hold w hw) name)

/-- A sum in which one term is raised is raised. -/
theorem sum_map_of_raised {f g : WindowId → Nat} {w : WindowId} {k : Nat} (hmade : made.Nodup)
    (hw : w ∈ made) (hraised : g w = f w + k) (hsame : ∀ v, v ≠ w → g v = f v) :
    (made.map g).sum = (made.map f).sum + k := by
  have hrest : (made.erase w).map g = (made.erase w).map f :=
    List.map_congr_left fun v hv => hsame v (hmade.mem_erase_iff.mp hv).1
  have hf := List.sum_map_erase f hw
  have hg := List.sum_map_erase g hw
  rw [hrest, hraised] at hg
  omega

/-- Loading the latest window of a satellite again is entered as a request that was heeded. -/
theorem Household.reload (h : Household made heeded d) {r : OpenRequest} {w : WindowId}
    {x : SimulatedWindow} (hlatest : d.latest? r.name = some w) (hx : d.window? w = some x) :
    Household made (heeded ++ [r]) (d.modify w SimulatedWindow.loadAgain) := by
  have hat := window?_modify w SimulatedWindow.loadAgain d
  have hsame : ∀ (v : WindowId) (y : SimulatedWindow),
      ((if w = v then SimulatedWindow.loadAgain else id) y).name = y.name ∧
        ((if w = v then SimulatedWindow.loadAgain else id) y).alive = y.alive := by
    intro v y
    split <;> exact ⟨rfl, rfl⟩
  obtain ⟨hmade, x', hx', hname⟩ := h.latest hlatest
  cases hx.symm.trans hx'
  refine ⟨h.nodup, fun v hv => ?_, fun hv => ?_, fun {v y} hv hy halive => ?_, fun name => ?_⟩
  · exact (List.length_modify ..).symm ▸ h.there v hv
  · obtain ⟨hvmade, y, hy, hyname⟩ := h.latest hv
    exact ⟨hvmade, _, (hat _).trans (congrArg _ hy), (hsame _ y).1.trans hyname⟩
  · rw [hat] at hy
    obtain ⟨z, hz, rfl⟩ := Option.map_eq_some_iff.mp hy
    rw [(hsame v z).2] at halive
    rw [(hsame v z).1]
    exact h.alive hv hz halive
  · rw [List.countP_append, ← h.loads name]
    refine sum_map_of_raised h.nodup hmade ?_ fun v hv => ?_
    · have hagain := hat w
      rw [hx, if_pos rfl, Option.map_some] at hagain
      rw [loadsFor_of_window? hx, loadsFor_of_window? hagain, List.countP_singleton, ← hname]
      by_cases hself : x.name = name <;> simp [hself, SimulatedWindow.loadAgain]
    · refine loadsFor_congr ?_ name
      rw [hat, if_neg (Ne.symm hv), Option.map_id_fun, id_eq]

/-- A window that is made where the latest one is dead is entered with the request for it. -/
theorem Household.make (h : Household made heeded d) (r : OpenRequest)
    (hdead : ∀ w, d.latest? r.name = some w → d.isAlive w = false) :
    Household (made ++ [d.windows.length]) (heeded ++ [r]) (d.withFresh r) := by
  -- besides, the window is put on the desktop like any other
  have hadded := h.add (freshWindow r)
  have hnew : (d.withFresh r).window? d.windows.length = some (freshWindow r) :=
    List.getElem?_concat_length
  refine ⟨?_, fun w hw => ?_, fun {name w} hw => ?_, fun {w x} hw hx halive => ?_, fun name => ?_⟩
  · refine List.nodup_append.mpr ⟨h.nodup, List.nodup_singleton _, fun w hw v hv => ?_⟩
    rw [List.mem_singleton.mp hv]
    exact Nat.ne_of_lt (h.there w hw)
  · rcases List.mem_append.mp hw with hold | hlast
    · exact hadded.there w hold
    · rw [List.mem_singleton.mp hlast]
      simp [withFresh]
  · rw [latest?_withFresh] at hw
    split at hw
    · next hself =>
      cases hw
      exact ⟨List.mem_append_right _ (List.mem_singleton_self _), _, hnew, hself.symm⟩
    · obtain ⟨hmade, x, hx, hname⟩ := hadded.latest hw
      exact ⟨List.mem_append_left _ hmade, x, hx, hname⟩
  · rw [latest?_withFresh]
    rcases List.mem_append.mp hw with hold | hlast
    · -- the latest window of the satellite is dead, so this is a window of another one
      have hbefore : d.latest? x.name = some w := hadded.alive hold hx halive
      have hother : x.name ≠ r.name := by
        intro hself
        have hgone := hdead w (hself ▸ hbefore)
        have hold : d.window? w = some x :=
          (List.getElem?_append_left (h.there w hold)).symm.trans hx
        rw [isAlive_of_window? hold, halive] at hgone
        cases hgone
      rw [if_neg hother, hbefore]
    · rw [List.mem_singleton.mp hlast] at hx ⊢
      cases hnew.symm.trans hx
      exact if_pos rfl
  · have hmade : made.map ((d.withFresh r).loadsFor name) =
        made.map ((d.add (freshWindow r)).2.loadsFor name) := rfl
    rw [List.map_append, List.sum_append, List.countP_append, List.countP_singleton, hmade,
      hadded.loads name, List.map_singleton, List.sum_singleton, loadsFor_of_window? hnew]
    by_cases hself : r.name = name <;> simp [hself, freshWindow]

/-! ## What operations add to the books -/

/-- The windows that came up from one state of the desktop to another. -/
def newcomers (a b : Simulation) : List WindowId :=
  List.range' a.windows.length (b.windows.length - a.windows.length)

/-- The requests that were made from one state of the desktop to another, unless it was denying. -/
def granted (a b : Simulation) : List OpenRequest :=
  if a.denying then [] else b.requests.drop a.requests.length

/-- What is asked of the desktop makes windows older, and is entered in the books. -/
structure Keeps (a b : Simulation) : Prop where
  /-- No window is taken off the desktop. -/
  length : a.windows.length ≤ b.windows.length
  /-- Every window gets older. -/
  ages : ∀ {w x}, a.window? w = some x → ∃ y, b.window? w = some y ∧ x.Ages y
  /-- The desktop goes on denying, or not to. -/
  denying : b.denying = a.denying
  /-- Requests are put after those that were made before. -/
  requests : a.requests <+: b.requests
  /-- The windows that came up were made, and the requests that were granted were heeded. -/
  household : ∀ {made heeded}, Household made heeded a →
    Household (made ++ newcomers a b) (heeded ++ granted a b) b

/-- If there are as many windows as before, none has come up. -/
theorem newcomers_of_length_eq (h : b.windows.length = a.windows.length) :
    newcomers a b = [] := by
  rw [newcomers, h, Nat.sub_self]
  rfl

/-- If there are the same requests as before, none was heeded. -/
theorem granted_of_requests_eq (h : b.requests = a.requests) : granted a b = [] := by
  rw [granted, h, List.drop_length, ite_self]

/-- Windows that come up one after the other are those that come up in all. -/
theorem newcomers_append (hab : a.windows.length ≤ b.windows.length)
    (hbc : b.windows.length ≤ c.windows.length) :
    newcomers a b ++ newcomers b c = newcomers a c := by
  have hmid : a.windows.length + (b.windows.length - a.windows.length) = b.windows.length :=
    Nat.add_sub_cancel' hab
  have happend := List.range'_append_1 (s := a.windows.length)
    (m := b.windows.length - a.windows.length) (n := c.windows.length - b.windows.length)
  rw [hmid] at happend
  unfold newcomers
  rw [happend]
  congr 1
  omega

/-- Requests that are heeded one after the other are those that are heeded in all. -/
theorem granted_append (hab : a.requests <+: b.requests) (hbc : b.requests <+: c.requests)
    (hdenying : b.denying = a.denying) : granted a b ++ granted b c = granted a c := by
  unfold granted
  rw [hdenying]
  split
  · rfl
  · obtain ⟨x, hx⟩ := hab
    obtain ⟨y, hy⟩ := hbc
    rw [← hy, ← hx, List.drop_left, List.append_assoc, List.drop_left, ← List.append_assoc,
      List.drop_left]

namespace Keeps

/-- To deal with windows enters nothing in the books. -/
theorem of_tended (h : Tended a b) : Keeps a b := by
  refine ⟨Nat.le_of_eq h.length.symm, fun hx => ?_, h.denying, h.requests ▸ List.prefix_rfl,
    fun hbooks => ?_⟩
  · obtain ⟨y, hy, hages, -⟩ := h.ages hx
    exact ⟨y, hy, hages⟩
  · rw [newcomers_of_length_eq h.length, granted_of_requests_eq h.requests, List.append_nil,
      List.append_nil]
    exact hbooks.tended h

/-- What is entered in two stretches is entered in both together. -/
theorem trans (hab : Keeps a b) (hbc : Keeps b c) : Keeps a c := by
  refine ⟨Nat.le_trans hab.length hbc.length, fun hx => ?_, hbc.denying.trans hab.denying,
    hab.requests.trans hbc.requests, fun hbooks => ?_⟩
  · obtain ⟨y, hy, hxy⟩ := hab.ages hx
    obtain ⟨z, hz, hyz⟩ := hbc.ages hy
    exact ⟨z, hz, hxy.trans hyz⟩
  · rw [← newcomers_append hab.length hbc.length,
      ← granted_append hab.requests hbc.requests hab.denying, ← List.append_assoc,
      ← List.append_assoc]
    exact hbc.household (hab.household hbooks)

end Keeps

/-- The books are about windows alone. -/
theorem Household.congr (h : Household made heeded a) (windows : b.windows = a.windows)
    (latest : b.latest = a.latest) : Household made heeded b := by
  obtain ⟨screen, ws, ls, denying, failingOpens, failingRaises, requests, raised, calls⟩ := b
  cases windows
  cases latest
  exact ⟨h.nodup, h.there, h.latest, h.alive, h.loads⟩

/-- A request changes nothing in the books before it is heeded. -/
theorem Household.asked (h : Household made heeded d) (r : OpenRequest) :
    Household made heeded (d.asked r) := h.congr rfl rfl

/-- A request that is denied is not heeded. -/
theorem keeps_asked (r : OpenRequest) (h : d.denying = true) : Keeps d (d.asked r) := by
  refine ⟨Nat.le_refl _, fun {_ x} hx => ⟨x, hx, .refl x⟩, rfl, List.prefix_append _ _,
    fun hbooks => ?_⟩
  have hnone : newcomers d (d.asked r) = [] := newcomers_of_length_eq rfl
  rw [hnone, granted, if_pos h, List.append_nil, List.append_nil]
  exact hbooks.asked r

/-- Any other request is heeded: a window is loaded again, or another one is made. -/
theorem keeps_makeWindow (r : OpenRequest) (h : d.denying = false) :
    Keeps d ((d.asked r).makeWindow r) := by
  have hgranted : ∀ {e : Simulation}, e.requests = d.requests ++ [r] → granted d e = [r] := by
    intro e he
    rw [granted, h, he, if_neg Bool.false_ne_true, List.drop_left]
  rcases makeWindow_eq r (d.asked r) with ⟨w, x, hlatest, hx, halive, heq⟩ | ⟨hdead, heq⟩
  · rw [heq]
    refine ⟨Nat.le_of_eq (List.length_modify ..).symm, fun {v y} hy => ?_, rfl,
      List.prefix_append _ _, fun hbooks => ?_⟩
    · refine ⟨_, (window?_modify w _ (d.asked r) v).trans (congrArg _ hy), ?_⟩
      split
      · next hv =>
        subst hv
        cases hx.symm.trans hy
        exact .of_alive halive rfl
      · exact .refl y
    · have hnone : newcomers d ((d.asked r).modify w SimulatedWindow.loadAgain) = [] :=
        newcomers_of_length_eq (List.length_modify ..)
      rw [hnone, hgranted rfl, List.append_nil]
      exact (hbooks.asked r).reload hlatest hx
  · rw [heq]
    refine ⟨by simp [withFresh, Simulation.asked], fun {v y} hy => ⟨y, ?_, .refl y⟩, rfl,
      List.prefix_append _ _, fun hbooks => ?_⟩
    · exact (window?_add (freshWindow r) d).2 hy
    · have hnewcomer : newcomers d ((d.asked r).withFresh r) = [d.windows.length] := by
        simp [newcomers, withFresh, Simulation.asked]
      rw [hnewcomer, hgranted rfl]
      exact (hbooks.asked r).make r hdead

/-- A window that is asked for is entered, and so is the request. -/
theorem keeps_openWindow (r : OpenRequest) (d : Simulation) : Keeps d (d.openWindow r).2 := by
  unfold openWindow
  split
  · exact .of_tended (.refl d)
  · dsimp only
    split
    · next h => exact keeps_asked r h
    · next h => exact keeps_makeWindow r (by simpa using h)

/-- Whatever the coordination asks of a desktop is entered in the books. -/
theorem keeps_of_reaches (h : Desktop.Reaches a b) : Keeps a b := by
  induction h with
  | refl => exact .of_tended (.refl a)
  | deliver w m _ ih => exact ih.trans (.of_tended (tended_deliver w m _))
  | focus w _ ih => exact ih.trans (.of_tended (tended_focus w _))
  | close w _ ih => exact ih.trans (.of_tended (tended_close w _))
  | openWindow r _ ih => exact ih.trans (keeps_openWindow r _)
  | raise windowName _ ih => exact ih.trans (.of_tended (tended_raise windowName _))
  | elapse _ ih => exact ih

end Simulation

end SatelliteWindows
