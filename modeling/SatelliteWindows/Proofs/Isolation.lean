import SatelliteWindows.Proofs.Isolation.Twin

/-!
# Satellites are isolated from each other

Two runs go side by side for a satellite if the same is asked about it, and about all satellites, in
both, its windows are equally healthy in both all along, and no message to a window of others harms
them. Everything else may differ: what is asked about other satellites, how often and when, what
becomes of their windows, and what the desktop does about windows that are asked for. For the
satellite there is no difference between such runs.
-/

namespace SatelliteWindows

/-- What a request is answered with, or why it is refused. -/
abbrev Reply := Except Fault Answer

/-- An answer without the number of an opening. -/
def Answer.unnumbered : Answer → Answer
  | .opening (.opened _) => .opening (.opened 0)
  | a => a

/-- Replies that are the same, except that they may name different numbers of openings. -/
inductive SameReply (G : List (Nat × Nat)) : Reply → Reply → Prop where
  /-- They name no number. -/
  | same (r : Reply) (plain : ∀ i, r ≠ .ok (.opening (.opened i))) : SameReply G r r
  /-- They name numbers that correspond to each other. -/
  | opened {i j : Nat} (corresponding : (i, j) ∈ G) :
      SameReply G (.ok (.opening (.opened i))) (.ok (.opening (.opened j)))

namespace SameReply

variable {G G' : List (Nat × Nat)} {x y : Reply}

/-- Replies that are the same but for some numbers are so if more numbers may differ. -/
theorem mono (h : SameReply G x y) (hsub : G ⊆ G') : SameReply G' x y := by
  cases h with
  | same _ plain => exact .same _ plain
  | opened corresponding => exact .opened (hsub corresponding)

/-- Whoever is told no more than that something was done is told no number. -/
theorem done {α : Type} (result : Except Fault α) :
    SameReply G (result.map fun _ => .done) (result.map fun _ => .done) := by
  cases result <;> exact .same _ nofun

/-- A reply without a number is the same as itself. -/
theorem flag (b : Bool) : SameReply G (.ok (.flag b)) (.ok (.flag b)) := .same _ nofun

/-- Replies that are the same but for numbers are the same without them. -/
theorem unnumbered (h : SameReply G x y) : y.map Answer.unnumbered = x.map Answer.unnumbered := by
  cases h <;> rfl

/-- Numbers that were answered at the same time correspond to each other. -/
theorem corresponding {i j : Nat}
    (h : SameReply G (.ok (.opening (.opened i))) (.ok (.opening (.opened j)))) : (i, j) ∈ G := by
  generalize hx : (Except.ok (.opening (.opened i)) : Reply) = x at h
  generalize hy : (Except.ok (.opening (.opened j)) : Reply) = y at h
  cases h with
  | same _ plain => exact absurd hx.symm (plain i)
  | opened corresponding =>
    cases hx
    cases hy
    exact corresponding

end SameReply

/-- Openings with the same result are answered with the same reply. -/
theorem Scene.SameOpening.sameReply {G : List (Nat × Nat)} {x y : Except Fault Opening}
    (h : SameOpening G x y) : SameReply G (x.map .opening) (y.map .opening) := by
  cases h with
  | refused f => exact .same _ nofun
  | reactivated => exact .same _ nofun
  | opened corresponding => exact .opened corresponding

/-- Whether a request names no window and no number of an opening. -/
def Request.plain : Request → Bool
  | register .. | registerChild .. | invoke .. | expire .. => false
  | _ => true

/-- The same request about a satellite, or about all of them, in two runs. The windows that it names
correspond to each other, and an opening to be given up is named by what was answered when it was
asked for. -/
inductive SameRequest (name : String) (R : List (WindowId × WindowId))
    (replies : List (Reply × Reply)) (calls : CallTable Call) : Request → Request → Prop where
  /-- It names no window and no number. -/
  | same {r : Request} (concerns : r.concerns name = true) (plain : r.plain = true) :
      SameRequest name R replies calls r r
  /-- A window registers for the satellite. -/
  | register {v w : WindowId} (windows : (v, w) ∈ R) :
      SameRequest name R replies calls (.register name v) (.register name w)
  /-- A child window of that name came up. -/
  | registerChild (v w : WindowId) :
      SameRequest name R replies calls (.registerChild name v) (.registerChild name w)
  /-- The satellite calls by the name of an operation. -/
  | invoke (operation : String) {v w : Option WindowId}
      (windows : Option.Rel
        (fun v w => calls.get? operation = some .register → (v, w) ∈ R) v w) :
      SameRequest name R replies calls (.invoke operation ⟨name, v⟩) (.invoke operation ⟨name, w⟩)
  /-- An opening is to be given up. -/
  | expire {i j : Nat}
      (answered : (.ok (.opening (.opened i)), .ok (.opening (.opened j))) ∈ replies) :
      SameRequest name R replies calls (.expire name i) (.expire name j)

/-- Two runs side by side, with the windows of a satellite that correspond to each other and the
replies to what was asked about it. -/
inductive Beside (name : String) (s t : Scene Simulation) : List (Move Simulation) →
    List (Move Simulation) → List (WindowId × WindowId) → List (Reply × Reply) → Prop where
  /-- Nothing has happened yet. -/
  | nil : Beside name s t [] [] [] []
  /-- The same is asked in both. Afterwards the windows of the satellite are as healthy in the one
  as in the other, and no message to another window has harmed them. -/
  | both {moves moves' : List (Move Simulation)} {R : List (WindowId × WindowId)}
      {replies : List (Reply × Reply)} {q r : Request}
      (before : Beside name s t moves moves' R replies)
      (same : SameRequest name R replies (s.run moves).fleet.calls q r)
      (spares : Scene.Spares (R.map Prod.fst) (s.run moves) ((s.run moves).perform q).2)
      (spares' : Scene.Spares (R.map Prod.snd) (t.run moves') ((t.run moves').perform r).2)
      (alike : ((s.run moves).perform q).2.world.Alike R ((t.run moves').perform r).2.world) :
      Beside name s t (moves ++ [.request q]) (moves' ++ [.request r]) R
        (replies ++ [(((s.run moves).perform q).1, ((t.run moves').perform r).1)])
  /-- Something about other satellites is asked in the one. No window of the satellite is registered
  for another one or harmed by a message to another window. -/
  | left {moves moves' : List (Move Simulation)} {R : List (WindowId × WindowId)}
      {replies : List (Reply × Reply)} {q : Request}
      (before : Beside name s t moves moves' R replies)
      (others : q.concerns name = false)
      (windows : ∀ other w, (s.run moves).meaning q = .registered other w → w ∉ R.map Prod.fst)
      (spares : Scene.Spares (R.map Prod.fst) (s.run moves) ((s.run moves).perform q).2) :
      Beside name s t (moves ++ [.request q]) moves' R replies
  /-- Something about other satellites is asked in the other in the same way. -/
  | right {moves moves' : List (Move Simulation)} {R : List (WindowId × WindowId)}
      {replies : List (Reply × Reply)} {r : Request}
      (before : Beside name s t moves moves' R replies)
      (others : r.concerns name = false)
      (windows : ∀ other w, (t.run moves').meaning r = .registered other w → w ∉ R.map Prod.snd)
      (spares : Scene.Spares (R.map Prod.snd) (t.run moves') ((t.run moves').perform r).2) :
      Beside name s t moves (moves' ++ [.request r]) R replies
  /-- The desktops change, so that the windows of the satellite are as healthy on the one as on the
  other afterwards. -/
  | shift {moves moves' : List (Move Simulation)} {R : List (WindowId × WindowId)}
      {replies : List (Reply × Reply)} (changes changes' : List (Simulation → Simulation))
      (before : Beside name s t moves moves' R replies)
      (alike : (s.run (moves ++ changes.map .shift)).world.Alike R
        (t.run (moves' ++ changes'.map .shift)).world) :
      Beside name s t (moves ++ changes.map .shift) (moves' ++ changes'.map .shift) R replies
  /-- The satellite is to have another window, which nobody has used so far. -/
  | adopt {moves moves' : List (Move Simulation)} {R : List (WindowId × WindowId)}
      {replies : List (Reply × Reply)} {v w : WindowId}
      (before : Beside name s t moves moves' R replies)
      (fresh : v ∉ R.map Prod.fst ∧ w ∉ R.map Prod.snd)
      (unregistered : (∀ e ∈ (s.run moves).fleet.roster.entries, e.window ≠ v) ∧
        ∀ e ∈ (t.run moves').fleet.roster.entries, e.window ≠ w)
      (untold : (∀ a ∈ (s.run moves).journal.attempts, a.window ≠ v) ∧
        ∀ a ∈ (t.run moves').journal.attempts, a.window ≠ w)
      (alike : (s.run moves).world.Alike ((v, w) :: R) (t.run moves').world) :
      Beside name s t moves moves' ((v, w) :: R) replies

namespace Scene

variable {name : String} {R : List (WindowId × WindowId)} {G : List (Nat × Nat)}
  {replies : List (Reply × Reply)} {s t : Scene Simulation}

/-- A satellite calls by the name of an operation in both. -/
theorem Twin.invoke (h : Twin name R G s t) (operation : String) {v w : Option WindowId}
    (hvw : Option.Rel (fun v w => s.fleet.calls.get? operation = some .register → (v, w) ∈ R)
      v w)
    (halike : (s.invoke operation ⟨name, v⟩).2.world.Alike R
      (t.invoke operation ⟨name, w⟩).2.world) :
    Twin name R G (s.invoke operation ⟨name, v⟩).2 (t.invoke operation ⟨name, w⟩).2 ∧
      (t.invoke operation ⟨name, w⟩).1 = (s.invoke operation ⟨name, v⟩).1 := by
  unfold Scene.invoke at halike ⊢
  rw [h.fleet.fields.2.2.2.1] at halike ⊢
  cases hcall : s.fleet.calls.get? operation with
  | none => exact ⟨h, rfl⟩
  | some c =>
    rw [hcall] at hvw halike
    cases c with
    | register =>
      cases hvw with
      | none => exact ⟨h, rfl⟩
      | some hvw => exact ⟨h.register (hvw rfl), rfl⟩
    | flush => exact ⟨h.flush halike, rfl⟩
    | registerChild =>
      cases hvw with
      | none => exact ⟨h, rfl⟩
      | some _ => exact ⟨h.apart (apart_report _ s) (apart_report _ t), rfl⟩
    | unregisterChild => exact ⟨h.apart (apart_report _ s) (apart_report _ t), rfl⟩

/-- What is done about the same request, and how it is answered. -/
def PerformAlike (name : String) (R : List (WindowId × WindowId)) (G : List (Nat × Nat))
    (x y : Reply × Scene Simulation) : Prop :=
  ∃ G', G ⊆ G' ∧ Twin name R G' x.2 y.2 ∧ SameReply G' x.1 y.1

/-- A request that is answered alike without giving out a number of an opening. -/
theorem Twin.performAlike (h : Twin name R G s t) {x y : Reply} (hxy : SameReply G x y) :
    PerformAlike name R G (x, s) (y, t) := ⟨G, List.Subset.refl G, h, hxy⟩

/-- A request without windows and numbers does the same in both, and is answered alike. -/
theorem Twin.perform_same (h : Twin name R G s t) {r : Request}
    (concerns : r.concerns name = true) (plain : r.plain = true)
    (spares : Spares (R.map Prod.fst) s (s.perform r).2)
    (spares' : Spares (R.map Prod.snd) t (t.perform r).2)
    (alike : (s.perform r).2.world.Alike R (t.perform r).2.world) :
    PerformAlike name R G (s.perform r) (t.perform r) := by
  cases r with
  | openSatellite other params preferred =>
    obtain rfl : other = name := by simpa [Request.concerns] using concerns
    obtain ⟨G', hsub, htwin, hsame⟩ := h.openPlaced params (.fit preferred) (.fit preferred)
    exact ⟨G', hsub, htwin, hsame.sameReply⟩
  | forceReopen other params =>
    -- the new numbers may differ, but the caller is not told them
    obtain rfl : other = name := by simpa [Request.concerns] using concerns
    obtain ⟨G', hsub, htwin, hsame⟩ := h.forceReopen params
    refine ⟨G', hsub, htwin, ?_⟩
    dsimp only [Scene.perform, Prod.map_fst]
    rw [hsame]
    exact .done _
  | activate other =>
    exact (h.apart (apart_activate other s) (apart_activate other t)).performAlike (.done (.ok ()))
  | close other =>
    obtain rfl : other = name := by simpa [Request.concerns] using concerns
    exact h.closeSatellite.performAlike (.done (.ok ()))
  | closeAll => exact h.closeAll.performAlike (.done (.ok ()))
  | mainWindowClosed => exact h.closeAll.performAlike (.done (.ok ()))
  | flush other =>
    obtain rfl : other = name := by simpa [Request.concerns] using concerns
    exact (h.flush alike).performAlike (.done (.ok ()))
  | unregisterChild windowName =>
    exact (h.apart (apart_report _ s) (apart_report _ t)).performAlike (.done (.ok ()))
  | installCalls =>
    have hinstall := h.fleet.install fun calls =>
      Call.all.foldl (fun t c => (t.install c.operation c).2) calls
    exact (h.adjust hinstall rfl rfl).performAlike (.done (.ok ()))
  | dispatchEvent e =>
    exact Twin.performAlike ⟨h.dispatchEvent spares spares', alike⟩ (.done (.ok ()))
  | dispatchCommand c => exact Twin.performAlike ⟨h.dispatchCommand c, alike⟩ (.done (.ok ()))
  | updateSession snapshot =>
    exact (h.adjust (h.fleet.updateSession snapshot) rfl rfl).performAlike (.done (.ok ()))
  | isOpen other =>
    obtain rfl : other = name := by simpa [Request.concerns] using concerns
    have hopen : (t.find? other).isSome = (s.find? other).isSome := by
      rcases h.find?_cases with ⟨hs, ht⟩ | ⟨v, w, -, hs, ht⟩ <;> simp [hs, ht]
    refine h.performAlike ?_
    show SameReply G (.ok (.flag (s.find? other).isSome)) (.ok (.flag (t.find? other).isSome))
    rw [hopen]
    exact .flag _
  | metrics => cases concerns
  | register | registerChild | invoke | expire => cases plain

/-- The same request does the same in both, and is answered alike. -/
theorem Twin.perform (h : Twin name R G s t) (hreplies : ∀ x ∈ replies, SameReply G x.1 x.2)
    {q r : Request} (hqr : SameRequest name R replies s.fleet.calls q r)
    (spares : Spares (R.map Prod.fst) s (s.perform q).2)
    (spares' : Spares (R.map Prod.snd) t (t.perform r).2)
    (alike : (s.perform q).2.world.Alike R (t.perform r).2.world) :
    PerformAlike name R G (s.perform q) (t.perform r) := by
  cases hqr with
  | same concerns plain => exact h.perform_same concerns plain spares spares' alike
  | register windows => exact (h.register windows).performAlike (.done (.ok ()))
  | registerChild v w =>
    exact (h.apart (apart_report _ s) (apart_report _ t)).performAlike (.done (.ok ()))
  | invoke operation windows =>
    obtain ⟨htwin, hsame⟩ := h.invoke operation windows alike
    refine ⟨G, List.Subset.refl G, htwin, ?_⟩
    dsimp only [Scene.perform, Prod.map_fst]
    rw [hsame]
    exact .done _
  | expire answered =>
    obtain ⟨htwin, hsame⟩ := h.expire (hreplies _ answered).corresponding
    refine ⟨G, List.Subset.refl G, htwin, ?_⟩
    dsimp only [Scene.perform, Prod.map_fst]
    rw [hsame]
    exact .flag _

/-- The desktops change, so that the windows of a satellite are alike afterwards. -/
theorem Twin.shift (h : Twin name R G s t) {changes changes' : List (Simulation → Simulation)}
    (alike : (s.run (changes.map .shift)).world.Alike R (t.run (changes'.map .shift)).world) :
    Twin name R G (s.run (changes.map .shift)) (t.run (changes'.map .shift)) := by
  have hsame : ∀ (cs : List (Simulation → Simulation)) (u : Scene Simulation),
      (u.run (cs.map .shift)).fleet = u.fleet ∧ (u.run (cs.map .shift)).journal = u.journal := by
    intro cs
    induction cs with
    | nil => exact fun u => ⟨rfl, rfl⟩
    | cons c rest ih => exact fun u => ih (u.move (.shift c))
  obtain ⟨hfleet, hjournal⟩ := hsame changes s
  obtain ⟨hfleet', hjournal'⟩ := hsame changes' t
  refine ⟨⟨h.left.of_eq (by rw [hfleet]), h.right.of_eq (by rw [hfleet']), h.windows, ?_, ?_⟩,
    alike⟩
  · rw [hfleet, hfleet']
    exact h.fleet
  · rw [hjournal, hjournal']
    exact h.attempts

/-- Messages that were handed to other windows are none of those handed to certain windows. -/
theorem attemptsTo_cons_of_untold {j : Journal} {v : WindowId} {ws : List WindowId}
    (h : ∀ a ∈ j.attempts, a.window ≠ v) : j.attemptsTo (v :: ws) = j.attemptsTo ws := by
  unfold Journal.attemptsTo
  refine List.filter_congr fun a ha => ?_
  simp [h a ha]

/-- A satellite gets another window that nobody has used so far. -/
theorem Twin.adopt (h : Twin name R G s t) {v w : WindowId}
    (fresh : v ∉ R.map Prod.fst ∧ w ∉ R.map Prod.snd)
    (unregistered : (∀ e ∈ s.fleet.roster.entries, e.window ≠ v) ∧
      ∀ e ∈ t.fleet.roster.entries, e.window ≠ w)
    (untold : (∀ a ∈ s.journal.attempts, a.window ≠ v) ∧ ∀ a ∈ t.journal.attempts, a.window ≠ w)
    (alike : s.world.Alike ((v, w) :: R) t.world) : Twin name ((v, w) :: R) G s t := by
  refine ⟨⟨⟨h.left.unique, fun e he hne => ?_⟩, ⟨h.right.unique, fun e he hne => ?_⟩,
    h.windows.cons (fun x hx heq => ?_) (fun x hx heq => ?_), ?_, ?_⟩, alike⟩
  · exact List.not_mem_cons_of_ne_of_not_mem (unregistered.1 e he) (h.left.others e he hne)
  · exact List.not_mem_cons_of_ne_of_not_mem (unregistered.2 e he) (h.right.others e he hne)
  · exact fresh.1 (heq ▸ List.mem_map_of_mem hx)
  · exact fresh.2 (heq ▸ List.mem_map_of_mem hx)
  · exact h.fleet.mono (List.subset_cons_self _ _)
  · rw [List.map_cons, List.map_cons, attemptsTo_cons_of_untold untold.1,
      attemptsTo_cons_of_untold untold.2]
    exact h.attempts.imp fun a b hab =>
      ⟨hab.name, hab.message, List.mem_cons_of_mem _ hab.window, hab.taken⟩

/-- At first two scenes look alike to every satellite. -/
theorem twin_start (name : String) (role : Role) (platform : Platform) (session : Payload)
    (a b : Simulation) :
    Twin name [] [] (start role platform session a) (start role platform session b) :=
  ⟨⟨⟨Roster.unique_empty, nofun⟩, ⟨Roster.unique_empty, nofun⟩, nofun,
    ⟨rfl, .none, .none, nofun, nofun⟩, .nil⟩, nofun⟩

/-- Runs that go side by side from twins lead to twins, and what is asked is answered alike. -/
theorem twin_of_beside {moves moves' : List (Move Simulation)} (hstart : Twin name [] [] s t)
    (h : Beside name s t moves moves' R replies) :
    ∃ G, Twin name R G (s.run moves) (t.run moves') ∧ ∀ x ∈ replies, SameReply G x.1 x.2 := by
  induction h with
  | nil => exact ⟨[], hstart, nofun⟩
  | both before same spares spares' alike ih =>
    obtain ⟨G, htwin, hreplies⟩ := ih
    obtain ⟨G', hsub, htwin', hreply⟩ := htwin.perform hreplies same spares spares' alike
    rw [run_append, run_append]
    refine ⟨G', htwin', fun x hx => ?_⟩
    rcases List.mem_append.mp hx with hx | hx
    · exact (hreplies x hx).mono hsub
    · rw [List.mem_singleton.mp hx]
      exact hreply
  | left before others windows spares ih =>
    obtain ⟨G, htwin, hreplies⟩ := ih
    rw [run_append]
    exact ⟨G, htwin.apart (apart_perform htwin.left others windows spares) (.refl _), hreplies⟩
  | right before others windows spares ih =>
    obtain ⟨G, htwin, hreplies⟩ := ih
    rw [run_append]
    exact ⟨G, htwin.apart (.refl _) (apart_perform htwin.right others windows spares), hreplies⟩
  | shift changes changes' before alike ih =>
    obtain ⟨G, htwin, hreplies⟩ := ih
    rw [run_append, run_append] at alike ⊢
    exact ⟨G, htwin.shift alike, hreplies⟩
  | adopt before fresh unregistered untold alike ih =>
    obtain ⟨G, htwin, hreplies⟩ := ih
    exact ⟨G, htwin.adopt fresh unregistered untold alike, hreplies⟩

/-- For a satellite there is no difference between two runs that go side by side for it: the same
messages were handed to its windows in the same order, and were taken or not; the same is held back
for it, or there is no queue of it in either; the same parameters are kept for it; and what was
asked about it was answered the same, but for the numbers of openings. -/
theorem satellite_isolated {role : Role} {platform : Platform} {session : Payload}
    {a b : Simulation} {moves moves' : List (Move Simulation)}
    (h : Beside name (start role platform session a) (start role platform session b) moves moves' R
      replies) :
    let s := (start role platform session a).run moves
    let t := (start role platform session b).run moves'
    List.Forall₂ (Attempt.Alike R) (s.journal.attemptsTo (R.map Prod.fst))
        (t.journal.attemptsTo (R.map Prod.snd)) ∧
      t.fleet.backlog.queue? name = s.fleet.backlog.queue? name ∧
      t.fleet.startup.get? name = s.fleet.startup.get? name ∧
      replies.map (fun x => x.2.map Answer.unnumbered) =
        replies.map (fun x => x.1.map Answer.unnumbered) := by
  obtain ⟨G, htwin, hreplies⟩ := twin_of_beside (twin_start name role platform session a b) h
  obtain ⟨-, -, -, -, hqueue, hparams⟩ := htwin.fleet.fields
  exact ⟨htwin.attempts, hqueue, hparams,
    List.map_congr_left fun x hx => (hreplies x hx).unnumbered⟩

/-- The main window of a browser that opens live windows anew, on a desktop with a window of a chart
and a window of a map that refuses messages. -/
def crowded : Scene Simulation :=
  start .main (.browser .chromium) .null
    { screen := ⟨1280, 800⟩
      windows := [{ name := "chart", geometry := ⟨⟨400, 300⟩, Point.origin⟩ },
        { name := "map", geometry := ⟨⟨400, 300⟩, Point.origin⟩, failing := true }] }

/-- The same without a map; the window of the chart has another number. -/
def lonely : Scene Simulation :=
  start .main (.browser .chromium) .null
    { screen := ⟨800, 600⟩
      windows := [{ name := "", geometry := ⟨⟨100, 100⟩, Point.origin⟩, alive := false },
        { name := "chart", geometry := ⟨⟨400, 300⟩, Point.origin⟩ }] }

/-- What happens on the crowded desktop: the map is opened, registers, refuses an event and dies
before the chart is opened again. -/
def crowdedMoves : List (Move Simulation) :=
  [.request (.register "chart" 0), .request (.openSatellite "map" none ⟨400, 300⟩),
    .request (.register "map" 1), .request (.dispatchEvent ⟨"tick", .null⟩),
    .shift (Simulation.killAll [1]), .request (.openSatellite "chart" none ⟨400, 300⟩),
    .request (.dispatchEvent ⟨"tick", .null⟩), .request (.expire "chart" 2)]

/-- What happens on the other: the same is asked about the chart. -/
def lonelyMoves : List (Move Simulation) :=
  [.request (.register "chart" 1), .request (.dispatchEvent ⟨"tick", .null⟩),
    .request (.openSatellite "chart" none ⟨400, 300⟩),
    .request (.dispatchEvent ⟨"tick", .null⟩), .request (.expire "chart" 1)]

/-- The two runs go side by side for the chart. -/
theorem beside_crowded : ∃ replies,
    Beside "chart" crowded lonely crowdedMoves lonelyMoves [(0, 1)] replies ∧
      replies.length = 5 := by
  have adopted : Beside "chart" crowded lonely [] [] [(0, 1)] [] :=
    Beside.nil.adopt (by decide) (by decide +kernel) (by decide +kernel) (by decide +kernel)
  have registered := adopted.both (.register (List.mem_singleton_self _)) (by decide +kernel)
    (by decide +kernel) (by decide +kernel)
  have opens : (crowded.move (.request (.register "chart" 0))).meaning
      (.openSatellite "map" none ⟨400, 300⟩) = .opened "map" 1 := by decide +kernel
  have mapOpened := registered.left (q := .openSatellite "map" none ⟨400, 300⟩) rfl
    (fun _ _ h => by cases opens.symm.trans h) (by decide +kernel)
  have mapRegistered := mapOpened.left (q := .register "map" 1) rfl
    (by intro other w h; cases h; decide) (by decide +kernel)
  have ticked := mapRegistered.both (r := .dispatchEvent ⟨"tick", .null⟩) (.same rfl rfl)
    (by decide +kernel) (by decide +kernel) (by decide +kernel)
  have mapDied := ticked.shift [Simulation.killAll [1]] [] (by decide +kernel)
  have reopened := mapDied.both (r := .openSatellite "chart" none ⟨400, 300⟩) (.same rfl rfl)
    (by decide +kernel) (by decide +kernel) (by decide +kernel)
  have held := reopened.both (r := .dispatchEvent ⟨"tick", .null⟩) (.same rfl rfl)
    (by decide +kernel) (by decide +kernel) (by decide +kernel)
  have expired := held.both (.expire (i := 2) (j := 1) (by decide +kernel)) (by decide +kernel)
    (by decide +kernel) (by decide +kernel)
  exact ⟨_, expired, rfl⟩

/-- The chart is isolated from the map, although its openings get other numbers where there is a
map. -/
theorem chart_isolated_from_map : ∃ replies,
    Beside "chart" crowded lonely crowdedMoves lonelyMoves [(0, 1)] replies ∧
      replies.length = 5 ∧
      List.Forall₂ (Attempt.Alike [(0, 1)])
        ((crowded.run crowdedMoves).journal.attemptsTo [0])
        ((lonely.run lonelyMoves).journal.attemptsTo [1]) ∧
      (lonely.run lonelyMoves).fleet.backlog.queue? "chart" =
        (crowded.run crowdedMoves).fleet.backlog.queue? "chart" ∧
      (lonely.run lonelyMoves).fleet.startup.get? "chart" =
        (crowded.run crowdedMoves).fleet.startup.get? "chart" ∧
      replies.map (fun x => x.2.map Answer.unnumbered) =
        replies.map (fun x => x.1.map Answer.unnumbered) := by
  obtain ⟨replies, hbeside, hlength⟩ := beside_crowded
  obtain ⟨hattempts, hqueue, hparams, hreplies⟩ := satellite_isolated hbeside
  exact ⟨replies, hbeside, hlength, hattempts, hqueue, hparams, hreplies⟩

end Scene

end SatelliteWindows
