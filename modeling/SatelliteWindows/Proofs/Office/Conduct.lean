import SatelliteWindows.Proofs.Office.Turns
import SatelliteWindows.Proofs.Coordinator.Steps

/-!
# The conduct of a coordinator in its office

What a coordinator does in its office can be played again from what was written down: the requests
that it carried out, its shutting down, and the changes of the desktop are the moves of its scene,
in this order. Each request was answered with what comes of it at its place among the moves, and
everything that was reported was published.
-/

namespace SatelliteWindows

/-- What was done in two stretches was done in the first and then in the second. -/
theorem Journal.drop_drop {j k l : Journal} (hjk : j <+: k) (hkl : k <+: l) :
    l.drop j.length = k.drop j.length ++ l.drop k.length := by
  obtain ⟨first, rfl⟩ := hjk
  obtain ⟨second, rfl⟩ := hkl
  rw [List.append_assoc, List.drop_left, List.drop_left, ← List.append_assoc, List.drop_left]

namespace Office

variable {ρ σ : Type}

/-- The move of the scene that goes with something that happens. -/
def Incident.move? : Incident ρ σ → Option (Move σ)
  | served _ r _ => some (.request r)
  | stopped _ => some (.request .mainWindowClosed)
  | shifted change => some (.shift change)
  | _ => none

/-- The moves of the scene, in order. -/
def moves (incidents : List (Incident ρ σ)) : List (Move σ) := incidents.filterMap Incident.move?

/-- Moves follow each other as what has happened does. -/
@[simp] theorem moves_append (incidents news : List (Incident ρ σ)) :
    moves (incidents ++ news) = moves incidents ++ moves news := List.filterMap_append

/-- Nothing is done by telling somebody something. -/
theorem moves_answer (l : Letter ρ) (reply : Except Fault Answer) :
    moves (l.answer (σ := σ) reply) = [] := by
  unfold Letter.answer
  cases l.awaited? <;> rfl

/-- Nor by telling somebody that a letter was posted. -/
theorem moves_receipt (l : Letter ρ) : moves (l.receipt (σ := σ)) = [] := by
  obtain ⟨s, order⟩ := l
  cases s <;> cases order <;> rfl

/-- Nor by telling many. -/
theorem moves_answers (letters : List (Letter ρ)) (reply : Except Fault Answer) :
    moves (letters.flatMap (Letter.answer (σ := σ) reply)) = [] := by
  induction letters with
  | nil => rfl
  | cons l rest ih => rw [List.flatMap_cons, moves_append, moves_answer, ih, List.append_nil]

/-- Whether something that happens is that a request is carried out. -/
def Incident.isServed : Incident ρ σ → Bool
  | served .. => true
  | _ => false

/-- No request is carried out if the one thing that happens is something else. -/
theorem not_served_of_singleton {x : Incident ρ σ} (hx : x.isServed = false)
    {before after : List (Incident ρ σ)} {s : Correspondent ρ} {r : Request}
    {answer : Except Fault Answer} : [x] ≠ before ++ .served s r answer :: after := by
  intro hsplit
  have hmem : .served s r answer ∈ [x] := hsplit ▸ List.mem_append_right _ List.mem_cons_self
  rw [← List.mem_singleton.mp hmem] at hx
  cases hx

/-- A request among what has happened and the news is among what has happened, or among the news. -/
theorem split_append {incidents news before after : List (Incident ρ σ)} {x : Incident ρ σ}
    (h : incidents ++ news = before ++ x :: after) :
    (∃ later, incidents = before ++ x :: later) ∨
      ∃ earlier, before = incidents ++ earlier ∧ news = earlier ++ x :: after := by
  rcases List.append_eq_append_iff.mp h with ⟨earlier, hbefore, hnews⟩ | ⟨later, hall, hlater⟩
  · exact .inr ⟨earlier, hbefore, hnews⟩
  · cases later with
    | nil => exact .inr ⟨[], by rw [hall, List.append_nil, List.append_nil], hlater.symm⟩
    | cons y later =>
      obtain ⟨rfl, -⟩ := List.cons.inj hlater
      exact .inl ⟨later, hall⟩

/-- What a coordinator has done in its office since it moved in. -/
structure Conduct [Desktop σ] (c : Coordinator σ) (o : Office ρ σ) : Prop where
  /-- The scene is what its moves have made of it. -/
  scene : o.coordinator.scene = c.scene.run (moves o.incidents)
  /-- Every request was answered with what came of it. -/
  answers : ∀ before s r answer after, o.incidents = before ++ .served s r answer :: after →
    ((c.scene.run (moves before)).perform r).1 = answer
  /-- Everything that was reported was published. -/
  published : o.coordinator.feed = c.feed.sendAll
    (Journal.activities (o.coordinator.scene.journal.drop c.scene.journal.length))
  /-- Alarms have taken over all timers. -/
  timers : o.coordinator.timers = []

variable [DecidableEq ρ] [Desktop σ] {c : Coordinator σ} {o o' : Office ρ σ}

omit [DecidableEq ρ] in
/-- When it moves in it has done nothing yet. -/
theorem conduct_assemble (capacity : Nat) (orders : ρ → List Order) (isPatient : ρ → Bool)
    (c : Coordinator σ) : Conduct c (assemble capacity orders isPatient c) where
  scene := rfl
  answers before s r answer after h := by cases before <;> cases h
  published := by
    show c.feed = c.feed.sendAll (Journal.activities (c.scene.journal.drop c.scene.journal.length))
    rw [List.drop_length]
    rfl
  timers := rfl

omit [DecidableEq ρ] in
/-- Nothing was taken out of the journal. -/
theorem Conduct.journal (h : Conduct c o) :
    c.scene.journal <+: o.coordinator.scene.journal := by
  rw [h.scene]
  exact Scene.journal_run _ _

omit [DecidableEq ρ] in
/-- News that come with a move of the scene. -/
theorem Conduct.extend (h : Conduct c o) {news : List (Incident ρ σ)}
    (incidents : o'.incidents = o.incidents ++ news)
    (scene : o'.coordinator.scene = o.coordinator.scene.run (moves news))
    (answers : ∀ before s r answer after, news = before ++ .served s r answer :: after →
      ((o.coordinator.scene.run (moves before)).perform r).1 = answer)
    (published : o'.coordinator.feed = o.coordinator.feed.sendAll (Journal.activities
      (o'.coordinator.scene.journal.drop o.coordinator.scene.journal.length)))
    (timers : o'.coordinator.timers = []) : Conduct c o' := by
  refine ⟨?_, fun before s r answer after hsplit => ?_, ?_, timers⟩
  · rw [incidents, moves_append, Scene.run_append, ← h.scene, scene]
  · rw [incidents] at hsplit
    rcases split_append hsplit with ⟨later, hbefore⟩ | ⟨earlier, rfl, hnews⟩
    · exact h.answers before s r answer later hbefore
    · rw [moves_append, Scene.run_append, ← h.scene]
      exact answers earlier s r answer after hnews
  · have hgrows : o.coordinator.scene.journal <+: o'.coordinator.scene.journal := by
      rw [scene]
      exact Scene.journal_run _ _
    rw [published, h.published, Journal.drop_drop h.journal hgrows, Journal.activities_append]
    exact (List.foldl_append).symm

omit [DecidableEq ρ] in
/-- News that come with no move of the scene. -/
theorem Conduct.keep (h : Conduct c o) {news : List (Incident ρ σ)}
    (incidents : o'.incidents = o.incidents ++ news) (idle : ∀ x ∈ news, x.isServed = false)
    (moves : moves news = []) (scene : o'.coordinator.scene = o.coordinator.scene)
    (feed : o'.coordinator.feed = o.coordinator.feed) (timers : o'.coordinator.timers = []) :
    Conduct c o' := by
  refine h.extend incidents ?_ (fun before s r answer after hsplit => ?_) ?_ timers
  · rw [moves, scene]
    rfl
  · have hserved := idle (.served s r answer) (by rw [hsplit]; simp)
    cases hserved
  · rw [feed, scene, List.drop_length]
    rfl

omit [DecidableEq ρ] in
/-- What is published of a request that is carried out. -/
theorem feed_serve (running : c.running = true) (r : Request) :
    (c.serve r).2.feed = c.feed.sendAll (Journal.activities
      ((c.scene.move (.request r)).journal.drop c.scene.journal.length)) := by
  unfold Coordinator.serve
  rw [if_pos running]
  dsimp only
  rw [Coordinator.arm_eq]
  rfl

omit [DecidableEq ρ] in
/-- What is published when a coordinator shuts down. -/
theorem feed_shutdown (running : c.running = true) :
    c.shutdown.2.feed = c.feed.sendAll (Journal.activities
      (c.scene.mainWindowClosed.journal.drop c.scene.journal.length)) := by
  unfold Coordinator.shutdown
  rw [if_pos running]
  rfl

omit [DecidableEq ρ] in
/-- A coordinator that has no timers does nothing while it waits. -/
theorem wait_of_no_timers (timers : c.timers = []) (ms : Nat) :
    (c.wait ms).scene = c.scene ∧ (c.wait ms).feed = c.feed ∧ (c.wait ms).timers = [] := by
  unfold Coordinator.wait Coordinator.waitUntil
  rw [timers]
  exact ⟨rfl, rfl, rfl⟩

omit [DecidableEq ρ] in
/-- A request is carried out: the scene moves on, and the answer is what comes of it now. -/
theorem Conduct.serves (h : Conduct c o) {s : Correspondent ρ} {r : Request}
    {rest : List (Letter ρ)} (running : o.coordinator.running = true) : Conduct c ({ o with
      mailbox := ({ o.mailbox with letters := rest }).release.2
      coordinator := { (o.coordinator.serve r).2 with timers := [] }
      alarms := o.alarms ++ (o.coordinator.serve r).2.timers }.record
        (.served s r (o.coordinator.serve r).1 ::
          Letter.answer (o.coordinator.serve r).1 ⟨s, .request r⟩)) := by
  have hscene := (Coordinator.serve_of_running running r).1
  refine h.extend rfl ?_ (fun before s' r' answer after hsplit => ?_) ?_ rfl
  · show (o.coordinator.serve r).2.scene =
      o.coordinator.scene.run (.request r :: moves (Letter.answer _ ⟨s, .request r⟩))
    rw [moves_answer, hscene]
    rfl
  · cases before with
    | nil =>
      cases hsplit
      unfold Coordinator.serve
      rw [if_pos running]
      rfl
    | cons first before =>
      -- whatever goes along with the answer is no other request
      obtain ⟨rfl, hanswer⟩ := List.cons.inj hsplit
      have hmem : .served s' r' answer ∈
          Letter.answer (σ := σ) (o.coordinator.serve r).1 ⟨s, .request r⟩ := by
        rw [hanswer]
        exact List.mem_append_right _ List.mem_cons_self
      obtain ⟨p, r'', htold⟩ := mem_answer hmem
      cases htold
  · show (o.coordinator.serve r).2.feed = o.coordinator.feed.sendAll (Journal.activities
      ((o.coordinator.serve r).2.scene.journal.drop o.coordinator.scene.journal.length))
    rw [feed_serve running, hscene]

omit [DecidableEq ρ] in
/-- The coordinator shuts down: all satellites are closed. -/
theorem Conduct.stops (h : Conduct c o) {s : Correspondent ρ} {rest : List (Letter ρ)}
    (running : o.coordinator.running = true) : Conduct c ({ o with
      mailbox := ({ o.mailbox with letters := rest }).release.2
      coordinator := o.coordinator.shutdown.2 }.record [.stopped s]) := by
  obtain ⟨hscene, -, -, -, htimers⟩ := Coordinator.shutdown_of_running running
  refine h.extend rfl hscene
    (fun before s' r' answer after hsplit => absurd hsplit (not_served_of_singleton rfl)) ?_
    (htimers.trans h.timers)
  show o.coordinator.shutdown.2.feed = o.coordinator.feed.sendAll (Journal.activities
    (o.coordinator.shutdown.2.scene.journal.drop o.coordinator.scene.journal.length))
  rw [feed_shutdown running, hscene]
  rfl

/-- What the coordinator does in a turn can be played again as well. -/
theorem Conduct.becomes (hturn : Becomes o o') (h : Conduct c o) : Conduct c o' := by
  have hnothing : o.incidents = o.incidents ++ [] := (List.append_nil _).symm
  cases hturn with
  | same => exact h
  | waits l m isOpen ready full =>
    exact h.keep hnothing (fun x hx => by cases hx) rfl rfl rfl h.timers
  | posts l m isOpen ready place =>
    refine h.keep (struck_incidents l _) (fun x hx => ?_) (moves_receipt l)
      (congrArg Coordinator.scene (struck_coordinator l _))
      (congrArg Coordinator.feed (struck_coordinator l _))
      ((congrArg Coordinator.timers (struck_coordinator l _)).trans h.timers)
    rcases List.mem_cons.mp hx with rfl | hx
    · rfl
    · obtain ⟨p, rfl⟩ := mem_receipt hx
      rfl
  | turnsAway p order rest isClosed next =>
    refine h.keep rfl (fun x hx => ?_) rfl rfl rfl h.timers
    rcases List.mem_cons.mp hx with rfl | hx
    · rfl
    · rw [List.mem_singleton.mp hx]
      rfl
  | silences t isClosed => exact h.keep hnothing (fun x hx => by cases hx) rfl rfl rfl h.timers
  | serves s r rest running letters => exact h.serves running
  | stops s rest running letters => exact h.stops running
  | closes stopped isOpen =>
    refine h.keep rfl (fun x hx => ?_) (moves_answers _ _) rfl rfl h.timers
    rcases List.mem_cons.mp hx with rfl | hx
    · rfl
    · obtain ⟨l, -, hl⟩ := List.mem_flatMap.mp hx
      obtain ⟨p, r, rfl⟩ := mem_answer hl
      rfl
  | passes ms =>
    obtain ⟨hscene, hfeed, htimers⟩ := wait_of_no_timers h.timers ms
    exact h.keep hnothing (fun x hx => by cases hx) rfl hscene hfeed htimers
  | shifts change =>
    refine h.extend rfl rfl
      (fun before s' r' answer after hsplit => absurd hsplit (not_served_of_singleton rfl)) ?_
      h.timers
    show o.coordinator.feed = o.coordinator.feed.sendAll
      (Journal.activities (o.coordinator.scene.journal.drop o.coordinator.scene.journal.length))
    rw [List.drop_length]
    rfl

/-- Whoever has turns, what the coordinator does can be played again. -/
theorem Conduct.run (h : Conduct c o) (acts : List (Act ρ σ)) : Conduct c (o.run acts) :=
  run_induct (fun hturn h => h.becomes hturn) acts h

/-- Whoever has turns in whatever order, what the coordinator does since it moved in can be played
again. -/
theorem conduct_run (capacity : Nat) (orders : ρ → List Order) (isPatient : ρ → Bool)
    (c : Coordinator σ) (acts : List (Act ρ σ)) :
    Conduct c ((assemble capacity orders isPatient c).run acts) :=
  (conduct_assemble capacity orders isPatient c).run acts

end Office

end SatelliteWindows
