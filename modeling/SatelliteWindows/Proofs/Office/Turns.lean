import SatelliteWindows.Office

/-!
# What a turn can do

Clients, alarms and the coordinator take turns in any order, time passes, and the desktop changes.
All of these together can do ten things to an office. Whatever is kept by each of the ten is kept
for good.
-/

namespace SatelliteWindows

namespace Office

variable {ρ σ : Type}

/-- Whoever is told the answer to a letter is told of a request. -/
theorem mem_answer {l : Letter ρ} {reply : Except Fault Answer} {x : Incident ρ σ}
    (h : x ∈ l.answer reply) : ∃ p r, x = .told p (.request r) reply := by
  unfold Letter.answer at h
  split at h
  · exact ⟨_, _, List.mem_singleton.mp h⟩
  · cases h

/-- Whoever is told that a letter was posted has ordered the coordinator to shut down. -/
theorem mem_receipt {l : Letter ρ} {x : Incident ρ σ} (h : x ∈ l.receipt) :
    ∃ p, x = .told p .shutdown (.ok .done) := by
  obtain ⟨s, order⟩ := l
  cases s with
  | alarm t => cases order <;> cases h
  | client p =>
    cases order with
    | request r => cases h
    | shutdown => exact ⟨p, List.mem_singleton.mp h⟩

variable [DecidableEq ρ]

/-- What is left of what the sender of a letter has to write, once the letter is posted. -/
def struck (l : Letter ρ) (o : Office ρ σ) : Office ρ σ :=
  match l.sender with
  | .client p => o.leave p (o.orders p).tail
  | .alarm t => o.silence t

/-- Somebody is about to write a letter: a client who may place an order and has it next, or an
alarm whose time has come. -/
def Ready (l : Letter ρ) (o : Office ρ σ) : Prop :=
  match l.sender with
  | .client p => o.mayWrite p = true ∧ (o.orders p).head? = some l.order
  | .alarm t => l = .ofAlarm t ∧ t ∈ o.alarms ∧ t.deadline ≤ o.coordinator.clock

section Struck

variable (l : Letter ρ) (o : Office ρ σ)

/-- What is struck off the orders does not concern the coordinator. -/
@[simp] theorem struck_coordinator : (o.struck l).coordinator = o.coordinator := by
  unfold struck
  cases l.sender <;> rfl

/-- Nor does it concern the mailbox. -/
@[simp] theorem struck_mailbox : (o.struck l).mailbox = o.mailbox := by
  unfold struck
  cases l.sender <;> rfl

/-- The mailbox is as open as before. -/
@[simp] theorem struck_isClosed : (o.struck l).isClosed = o.isClosed := by
  unfold struck
  cases l.sender <;> rfl

/-- Nothing is written down about it. -/
@[simp] theorem struck_incidents : (o.struck l).incidents = o.incidents := by
  unfold struck
  cases l.sender <;> rfl

end Struck

variable [Desktop σ]

/-- What an office can become in one turn. -/
inductive Becomes (o : Office ρ σ) : Office ρ σ → Prop where
  /-- Nothing happens. -/
  | same : Becomes o o
  /-- Somebody waits for a place. -/
  | waits (l : Letter ρ) (m : Mailbox (Correspondent ρ) (Letter ρ)) (isOpen : o.isClosed = false)
      (ready : o.Ready l) (full : o.mailbox.reserve l.sender = (false, m)) :
      Becomes o { o with mailbox := m }
  /-- A letter is posted. -/
  | posts (l : Letter ρ) (m : Mailbox (Correspondent ρ) (Letter ρ)) (isOpen : o.isClosed = false)
      (ready : o.Ready l) (place : o.mailbox.reserve l.sender = (true, m)) :
      Becomes o (({ o with mailbox := m.put l }.record (.posted l :: l.receipt)).struck l)
  /-- An order is turned away. -/
  | turnsAway (p : ρ) (order : Order) (rest : List Order) (isClosed : o.isClosed = true)
      (next : o.orders p = order :: rest) :
      Becomes o ((o.leave p rest).record
        [.turnedAway p order, .told p order (.error .channelClosed)])
  /-- An alarm has nobody to write to. -/
  | silences (t : Timer) (isClosed : o.isClosed = true) : Becomes o (o.silence t)
  /-- A request is carried out. -/
  | serves (s : Correspondent ρ) (r : Request) (rest : List (Letter ρ))
      (running : o.coordinator.running = true)
      (letters : o.mailbox.letters = ⟨s, .request r⟩ :: rest) :
      Becomes o ({ o with
        mailbox := ({ o.mailbox with letters := rest }).release.2
        coordinator := { (o.coordinator.serve r).2 with timers := [] }
        alarms := o.alarms ++ (o.coordinator.serve r).2.timers }.record
          (.served s r (o.coordinator.serve r).1 ::
            Letter.answer (o.coordinator.serve r).1 ⟨s, .request r⟩))
  /-- The coordinator shuts down. -/
  | stops (s : Correspondent ρ) (rest : List (Letter ρ)) (running : o.coordinator.running = true)
      (letters : o.mailbox.letters = ⟨s, .shutdown⟩ :: rest) :
      Becomes o ({ o with
        mailbox := ({ o.mailbox with letters := rest }).release.2
        coordinator := o.coordinator.shutdown.2 }.record [.stopped s])
  /-- The mailbox is closed. -/
  | closes (stopped : o.coordinator.running = false) (isOpen : o.isClosed = false) :
      Becomes o o.close
  /-- Time passes. -/
  | passes (ms : Nat) : Becomes o { o with coordinator := o.coordinator.wait ms }
  /-- The desktop changes. -/
  | shifts (change : σ → σ) :
      Becomes o ({ o with coordinator := { o.coordinator with
        scene := o.coordinator.scene.move (.shift change) } }.record [.shifted change])

omit [Desktop σ] in
/-- A client has one order less. -/
theorem struck_client (p : ρ) (order : Order) (o : Office ρ σ) :
    o.struck ⟨.client p, order⟩ = o.leave p (o.orders p).tail := rfl

omit [DecidableEq ρ] in
/-- A coordinator at work reads the first letter, and the place of the letter is given away. -/
theorem work_of_letter {o : Office ρ σ} (running : o.coordinator.running = true) {l : Letter ρ}
    {rest : List (Letter ρ)} (letters : o.mailbox.letters = l :: rest) :
    o.work = ({ o with mailbox := ({ o.mailbox with letters := rest }).release.2 }).handle l := by
  unfold work Mailbox.take?
  rw [if_pos running, letters]

/-- In its turn a client does one of these things, or nothing. -/
theorem becomes_send (p : ρ) (o : Office ρ σ) : Becomes o (o.send p) := by
  unfold send
  cases hnext : o.orders p with
  | nil => exact .same
  | cons order rest =>
    dsimp only
    split
    · next hclosed => exact .turnsAway p order rest hclosed hnext
    · next hopen =>
      have hisOpen : o.isClosed = false := by simpa using hopen
      split
      · next hmay =>
        have hready : o.Ready ⟨.client p, order⟩ := ⟨hmay, by rw [hnext]; rfl⟩
        unfold post
        cases hreserve : o.mailbox.reserve (.client p) with
        | mk place m =>
          cases place with
          | true =>
            have hposts := Becomes.posts ⟨.client p, order⟩ m hisOpen hready hreserve
            have hrest : (({ o with mailbox := m.put ⟨.client p, order⟩ }.record
                (.posted ⟨.client p, order⟩ :: Letter.receipt ⟨.client p, order⟩)).orders p).tail =
                  rest := congrArg List.tail hnext
            rw [struck_client, hrest] at hposts
            exact hposts
          | false => exact .waits ⟨.client p, order⟩ m hisOpen hready hreserve
      · exact .same

/-- So does an alarm. -/
theorem becomes_ring (t : Timer) (o : Office ρ σ) : Becomes o (o.ring t) := by
  unfold ring
  split
  · next hdue =>
    split
    · next hclosed => exact .silences t hclosed
    · next hopen =>
      have hisOpen : o.isClosed = false := by simpa using hopen
      have hready : o.Ready (.ofAlarm t) := ⟨rfl, hdue.1, hdue.2⟩
      unfold post
      cases hreserve : o.mailbox.reserve (Letter.ofAlarm t).sender with
      | mk place m =>
        cases place with
        | true => exact .posts (.ofAlarm t) m hisOpen hready hreserve
        | false => exact .waits (.ofAlarm t) m hisOpen hready hreserve
  · exact .same

/-- So does the coordinator. -/
theorem becomes_work (o : Office ρ σ) : Becomes o o.work := by
  unfold work
  split
  · next hrunning =>
    unfold Mailbox.take?
    cases hletters : o.mailbox.letters with
    | nil => exact .same
    | cons l rest =>
      obtain ⟨s, order⟩ := l
      cases order with
      | request r => exact .serves s r rest hrunning hletters
      | shutdown => exact .stops s rest hrunning hletters
  · next hstopped =>
    split
    · exact .same
    · next hopen => exact .closes (by simpa using hstopped) (by simpa using hopen)

/-- Whoever has the turn, an office becomes what it can become. -/
theorem becomes_act (a : Act ρ σ) (o : Office ρ σ) : Becomes o (o.act a) := by
  cases a with
  | send p => exact becomes_send p o
  | ring t => exact becomes_ring t o
  | work => exact becomes_work o
  | pass ms => exact .passes ms
  | shift change => exact .shifts change

/-- Turns are taken one after the other. -/
theorem run_append (first rest : List (Act ρ σ)) (o : Office ρ σ) :
    o.run (first ++ rest) = (o.run first).run rest := List.foldl_append

/-- What every turn keeps is kept whoever has turns in whatever order. -/
theorem run_induct {P : Office ρ σ → Prop} (hturn : ∀ {o o'}, Becomes o o' → P o → P o')
    (acts : List (Act ρ σ)) {o : Office ρ σ} (ho : P o) : P (o.run acts) := by
  induction acts generalizing o with
  | nil => exact ho
  | cons a rest ih => exact ih (hturn (becomes_act a o) ho)

end Office

end SatelliteWindows
