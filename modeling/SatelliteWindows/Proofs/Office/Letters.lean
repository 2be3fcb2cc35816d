import SatelliteWindows.Proofs.Coordinator.Steps
import SatelliteWindows.Proofs.Office.Turns

/-!
# What becomes of letters

Every letter is accounted for. It was read by the coordinator, or thrown away when the mailbox was
closed, or it still waits; and letters are read in the order in which they were posted. Every
client's orders were posted in their order, or turned away once the mailbox was closed, or they are
still to be placed. Whoever waits for an answer is told one, also if the request was never carried
out.
-/

namespace SatelliteWindows

namespace Office

variable {ρ σ : Type}

/-- The request that is ordered. -/
def Order.request? : Order → Option Request
  | .request r => some r
  | .shutdown => none

namespace Incident

/-- The letter that was posted. -/
def posted? : Incident ρ σ → Option (Letter ρ)
  | posted l => some l
  | _ => none

/-- The letter whose request was carried out. -/
def served? : Incident ρ σ → Option (Letter ρ)
  | served s r _ => some ⟨s, .request r⟩
  | _ => none

/-- The letter that was read. -/
def read? : Incident ρ σ → Option (Letter ρ)
  | served s r _ => some ⟨s, .request r⟩
  | stopped s => some ⟨s, .shutdown⟩
  | _ => none

/-- The letters that were thrown away. -/
def dropped : Incident ρ σ → List (Letter ρ)
  | closed ls => ls
  | _ => []

variable [DecidableEq ρ]

/-- The order that a client could not place. -/
def turnedAway? (p : ρ) : Incident ρ σ → Option Order
  | turnedAway q order => if q = p then some order else none
  | _ => none

/-- The request of a client that was carried out, and its answer. -/
def answered? (p : ρ) : Incident ρ σ → Option (Request × Except Fault Answer)
  | served (.client q) r answer => if q = p then some (r, answer) else none
  | _ => none

/-- What a client is told of a request. -/
def told? (p : ρ) : Incident ρ σ → Option (Request × Except Fault Answer)
  | told q (.request r) reply => if q = p then some (r, reply) else none
  | _ => none

end Incident

section Lists

variable (incidents news : List (Incident ρ σ))

/-- The letters that were posted. -/
def posted : List (Letter ρ) := incidents.filterMap Incident.posted?

/-- The letters whose requests were carried out. -/
def served : List (Letter ρ) := incidents.filterMap Incident.served?

/-- The letters that were read. -/
def read : List (Letter ρ) := incidents.filterMap Incident.read?

/-- The letters that were thrown away. -/
def dropped : List (Letter ρ) := incidents.flatMap Incident.dropped

/-- The letters posted in two stretches are those of the one and of the other. -/
@[simp] theorem posted_append : posted (incidents ++ news) = posted incidents ++ posted news :=
  List.filterMap_append

/-- So are the requests carried out. -/
@[simp] theorem served_append : served (incidents ++ news) = served incidents ++ served news :=
  List.filterMap_append

/-- So are the letters read. -/
@[simp] theorem read_append : read (incidents ++ news) = read incidents ++ read news :=
  List.filterMap_append

/-- So are the letters thrown away. -/
@[simp] theorem dropped_append : dropped (incidents ++ news) = dropped incidents ++ dropped news :=
  List.flatMap_append

variable [DecidableEq ρ] (p : ρ)

/-- The orders of a client that could not be placed. -/
def turnedAway : List Order := incidents.filterMap (Incident.turnedAway? p)

/-- The requests of a client that were carried out, and their answers. -/
def answered : List (Request × Except Fault Answer) := incidents.filterMap (Incident.answered? p)

/-- What a client was told of its requests. -/
def told : List (Request × Except Fault Answer) := incidents.filterMap (Incident.told? p)

/-- So are the orders that were turned away. -/
@[simp] theorem turnedAway_append :
    turnedAway (incidents ++ news) p = turnedAway incidents p ++ turnedAway news p :=
  List.filterMap_append

/-- So are the answers that a client was given. -/
@[simp] theorem answered_append :
    answered (incidents ++ news) p = answered incidents p ++ answered news p :=
  List.filterMap_append

/-- So is what a client was told. -/
@[simp] theorem told_append : told (incidents ++ news) p = told incidents p ++ told news p :=
  List.filterMap_append

variable (letters more : List (Letter ρ))

/-- The orders in the letters of a client. -/
def ordersOf : List Order :=
  letters.filterMap fun l => if l.sender = .client p then some l.order else none

/-- The orders in two piles of letters are those of the one and of the other. -/
@[simp] theorem ordersOf_append :
    ordersOf p (letters ++ more) = ordersOf p letters ++ ordersOf p more :=
  List.filterMap_append

end Lists

/-- Requests that are not carried out, with what is said of them. -/
def refused (orders : List Order) : List (Request × Except Fault Answer) :=
  (orders.filterMap Order.request?).map fun r => (r, .error .channelClosed)

/-- Orders that are refused are refused one by one. -/
@[simp] theorem refused_append (orders more : List Order) :
    refused (orders ++ more) = refused orders ++ refused more := by
  simp [refused]

/-! ## Notes that go along -/

/-- Nothing becomes of any letter. -/
structure Unread (news : List (Incident ρ σ)) : Prop where
  /-- None was posted. -/
  posted : Office.posted news = []
  /-- None was carried out. -/
  served : Office.served news = []
  /-- None was read. -/
  read : Office.read news = []
  /-- None was thrown away. -/
  dropped : Office.dropped news = []

/-- If no letter was read in two stretches, none was read in both together. -/
theorem Unread.append {news more : List (Incident ρ σ)} (h : Unread news) (h' : Unread more) :
    Unread (news ++ more) := by
  constructor
  · rw [posted_append, h.posted, h'.posted, List.append_nil]
  · rw [served_append, h.served, h'.served, List.append_nil]
  · rw [read_append, h.read, h'.read, List.append_nil]
  · rw [dropped_append, h.dropped, h'.dropped, List.append_nil]

section Notes

variable (l : Letter ρ) (reply : Except Fault Answer)

/-- What is told of letters is no letter. -/
theorem unread_answer : Unread (l.answer (σ := σ) reply) := by
  unfold Letter.answer
  cases l.awaited? <;> exact ⟨rfl, rfl, rfl, rfl⟩

/-- To be told that a letter was posted does not mean that it was read. -/
theorem unread_receipt : Unread (l.receipt (σ := σ)) := by
  obtain ⟨s, order⟩ := l
  cases s <;> cases order <;> exact ⟨rfl, rfl, rfl, rfl⟩

/-- To be told that there will be no answer does not mean it either. -/
theorem unread_answers (letters : List (Letter ρ)) :
    Unread (letters.flatMap (Letter.answer (σ := σ) reply)) := by
  induction letters with
  | nil => exact ⟨rfl, rfl, rfl, rfl⟩
  | cons l rest ih =>
    rw [List.flatMap_cons]
    exact (unread_answer l reply).append ih

variable [DecidableEq ρ] (p : ρ)

/-- Nor does it place an order, or answer one. -/
theorem unplaced_answer : turnedAway (l.answer (σ := σ) reply) p = [] ∧
    answered (l.answer (σ := σ) reply) p = [] := by
  unfold Letter.answer
  cases l.awaited? <;> exact ⟨rfl, rfl⟩

/-- To be told that a letter was posted does not mean that an order was turned away. -/
theorem unplaced_receipt : turnedAway (l.receipt (σ := σ)) p = [] ∧
    answered (l.receipt (σ := σ)) p = [] ∧ told (l.receipt (σ := σ)) p = [] := by
  obtain ⟨s, order⟩ := l
  cases s <;> cases order <;> exact ⟨rfl, rfl, rfl⟩

/-- A client is told the answer to its own letter. -/
theorem told_answer : told (l.answer (σ := σ) reply) p =
    ((ordersOf p [l]).filterMap Order.request?).map fun r => (r, reply) := by
  obtain ⟨s, order⟩ := l
  cases s with
  | alarm t => cases order <;> simp [told, Letter.answer, Letter.awaited?, ordersOf]
  | client q =>
    cases order with
    | shutdown =>
      by_cases h : q = p <;>
        simp [told, Letter.answer, Letter.awaited?, ordersOf, Order.request?, h]
    | request r =>
      by_cases h : q = p <;>
        simp [told, Incident.told?, Letter.answer, Letter.awaited?, ordersOf, Order.request?, h]

variable (s : Correspondent ρ) (r : Request)

omit [DecidableEq ρ] in
/-- When a request is carried out, its letter was read and nothing else happens to letters. -/
theorem read_served :
    posted (.served s r reply :: Letter.answer (σ := σ) reply ⟨s, .request r⟩) = [] ∧
    served (.served s r reply :: Letter.answer (σ := σ) reply ⟨s, .request r⟩) =
      [⟨s, .request r⟩] ∧
    read (.served s r reply :: Letter.answer (σ := σ) reply ⟨s, .request r⟩) = [⟨s, .request r⟩] ∧
    dropped (.served s r reply :: Letter.answer (σ := σ) reply ⟨s, .request r⟩) = [] := by
  obtain ⟨hposted, hserved, hread, hdropped⟩ := unread_answer (σ := σ) ⟨s, .request r⟩ reply
  exact ⟨hposted, congrArg (Letter.mk s (.request r) :: ·) hserved,
    congrArg (Letter.mk s (.request r) :: ·) hread, hdropped⟩

/-- A client is told what its request was answered with. -/
theorem told_served :
    told (.served s r reply :: Letter.answer (σ := σ) reply ⟨s, .request r⟩) p =
      answered (.served s r reply :: Letter.answer (σ := σ) reply ⟨s, .request r⟩) p := by
  have htold : told (.served s r reply :: Letter.answer (σ := σ) reply ⟨s, .request r⟩) p =
      told (Letter.answer (σ := σ) reply ⟨s, .request r⟩) p := rfl
  have hnone := (unplaced_answer (σ := σ) ⟨s, .request r⟩ reply p).2
  unfold answered at hnone ⊢
  rw [htold, told_answer, List.filterMap_cons, hnone]
  cases s with
  | alarm t => simp [Incident.answered?, ordersOf]
  | client q =>
    by_cases hq : q = p <;> simp [Incident.answered?, ordersOf, Order.request?, hq]

end Notes

/-- The requests of a client that were carried out are those of its letters. -/
theorem ordersOf_served [DecidableEq ρ] (incidents : List (Incident ρ σ)) (p : ρ) :
    ordersOf p (served incidents) = (answered incidents p).map fun x => .request x.1 := by
  induction incidents with
  | nil => rfl
  | cons x rest ih =>
    cases x with
    | served s r answer =>
      have hcons : ordersOf p (served (.served s r answer :: rest)) =
          ordersOf p [⟨s, .request r⟩] ++ ordersOf p (served rest) :=
        ordersOf_append p [⟨s, .request r⟩] (served rest)
      have hanswered : answered (.served s r answer :: rest) p =
          answered [.served s r answer] p ++ answered rest p :=
        answered_append [.served s r answer] rest p
      rw [hcons, hanswered, ih, List.map_append]
      congr 1
      cases s with
      | alarm t => rfl
      | client q =>
        by_cases hq : q = p <;>
          simp [ordersOf, answered, Incident.answered?, hq]
    | _ => exact ih

/-- What was carried out for a client are the requests among these orders. -/
theorem requests_served [DecidableEq ρ] (incidents : List (Incident ρ σ)) (p : ρ) :
    (ordersOf p (served incidents)).filterMap Order.request? =
      (answered incidents p).map Prod.fst := by
  rw [ordersOf_served, List.filterMap_map]
  exact congrFun List.filterMap_eq_map _

/-! ## The account -/

/-- The account of all letters and orders, given what each client had to order at first. -/
structure Ledger [DecidableEq ρ] (orders : ρ → List Order) (o : Office ρ σ) : Prop where
  /-- Letters were read in the order in which they were posted, the others were thrown away, or they
  still wait. -/
  letters : posted o.incidents = read o.incidents ++ dropped o.incidents ++ o.mailbox.letters
  /-- Orders were placed in their order, as long as this could be done, or they are still to be
  placed. -/
  placed : ∀ p, orders p =
    ordersOf p (posted o.incidents) ++ turnedAway o.incidents p ++ o.orders p
  /-- Alarms ask for their openings to be given up, and for nothing else. -/
  alarms : ∀ l ∈ posted o.incidents, ∀ t, l.sender = .alarm t → l = .ofAlarm t
  /-- As long as the coordinator is at work, the mailbox is open and the coordinator has carried out
  whatever it has read. -/
  running : o.coordinator.running = true →
    o.isClosed = false ∧ read o.incidents = served o.incidents
  /-- What was carried out was read before anything else. -/
  inOrder : served o.incidents <+: read o.incidents
  /-- Nothing is thrown away, and nobody turned away, while the mailbox is open. -/
  isOpen : o.isClosed = false → dropped o.incidents = [] ∧ ∀ p, turnedAway o.incidents p = []
  /-- A closed mailbox is empty. -/
  isClosed : o.isClosed = true → o.mailbox.letters = []
  /-- Clients were told the answers to their requests, and were refused those that were not carried
  out and will not be. -/
  replies : ∀ p, told o.incidents p = answered o.incidents p ++
    refused (ordersOf p (dropped o.incidents) ++ turnedAway o.incidents p)

variable [DecidableEq ρ] {orders : ρ → List Order} {o o' : Office ρ σ}

/-- Nothing is written down before the first turn. -/
theorem ledger_assemble (capacity : Nat) (orders : ρ → List Order) (isPatient : ρ → Bool)
    (c : Coordinator σ) : Ledger orders (assemble capacity orders isPatient c) where
  letters := rfl
  placed _ := rfl
  alarms _ h := by cases h
  running _ := ⟨rfl, rfl⟩
  inOrder := List.prefix_rfl
  isOpen _ := ⟨rfl, fun _ => rfl⟩
  isClosed h := by cases h
  replies _ := rfl

/-- A change of the desktop is no letter, places no order and answers none. -/
theorem unaccounted_shifted (incidents : List (Incident ρ σ)) (change : σ → σ) :
    posted (incidents ++ [.shifted change]) = posted incidents ∧
    served (incidents ++ [.shifted change]) = served incidents ∧
    read (incidents ++ [.shifted change]) = read incidents ∧
    dropped (incidents ++ [.shifted change]) = dropped incidents ∧
    ∀ p, turnedAway (incidents ++ [.shifted change]) p = turnedAway incidents p ∧
      answered (incidents ++ [.shifted change]) p = answered incidents p ∧
      told (incidents ++ [.shifted change]) p = told incidents p := by
  simp only [posted_append, served_append, read_append, dropped_append, turnedAway_append,
    answered_append, told_append]
  exact ⟨List.append_nil _, List.append_nil _, List.append_nil _, List.append_nil _,
    fun p => ⟨List.append_nil _, List.append_nil _, List.append_nil _⟩⟩

/-- The account depends on nothing but what is written down, apart from changes of the desktop, the
letters that wait, the orders left, whether the mailbox is closed and whether the coordinator is at
work. -/
theorem Ledger.keep (h : Ledger orders o) (incidents : o'.incidents = o.incidents ∨
      ∃ change, o'.incidents = o.incidents ++ [.shifted change])
    (letters : o'.mailbox.letters = o.mailbox.letters) (left : o'.orders = o.orders)
    (closed : o'.isClosed = o.isClosed)
    (running : o'.coordinator.running = o.coordinator.running) : Ledger orders o' := by
  have hsame : posted o'.incidents = posted o.incidents ∧ served o'.incidents = served o.incidents ∧
      read o'.incidents = read o.incidents ∧ dropped o'.incidents = dropped o.incidents ∧
      ∀ p, turnedAway o'.incidents p = turnedAway o.incidents p ∧
        answered o'.incidents p = answered o.incidents p ∧
        told o'.incidents p = told o.incidents p := by
    rcases incidents with hsame | ⟨change, hshifted⟩
    · rw [hsame]
      exact ⟨rfl, rfl, rfl, rfl, fun _ => ⟨rfl, rfl, rfl⟩⟩
    · rw [hshifted]
      exact unaccounted_shifted o.incidents change
  obtain ⟨hposted, hserved, hread, hdropped, hclients⟩ := hsame
  constructor
  · rw [hposted, hread, hdropped, letters]
    exact h.letters
  · intro p
    rw [hposted, (hclients p).1, left]
    exact h.placed p
  · rw [hposted]
    exact h.alarms
  · rw [hread, hserved, closed, running]
    exact h.running
  · rw [hread, hserved]
    exact h.inOrder
  · intro hopen
    rw [closed] at hopen
    exact ⟨hdropped.trans (h.isOpen hopen).1,
      fun p => (hclients p).1.trans ((h.isOpen hopen).2 p)⟩
  · rw [letters, closed]
    exact h.isClosed
  · intro p
    obtain ⟨hturned, hanswered, htold⟩ := hclients p
    rw [htold, hanswered, hdropped, hturned]
    exact h.replies p

/-- The head of a client's orders, and the rest of them. -/
theorem orders_struck {l : Letter ρ} (hready : o.Ready l) (p : ρ) :
    o.orders p = ordersOf p [l] ++ (o.struck l).orders p := by
  obtain ⟨s, order⟩ := l
  cases s with
  | alarm t => rfl
  | client q =>
    have hnext : (o.orders q).head? = some order := hready.2
    have hstruck : (o.struck ⟨.client q, order⟩).orders p =
        if p = q then (o.orders q).tail else o.orders p := rfl
    rw [hstruck]
    by_cases hp : p = q
    · subst hp
      cases horders : o.orders p with
      | nil =>
        rw [horders] at hnext
        cases hnext
      | cons first rest =>
        rw [horders] at hnext
        cases hnext
        simp [ordersOf]
    · have hq : ¬ q = p := fun h => hp h.symm
      simp [ordersOf, hp, hq]

/-- What happens while the mailbox is open keeps the account if it balances itself: letters that
waited or are posted are read, thrown away or wait afterwards; orders are posted or left; and
clients are told the answers to their requests, or refused those that are thrown away. -/
theorem Ledger.extend (h : Ledger orders o) (isOpen : o.isClosed = false)
    {news : List (Incident ρ σ)} (incidents : o'.incidents = o.incidents ++ news)
    (letters : o.mailbox.letters ++ posted news =
      read news ++ dropped news ++ o'.mailbox.letters)
    (placed : ∀ p, o.orders p = ordersOf p (posted news) ++ o'.orders p)
    (nobody : ∀ p, turnedAway news p = [])
    (alarms : ∀ l ∈ posted news, ∀ t, l.sender = .alarm t → l = .ofAlarm t)
    (running : o'.coordinator.running = true →
      o.coordinator.running = true ∧ o'.isClosed = false ∧ read news = served news)
    (reading : read news = [] ∧ served news = [] ∨
      o.coordinator.running = true ∧ served news <+: read news)
    (stillOpen : o'.isClosed = false → dropped news = [])
    (closed : o'.isClosed = true → o'.mailbox.letters = [])
    (told : ∀ p, told news p = answered news p ++ refused (ordersOf p (dropped news))) :
    Ledger orders o' := by
  obtain ⟨hdropped, hnobody⟩ := h.isOpen isOpen
  constructor
  · rw [incidents, posted_append, read_append, dropped_append, h.letters, hdropped]
    simp only [List.append_nil, List.nil_append, List.append_assoc]
    rw [letters, List.append_assoc]
  · intro p
    rw [incidents, posted_append, ordersOf_append, turnedAway_append, h.placed p, hnobody p,
      nobody p, placed p]
    simp only [List.append_nil, List.append_assoc]
  · intro l hl
    rw [incidents, posted_append] at hl
    exact (List.mem_append.mp hl).elim (h.alarms l) (alarms l)
  · intro hrunning
    obtain ⟨hbefore, hopen, hread⟩ := running hrunning
    rw [incidents, read_append, served_append, (h.running hbefore).2, hread]
    exact ⟨hopen, rfl⟩
  · rw [incidents, served_append, read_append]
    -- what was served before is all that was read, unless nothing is read any more
    rcases reading with ⟨hread, hserved⟩ | ⟨hrunning, hserved⟩
    · rw [hread, hserved, List.append_nil, List.append_nil]
      exact h.inOrder
    · rw [(h.running hrunning).2]
      exact (List.prefix_append_right_inj _).mpr hserved
  · intro hopen
    refine ⟨?_, fun p => ?_⟩
    · rw [incidents, dropped_append, hdropped, stillOpen hopen]
      rfl
    · rw [incidents, turnedAway_append, hnobody p, nobody p]
      rfl
  · exact closed
  · intro p
    rw [incidents, told_append, answered_append, dropped_append, turnedAway_append, h.replies p,
      told p, hdropped, hnobody p, nobody p]
    simp [refused, ordersOf]

/-- A letter that is posted goes from the orders of its sender to the letters to be read. -/
theorem Ledger.posts (h : Ledger orders o) {l : Letter ρ} {m : Mailbox (Correspondent ρ) (Letter ρ)}
    (isOpen : o.isClosed = false) (ready : o.Ready l)
    (place : o.mailbox.reserve l.sender = (true, m)) : Ledger orders
      (({ o with mailbox := m.put l }.record (.posted l :: l.receipt)).struck l) := by
  obtain ⟨hposted, hserved, hread, hdropped⟩ := unread_receipt (σ := σ) l
  have hletters : m.letters = o.mailbox.letters := by
    rw [← o.mailbox.letters_reserve l.sender, place]
  have hone : posted (.posted l :: l.receipt (σ := σ)) = [l] := congrArg (l :: ·) hposted
  refine h.extend isOpen (struck_incidents l _) ?_ ?_ ?_ ?_ ?_ ?_ ?_ ?_ ?_
  · rw [hone, struck_mailbox]
    show o.mailbox.letters ++ [l] = read l.receipt ++ dropped l.receipt ++ (m.letters ++ [l])
    rw [hread, hdropped, hletters]
    rfl
  · intro p
    have hplaced := orders_struck ready p
    rw [hone, hplaced]
    unfold struck
    cases l.sender <;> rfl
  · exact fun p => (unplaced_receipt l p).1
  · intro k hk t hsender
    rw [hone, List.mem_singleton] at hk
    subst hk
    unfold Ready at ready
    rw [hsender] at ready
    exact ready.1
  · intro hrunning
    rw [struck_coordinator] at hrunning
    exact ⟨hrunning, (struck_isClosed l _).trans isOpen, hread.trans hserved.symm⟩
  · exact .inl ⟨hread, hserved⟩
  · exact fun _ => hdropped
  · intro hclosed
    rw [struck_isClosed] at hclosed
    exact absurd (hclosed.symm.trans isOpen) nofun
  · intro p
    obtain ⟨-, hanswered, htold⟩ := unplaced_receipt (σ := σ) l p
    show told l.receipt p = answered l.receipt p ++ refused (ordersOf p (dropped l.receipt))
    rw [htold, hanswered, hdropped]
    rfl

/-- An order that is turned away is turned away for its client only. -/
theorem turnedAway_one (p q : ρ) (order : Order) : turnedAway (σ := σ)
    [.turnedAway p order, .told p order (.error .channelClosed)] q =
      if p = q then [order] else [] := by
  by_cases h : p = q <;> simp [turnedAway, List.filterMap_cons, Incident.turnedAway?, h]

/-- Its client is told so, and nobody else. -/
theorem told_turnedAway (p q : ρ) (order : Order) : told (σ := σ)
    [.turnedAway p order, .told p order (.error .channelClosed)] q =
      refused (if p = q then [order] else []) := by
  by_cases h : p = q <;> cases order <;>
    simp [told, List.filterMap_cons, Incident.told?, refused, Order.request?, h]

/-- An order that is turned away is entered as that. -/
theorem Ledger.turnsAway (h : Ledger orders o) {p : ρ} {order : Order} {rest : List Order}
    (isClosed : o.isClosed = true) (next : o.orders p = order :: rest) :
    Ledger orders ((o.leave p rest).record
      [.turnedAway p order, .told p order (.error .channelClosed)]) := by
  have hunread (news : List (Incident ρ σ)) (hposted : posted news = []) (hread : read news = [])
      (hdropped : dropped news = []) : posted (o.incidents ++ news) =
        read (o.incidents ++ news) ++ dropped (o.incidents ++ news) ++ o.mailbox.letters := by
    rw [posted_append, read_append, dropped_append, hposted, hread, hdropped]
    simpa using h.letters
  constructor
  · exact hunread _ rfl rfl rfl
  · intro q
    show orders q = ordersOf q (posted (o.incidents ++ [_, _])) ++
      turnedAway (o.incidents ++ [_, _]) q ++ if q = p then rest else o.orders q
    have hposted : posted (σ := σ)
        [.turnedAway p order, .told p order (.error .channelClosed)] = [] := rfl
    rw [posted_append, hposted, turnedAway_append, turnedAway_one, h.placed q, List.append_nil]
    by_cases hq : q = p
    · subst hq
      simp [next]
    · have hp : ¬ p = q := fun heq => hq heq.symm
      simp [hp, hq]
  · intro l hl
    refine h.alarms l ?_
    simpa [record, posted, Incident.posted?, leave] using hl
  · intro hrunning
    have hopen : o.isClosed = false := (h.running hrunning).1
    rw [isClosed] at hopen
    cases hopen
  · show served (o.incidents ++ [_, _]) <+: read (o.incidents ++ [_, _])
    rw [served_append, read_append]
    exact (List.append_nil (served o.incidents)).symm ▸ (List.append_nil (read o.incidents)).symm ▸
      h.inOrder
  · intro hopen
    exact absurd (isClosed.symm.trans hopen) nofun
  · exact fun _ => h.isClosed isClosed
  · intro q
    show told (o.incidents ++ [_, _]) q = answered (o.incidents ++ [_, _]) q ++
      refused (ordersOf q (dropped (o.incidents ++ [_, _])) ++ turnedAway (o.incidents ++ [_, _]) q)
    have hnews : answered (σ := σ)
        [.turnedAway p order, .told p order (.error .channelClosed)] q = [] ∧
        dropped (σ := σ) [.turnedAway p order, .told p order (.error .channelClosed)] = [] :=
      ⟨rfl, rfl⟩
    rw [told_append, answered_append, dropped_append, turnedAway_append, h.replies q,
      told_turnedAway, turnedAway_one, hnews.1, hnews.2]
    simp only [List.append_nil, refused_append, List.append_assoc]

variable [Desktop σ]

/-- A letter that is read is entered as that, with the answer. -/
theorem Ledger.serves (h : Ledger orders o) {s : Correspondent ρ} {r : Request}
    {rest : List (Letter ρ)} (running : o.coordinator.running = true)
    (letters : o.mailbox.letters = ⟨s, .request r⟩ :: rest) :
    Ledger orders ({ o with
      mailbox := ({ o.mailbox with letters := rest }).release.2
      coordinator := { (o.coordinator.serve r).2 with timers := [] }
      alarms := o.alarms ++ (o.coordinator.serve r).2.timers }.record
        (.served s r (o.coordinator.serve r).1 ::
          Letter.answer (o.coordinator.serve r).1 ⟨s, .request r⟩)) := by
  have hopen := (h.running running).1
  generalize (o.coordinator.serve r).1 = reply
  obtain ⟨hposted, hserved, hread, hdropped⟩ := read_served (σ := σ) reply s r
  refine h.extend hopen rfl ?_ ?_ ?_ ?_ ?_ ?_ ?_ ?_ ?_
  · rw [hposted, hread, hdropped, letters, List.append_nil, List.append_nil]
    show ⟨s, .request r⟩ :: rest =
      [⟨s, .request r⟩] ++ ({ o.mailbox with letters := rest }).release.2.letters
    rw [Mailbox.letters_release, List.singleton_append]
  · intro p
    rw [hposted]
    rfl
  · exact fun p => (unplaced_answer _ reply p).1
  · intro l hl
    exact absurd (hposted ▸ hl) List.not_mem_nil
  · exact fun _ => ⟨running, hopen, hread.trans hserved.symm⟩
  · exact .inr ⟨running, (hserved.trans hread.symm) ▸ List.prefix_rfl⟩
  · exact fun _ => hdropped
  · exact fun hclosed => absurd (hopen.symm.trans hclosed) nofun
  · intro p
    rw [told_served, hdropped]
    exact (List.append_nil _).symm

/-- The letter that shuts the coordinator down is entered as read as well. -/
theorem Ledger.stops (h : Ledger orders o) {s : Correspondent ρ} {rest : List (Letter ρ)}
    (running : o.coordinator.running = true)
    (letters : o.mailbox.letters = ⟨s, .shutdown⟩ :: rest) :
    Ledger orders ({ o with
      mailbox := ({ o.mailbox with letters := rest }).release.2
      coordinator := o.coordinator.shutdown.2 }.record [.stopped s]) := by
  have hopen := (h.running running).1
  refine h.extend hopen rfl ?_ (fun p => rfl) (fun p => rfl) (fun l hl => by cases hl) ?_ ?_
    (fun _ => rfl) (fun hclosed => absurd (hopen.symm.trans hclosed) nofun) (fun p => rfl)
  · show o.mailbox.letters ++ [] =
      [⟨s, .shutdown⟩] ++ [] ++ ({ o.mailbox with letters := rest }).release.2.letters
    rw [Mailbox.letters_release, letters, List.append_nil]
    rfl
  · intro hrunning
    have hstopped := (Coordinator.shutdown_of_running running).2.2.1
    exact absurd (hrunning.symm.trans hstopped) nofun
  · exact .inr ⟨running, List.nil_prefix⟩

omit [Desktop σ] in
/-- Whoever waits for an answer when letters are thrown away is refused it. -/
theorem replies_dropped (letters : List (Letter ρ)) (p : ρ) :
    turnedAway (letters.flatMap (Letter.answer (σ := σ) (.error .channelClosed))) p = [] ∧
    answered (letters.flatMap (Letter.answer (σ := σ) (.error .channelClosed))) p = [] ∧
    told (letters.flatMap (Letter.answer (σ := σ) (.error .channelClosed))) p =
      refused (ordersOf p letters) := by
  induction letters with
  | nil => exact ⟨rfl, rfl, rfl⟩
  | cons l rest ih =>
    obtain ⟨hturned, hanswered⟩ := unplaced_answer (σ := σ) l (.error .channelClosed) p
    rw [List.flatMap_cons, turnedAway_append, answered_append, told_append, told_answer,
      hturned, hanswered, ih.1, ih.2.1, ih.2.2]
    have hcons : ordersOf p (l :: rest) = ordersOf p [l] ++ ordersOf p rest :=
      ordersOf_append p [l] rest
    rw [hcons, refused_append]
    exact ⟨rfl, rfl, rfl⟩

omit [Desktop σ] in
/-- Letters that are thrown away are entered as that, and nobody is left without an answer. -/
theorem Ledger.closes (h : Ledger orders o) (stopped : o.coordinator.running = false)
    (isOpen : o.isClosed = false) : Ledger orders o.close := by
  obtain ⟨hposted, hserved, hread, hdropped⟩ :=
    unread_answers (σ := σ) (.error .channelClosed) o.mailbox.letters
  have hclients := replies_dropped (σ := σ) o.mailbox.letters
  have hthrown : dropped (.closed o.mailbox.letters ::
      o.mailbox.letters.flatMap (Letter.answer (σ := σ) (.error .channelClosed))) =
        o.mailbox.letters :=
    (congrArg (o.mailbox.letters ++ ·) hdropped).trans (List.append_nil _)
  refine h.extend isOpen rfl ?_ ?_ (fun p => (hclients p).1) ?_ ?_ (.inl ⟨hread, hserved⟩)
    nofun (fun _ => rfl) ?_
  · rw [hthrown]
    show o.mailbox.letters ++ posted (List.flatMap _ _) =
      read (List.flatMap _ _) ++ o.mailbox.letters ++ []
    rw [hposted, hread]
    simp only [List.append_nil, List.nil_append]
  · intro p
    show o.orders p = ordersOf p (posted (List.flatMap _ _)) ++ o.orders p
    rw [hposted]
    rfl
  · intro l hl
    exact absurd (hposted ▸ hl) List.not_mem_nil
  · exact fun hrunning => absurd (hrunning.symm.trans stopped) nofun
  · intro p
    rw [hthrown]
    show told (List.flatMap _ _) p = answered (List.flatMap _ _) p ++ _
    rw [(hclients p).2.1, (hclients p).2.2]
    rfl

/-- Every turn keeps the account. -/
theorem Ledger.becomes (hturn : Becomes o o') (h : Ledger orders o) : Ledger orders o' := by
  cases hturn with
  | same => exact h
  | waits l m isOpen ready full =>
    refine h.keep (.inl rfl) ?_ rfl rfl rfl
    rw [← o.mailbox.letters_reserve l.sender, full]
  | posts l m isOpen ready place => exact h.posts isOpen ready place
  | turnsAway p order rest isClosed next => exact h.turnsAway isClosed next
  | silences t isClosed => exact h.keep (.inl rfl) rfl rfl rfl rfl
  | serves s r rest running letters => exact h.serves running letters
  | stops s rest running letters => exact h.stops running letters
  | closes stopped isOpen => exact h.closes stopped isOpen
  | passes ms => exact h.keep (.inl rfl) rfl rfl rfl (o.coordinator.wait_fields ms).2.1
  | shifts change => exact h.keep (.inr ⟨change, rfl⟩) rfl rfl rfl rfl

/-- Whoever has turns, the account is kept. -/
theorem Ledger.run (h : Ledger orders o) (acts : List (Act ρ σ)) : Ledger orders (o.run acts) :=
  run_induct (fun hturn h => h.becomes hturn) acts h

/-- Whoever has turns in whatever order, all letters and orders are accounted for. -/
theorem ledger_run (capacity : Nat) (orders : ρ → List Order) (isPatient : ρ → Bool)
    (c : Coordinator σ) (acts : List (Act ρ σ)) :
    Ledger orders ((assemble capacity orders isPatient c).run acts) :=
  (ledger_assemble capacity orders isPatient c).run acts

end Office

end SatelliteWindows
