import SatelliteWindows.Proofs.Handshake

/-!
# The history of a run

For the handshake a move means one thing at most: a satellite was opened anew, a window registered,
what was held back was passed on, satellites were closed or given up, or an event was dispatched.
The history of a run lists what its moves meant. `turn_move` says what each of these makes of the
state of the handshake, and every fact about runs in terms of their histories rests on it.
-/

namespace SatelliteWindows

/-- What a move can mean for the handshake. -/
inductive Happening where
  /-- A window was asked for, and the opening got a number. -/
  | opened (name : String) (generation : Nat)
  /-- A window registered for a satellite. -/
  | registered (name : String) (window : WindowId)
  /-- What was held back for a satellite was to be passed on. -/
  | flushed (name : String)
  /-- A satellite was to be closed. -/
  | closed (name : String)
  /-- All satellites were to be closed. -/
  | allClosed
  /-- An opening was given up. -/
  | expired (name : String) (generation : Nat)
  /-- An event was dispatched. -/
  | dispatched (event : Event)
  /-- A command was dispatched. -/
  | commanded (command : Command)
  /-- Something that does not concern the handshake. -/
  | other
  deriving DecidableEq

namespace Happening

/-- Whether a satellite was opened anew. -/
def opens (name : String) : Happening → Bool
  | opened n _ => n == name
  | _ => false

/-- Whether no more events are held back for a satellite from now on. -/
def stops (name : String) : Happening → Bool
  | flushed n | closed n | expired n _ => n == name
  | allClosed => true
  | _ => false

/-- What stops a satellite is a flush, a closing, or giving up. -/
theorem stops_cases {name : String} {x : Happening} (h : x.stops name = true) :
    x = .flushed name ∨ x = .closed name ∨ x = .allClosed ∨ ∃ g, x = .expired name g := by
  cases x with
  | flushed n => exact .inl (congrArg flushed (by simpa [stops] using h))
  | closed n => exact .inr (.inl (congrArg closed (by simpa [stops] using h)))
  | allClosed => exact .inr (.inr (.inl rfl))
  | expired n g =>
    have hn : n = name := by simpa [stops] using h
    exact .inr (.inr (.inr ⟨g, by rw [hn]⟩))
  | opened | registered | dispatched | commanded | other => cases h

/-- The event that was dispatched. -/
def event? : Happening → Option Event
  | dispatched e => some e
  | _ => none

/-- Whether something was sent to all satellites. -/
def broadcasts : Happening → Bool
  | dispatched _ | commanded _ => true
  | _ => false

/-- The events that were dispatched, in order. -/
def events (hs : List Happening) : List Event := hs.filterMap event?

/-- The events of two stretches are those of the one and of the other. -/
@[simp] theorem events_append (hs ks : List Happening) :
    events (hs ++ ks) = events hs ++ events ks := List.filterMap_append

/-- The events of a stretch begin with that of the first happening, if it has one. -/
theorem events_cons (x : Happening) (hs : List Happening) :
    events (x :: hs) = x.event?.toList ++ events hs := by
  unfold events
  rw [List.filterMap_cons]
  cases x.event? <;> rfl

/-- A satellite is pending if it was opened anew and nothing has stopped that since. -/
def Pending (name : String) (hs : List Happening) : Prop :=
  ∃ earlier opening later, hs = earlier ++ opening :: later ∧ opening.opens name = true ∧
    ∀ x ∈ later, x.stops name = false

end Happening

/-- What a happening makes of the state of the handshake. Besides what happenings are about, entries
of dead windows are taken off the roster now and then, and the number of an opening is forgotten
when nothing is held back for its satellite any more. -/
inductive Turn : Happening → Handshake → Handshake → Prop where
  | opened (name : String) (h : Handshake) :
      Turn (.opened name (h.generation + 1)) h (h.expect name)
  | registered (name : String) (w : WindowId) (h : Handshake) :
      Turn (.registered name w) h (h.register name w)
  | flushed (name : String) (h : Handshake) : Turn (.flushed name) h (h.flush name)
  | closed (name : String) (h : Handshake) : Turn (.closed name) h (h.giveUp name)
  | allClosed (h : Handshake) : Turn .allClosed h h.clear
  | expired (name : String) (generation : Nat) (h : Handshake)
      (awaited : h.awaited.get? name = some generation)
      (holding : h.backlog.isHolding name = true) :
      Turn (.expired name generation) h (h.giveUp name)
  | dispatched (e : Event) (h : Handshake) (r : Roster)
      (kept : r.entries.Sublist h.roster.entries) :
      Turn (.dispatched e) h ({ h with roster := r }.holdBack e)
  | commanded (c : Command) (h : Handshake) (r : Roster)
      (kept : r.entries.Sublist h.roster.entries) :
      Turn (.commanded c) h { h with roster := r }
  | idle (h : Handshake) : Turn .other h h
  | lapsed (name : String) (h : Handshake) (holding : h.backlog.isHolding name = false) :
      Turn .other h { h with awaited := h.awaited.erase name }

/-- Whether a request is the one to give up an opening, which only timers make. -/
def Request.givesUp : Request → Bool
  | expire .. => true
  | _ => false

/-- Whether a request may pass events on. -/
def Request.passesOn : Request → Bool
  | flush _ | invoke .. | dispatchEvent _ => true
  | _ => false

namespace Scene

variable {σ : Type} [Desktop σ]

/-- The windows that are asked for when a request is carried out. -/
def asked (r : Request) (s : Scene σ) : List OpenRequest :=
  Journal.openRequests ((s.perform r).2.journal.drop s.journal.length)

/-- What the request to open a satellite means: that a window was asked for, if one was. -/
def meaningOfOpening (r : Request) (s : Scene σ) : Happening :=
  match s.asked r with
  | request :: _ => .opened request.name (s.perform r).2.fleet.generation
  | [] => .other

/-- What a request means for the handshake. A call means what the operation of its name does. -/
def meaning (r : Request) (s : Scene σ) : Happening :=
  match r with
  | .openSatellite .. | .forceReopen .. => s.meaningOfOpening r
  | .register name w => .registered name w
  | .flush name => .flushed name
  | .close name => .closed name
  | .closeAll | .mainWindowClosed => .allClosed
  | .expire name generation =>
    if (s.expire name generation).1 then .expired name generation else .other
  | .dispatchEvent e => .dispatched e
  | .dispatchCommand c => .commanded c
  | .invoke operation caller =>
    match s.fleet.calls.get? operation, caller.window with
    | some .register, some w => .registered caller.name w
    | some .flush, _ => .flushed caller.name
    | _, _ => .other
  | _ => .other

/-- What a move means for the handshake. -/
def happening (m : Move σ) (s : Scene σ) : Happening :=
  match m with
  | .request r => s.meaning r
  | .shift _ => .other

/-- What the moves of a run mean for the handshake, one after the other. -/
def history : List (Move σ) → Scene σ → List Happening
  | [], _ => []
  | m :: rest, s => s.happening m :: history rest (s.move m)

/-- What each move of a run amounts to, in the scene in which it is made. -/
def along {α : Type} (value : Move σ → Scene σ → α) : List (Move σ) → Scene σ → List α
  | [], _ => []
  | m :: rest, s => value m s :: along value rest (s.move m)

/-- Moves are made one after the other. -/
theorem run_append (moves rest : List (Move σ)) (s : Scene σ) :
    s.run (moves ++ rest) = (s.run moves).run rest := List.foldl_append

/-- What happens in two stretches happens in the one and then in the other. -/
theorem history_append (moves rest : List (Move σ)) (s : Scene σ) :
    s.history (moves ++ rest) = s.history moves ++ (s.run moves).history rest := by
  induction moves generalizing s with
  | nil => rfl
  | cons m moves ih => exact congrArg (s.happening m :: ·) (ih (s.move m))

/-! ## Calls -/

/-- What a call can mean, and what comes of it. -/
inductive Served (caller : Caller) (s : Scene σ) : Happening → Scene σ → Prop where
  /-- A window registers. -/
  | registered (w : WindowId) :
      Served caller s (.registered caller.name w) (s.register caller.name w)
  /-- What was held back is passed on. -/
  | flushed : Served caller s (.flushed caller.name) (s.flush caller.name)
  /-- A child window came up. -/
  | childOpened (w : WindowId) : Served caller s .other (s.registerChild caller.name w)
  /-- A child window went away. -/
  | childClosed : Served caller s .other (s.unregisterChild caller.name)
  /-- The call is refused. -/
  | refused : Served caller s .other s

/-- A call means what the operation of its name means, and does what that does. -/
theorem served_invoke (operation : String) (caller : Caller) (s : Scene σ) :
    Served caller s (s.meaning (.invoke operation caller)) (s.invoke operation caller).2 := by
  obtain ⟨name, window⟩ := caller
  unfold meaning invoke
  dsimp only
  cases s.fleet.calls.get? operation with
  | none => exact .refused
  | some c =>
    cases c with
    | register =>
      cases window with
      | none => exact .refused
      | some w => exact .registered w
    | flush => exact .flushed
    | registerChild =>
      cases window with
      | none => exact .refused
      | some w => exact .childOpened w
    | unregisterChild => exact .childClosed

/-! ## What a request leads to -/

/-- Only the request to give up an opening gives one up. -/
theorem patient_perform {r : Request} (hr : r.givesUp = false) (s : Scene σ) :
    Patient s (s.perform r).2 := by
  refine (writes_perform r s).patient fun e he => ?_
  cases r with
  | expire name generation => cases hr
  | openSatellite | forceReopen | activate => exact (Effect.OfOpening.quiet he).1
  | close | closeAll | mainWindowClosed => exact (Effect.OfClosing.isDiscreet he).timedOut
  | register | flush | registerChild | unregisterChild | invoke | dispatchEvent | dispatchCommand =>
    exact (Effect.OfTelling.quiet he).1
  | installCalls | updateSession | isOpen | metrics => cases he

/-- Requests only add to the journal, and only ask the desktop things. -/
theorem leads_perform (r : Request) (s : Scene σ) : Leads s (s.perform r).2 :=
  (writes_perform r s).leads

/-- The journal of a run begins with the journal that was there before. -/
theorem journal_run (moves : List (Move σ)) (s : Scene σ) :
    s.journal <+: (s.run moves).journal := by
  induction moves generalizing s with
  | nil => exact List.prefix_rfl
  | cons m rest ih =>
    have hmove : s.journal <+: (s.move m).journal := by
      cases m with
      | request r => exact (leads_perform r s).journal
      | shift change => exact List.prefix_rfl
    exact hmove.trans (ih (s.move m))

/-! ## What a request makes of the handshake -/

/-- Only dispatches send something to all satellites. -/
theorem move_of_broadcasts {m : Move σ} {s : Scene σ} (h : (s.happening m).broadcasts = true) :
    (∃ e, m = .request (.dispatchEvent e)) ∨ ∃ c, m = .request (.dispatchCommand c) := by
  cases m with
  | shift change => cases h
  | request r =>
    have hopening : (s.meaningOfOpening r).broadcasts = false := by
      unfold meaningOfOpening
      split <;> rfl
    cases r with
    | dispatchEvent e => exact .inl ⟨e, rfl⟩
    | dispatchCommand c => exact .inr ⟨c, rfl⟩
    | openSatellite name params preferred => exact absurd h (hopening ▸ Bool.false_ne_true)
    | forceReopen name params => exact absurd h (hopening ▸ Bool.false_ne_true)
    | expire name generation =>
      simp only [happening, meaning] at h
      split at h <;> cases h
    | invoke operation caller =>
      simp only [happening, meaning] at h
      split at h <;> cases h
    | _ => cases h

/-- What was asked for shows in the journal. -/
theorem asked_eq (r : Request) (s : Scene σ) :
    (s.perform r).2.journal.openRequests = s.journal.openRequests ++ s.asked r := by
  obtain ⟨news, hnews⟩ := (leads_perform r s).journal
  unfold asked
  rw [← hnews, Journal.openRequests_append, List.drop_left]

/-- A discreet course of things asks for nothing. -/
theorem Discreet.asked_eq_nil {s : Scene σ} {r : Request} (h : Discreet s (s.perform r).2) :
    s.asked r = [] :=
  List.append_cancel_left
    ((asked_eq r s).symm.trans (h.openRequests.trans (List.append_nil _).symm))

/-- A request that comes down to asking for a window, once everything calm has been done, is a
fresh opening. -/
theorem turn_of_openAnew {r : Request} {s t : Scene σ} {name : String} {params : Option Payload}
    {placement : Placement} (hcalm : Calm s t)
    (heq : (s.perform r).2 = (t.openAnew name params placement).2) :
    s.meaningOfOpening r = .opened name (s.handshake.generation + 1) ∧
      (s.perform r).2.handshake = s.handshake.expect name := by
  have hasked : s.asked r = [t.requestFor name placement] := by
    have hnew := openRequests_openAnew name params placement t
    rw [← heq, asked_eq, hcalm.openRequests] at hnew
    exact List.append_cancel_left hnew
  have hhandshake : (s.perform r).2.handshake = s.handshake.expect name := by
    rw [heq, handshake_openAnew, hcalm.handshake]
  have hgeneration : (s.perform r).2.fleet.generation = s.handshake.generation + 1 :=
    congrArg Handshake.generation hhandshake
  refine ⟨?_, hhandshake⟩
  unfold meaningOfOpening
  rw [hasked, hgeneration]
  rfl

/-- A request to open that is calm means nothing for the handshake. -/
theorem Calm.meaningOfOpening_eq {r : Request} {s : Scene σ} (h : Calm s (s.perform r).2) :
    s.meaningOfOpening r = .other := by
  unfold meaningOfOpening
  rw [h.asked_eq_nil]

/-- Satellites are opened anew, or nothing comes of it for the handshake. -/
theorem turn_openSatellite (name : String) (params : Option Payload) (preferred : Size)
    (s : Scene σ) :
    Turn (s.meaning (.openSatellite name params preferred)) s.handshake
      (s.perform (.openSatellite name params preferred)).2.handshake := by
  rcases openPlaced_cases name params (.fit preferred) s with ⟨hcalm, -⟩ | ⟨t, hcalm, heq⟩
  · have hsame : Calm s (s.perform (.openSatellite name params preferred)).2 := hcalm
    show Turn (s.meaningOfOpening _) _ _
    rw [hsame.meaningOfOpening_eq, hsame.handshake]
    exact .idle _
  · obtain ⟨hmeaning, hhandshake⟩ :=
      turn_of_openAnew (r := .openSatellite name params preferred) hcalm (congrArg Prod.snd heq)
    show Turn (s.meaningOfOpening _) _ _
    rw [hmeaning, hhandshake]
    exact .opened name _

/-- The request to open a satellite is answered with the number of an opening and means it, or it
means nothing for the handshake. -/
theorem opening_cases (name : String) (params : Option Payload) (preferred : Size)
    (s : Scene σ) :
    (∃ g, (s.perform (.openSatellite name params preferred)).1 = .ok (.opening (.opened g)) ∧
      s.meaning (.openSatellite name params preferred) = .opened name g) ∨
    ((∀ g, (s.perform (.openSatellite name params preferred)).1 ≠ .ok (.opening (.opened g))) ∧
      s.meaning (.openSatellite name params preferred) = .other) := by
  have hmeaning : s.meaning (.openSatellite name params preferred) =
      s.meaningOfOpening (.openSatellite name params preferred) := rfl
  have hanswer : (s.perform (.openSatellite name params preferred)).1 =
      (s.openPlaced name params (.fit preferred)).1.map .opening := rfl
  rw [hmeaning, hanswer]
  rcases openPlaced_cases name params (.fit preferred) s with ⟨hcalm, hnot⟩ | ⟨t, hcalm, heq⟩
  · have hsame : Calm s (s.perform (.openSatellite name params preferred)).2 := hcalm
    refine .inr ⟨fun g h => ?_, hsame.meaningOfOpening_eq⟩
    cases hopen : (s.openPlaced name params (.fit preferred)).1 with
    | error f =>
      rw [hopen] at h
      cases h
    | ok o =>
      rw [hopen] at h
      cases h
      exact hnot g hopen
  · obtain ⟨hopened, -⟩ :=
      turn_of_openAnew (r := .openSatellite name params preferred) hcalm (congrArg Prod.snd heq)
    have hgeneration : t.fleet.generation = s.handshake.generation :=
      congrArg Handshake.generation hcalm.handshake
    refine .inl ⟨s.handshake.generation + 1, ?_, hopened⟩
    rw [heq, ← hgeneration]
    rfl

/-- The request to open a satellite is answered with the number of an opening exactly if it means
that opening. -/
theorem answer_eq_opened_iff {name : String} {params : Option Payload} {preferred : Size}
    {s : Scene σ} {g : Nat} :
    (s.perform (.openSatellite name params preferred)).1 = .ok (.opening (.opened g)) ↔
      s.meaning (.openSatellite name params preferred) = .opened name g := by
  rcases opening_cases name params preferred s with ⟨k, hanswer, hmeaning⟩ | ⟨hanswer, hmeaning⟩
  · rw [hanswer, hmeaning]
    constructor
    · intro h
      cases h
      rfl
    · intro h
      cases h
      rfl
  · rw [hmeaning]
    exact ⟨fun h => absurd h (hanswer g), fun h => by cases h⟩

/-- Satellites that are forced open again are opened anew, or nothing comes of it. -/
theorem turn_forceReopen (name : String) (params : Option Payload) (s : Scene σ) :
    Turn (s.meaning (.forceReopen name params)) s.handshake
      (s.perform (.forceReopen name params)).2.handshake := by
  rcases forceReopen_cases name params s with hcalm | ⟨t, placement, hcalm, heq⟩
  · have hsame : Calm s (s.perform (.forceReopen name params)).2 := hcalm
    show Turn (s.meaningOfOpening _) _ _
    rw [hsame.meaningOfOpening_eq, hsame.handshake]
    exact .idle _
  · obtain ⟨hmeaning, hhandshake⟩ :=
      turn_of_openAnew (r := .forceReopen name params) hcalm heq
    show Turn (s.meaningOfOpening _) _ _
    rw [hmeaning, hhandshake]
    exact .opened name _

omit [Desktop σ] in
/-- Openings are given up, or at most their number is forgotten. -/
theorem turn_expire (name : String) (generation : Nat) (s : Scene σ) :
    Turn (if (s.expire name generation).1 then .expired name generation else .other) s.handshake
      (s.expire name generation).2.handshake := by
  split
  · next h =>
    obtain ⟨hawaited, hholding⟩ := (expire_fst name generation s).mp h
    rw [(expire_of_awaited h).1]
    exact .expired name generation _ hawaited hholding
  · next h =>
    rcases expire_of_not_awaited (by simpa using h) with hsame | ⟨hholding, herase⟩
    · rw [hsame]
      exact .idle _
    · rw [herase]
      exact .lapsed name _ hholding

/-- A call makes of the handshake what the operation of its name makes of it. -/
theorem turn_invoke (operation : String) (caller : Caller) (s : Scene σ) :
    Turn (s.meaning (.invoke operation caller)) s.handshake
      (s.invoke operation caller).2.handshake := by
  have hserved := served_invoke operation caller s
  generalize s.meaning (.invoke operation caller) = x at hserved ⊢
  generalize (s.invoke operation caller).2 = t at hserved ⊢
  cases hserved with
  | registered w =>
    rw [handshake_register]
    exact .registered caller.name w _
  | flushed =>
    rw [handshake_flush]
    exact .flushed caller.name _
  | childOpened | childClosed | refused => exact .idle _

/-- What a request makes of the handshake is what it means. -/
theorem turn_perform (r : Request) (s : Scene σ) :
    Turn (s.meaning r) s.handshake (s.perform r).2.handshake := by
  cases r with
  | openSatellite name params preferred => exact turn_openSatellite name params preferred s
  | forceReopen name params => exact turn_forceReopen name params s
  | activate name =>
    show Turn .other s.handshake (s.activate name).handshake
    rw [(calm_activate name s).handshake]
    exact .idle _
  | close name =>
    show Turn (.closed name) s.handshake (s.closeSatellite name).handshake
    rw [handshake_closeSatellite]
    exact .closed name _
  | closeAll =>
    show Turn .allClosed s.handshake s.closeAll.handshake
    rw [handshake_closeAll]
    exact .allClosed _
  | mainWindowClosed =>
    show Turn .allClosed s.handshake s.closeAll.handshake
    rw [handshake_closeAll]
    exact .allClosed _
  | register name w =>
    show Turn (.registered name w) s.handshake (s.register name w).handshake
    rw [handshake_register]
    exact .registered name w _
  | flush name =>
    show Turn (.flushed name) s.handshake (s.flush name).handshake
    rw [handshake_flush]
    exact .flushed name _
  | registerChild name w => exact .idle _
  | unregisterChild windowName => exact .idle _
  | installCalls => exact .idle _
  | invoke operation caller => exact turn_invoke operation caller s
  | dispatchEvent e =>
    show Turn (.dispatched e) s.handshake (s.dispatchEvent e).handshake
    rw [handshake_dispatchEvent, handshake_broadcast]
    refine .dispatched e _ _ ?_
    exact List.filter_sublist.trans List.filter_sublist
  | dispatchCommand c =>
    show Turn (.commanded c) s.handshake (s.dispatchCommand c).handshake
    rw [handshake_dispatchCommand, handshake_broadcast]
    refine .commanded c _ _ ?_
    exact List.filter_sublist.trans List.filter_sublist
  | updateSession snapshot => exact .idle _
  | expire name generation => exact turn_expire name generation s
  | isOpen name => exact .idle _
  | metrics => exact .idle _

/-- What a move makes of the handshake is what it means. -/
theorem turn_move (m : Move σ) (s : Scene σ) :
    Turn (s.happening m) s.handshake (s.move m).handshake := by
  cases m with
  | request r => exact turn_perform r s
  | shift change => exact .idle _

end Scene

/-- What a history makes of the state of the handshake, turn after turn. -/
inductive Course (h : Handshake) : List Happening → Handshake → Prop where
  | nil : Course h [] h
  | next {hs : List Happening} {x : Happening} {k l : Handshake} :
      Course h hs k → Turn x k l → Course h (hs ++ [x]) l

namespace Course

/-- Two courses of which one begins where the other ended are one course. -/
theorem trans {h k l : Handshake} {hs ks : List Happening} (hk : Course h hs k)
    (kl : Course k ks l) : Course h (hs ++ ks) l := by
  induction kl with
  | nil => simpa using hk
  | next _ turn ih =>
    rw [← List.append_assoc]
    exact .next ih turn

/-- The state of the handshake runs its course. -/
theorem of_run {σ : Type} [Desktop σ] (moves : List (Move σ)) (s : Scene σ) :
    Course s.handshake (s.history moves) (s.run moves).handshake := by
  induction moves generalizing s with
  | nil => exact .nil
  | cons m moves ih => exact (Course.nil.next (s.turn_move m)).trans (ih (s.move m))

/-- What every turn keeps is kept over a whole course. -/
theorem induct {P : Handshake → Prop} (hturn : ∀ {x k l}, Turn x k l → P k → P l)
    {h k : Handshake} {hs : List Happening} (course : Course h hs k) (hP : P h) : P k := by
  induction course with
  | nil => exact hP
  | next _ turn ih => exact hturn turn ih

end Course

/-- No turn registers a satellite twice. -/
theorem Turn.unique {x : Happening} {h k : Handshake} (turn : Turn x h k)
    (hu : h.roster.Unique) : k.roster.Unique := by
  cases turn with
  | registered name w => exact hu.upsert ⟨name, w⟩
  | allClosed => exact Roster.unique_empty
  | dispatched e _ r kept => exact hu.of_sublist kept
  | commanded c _ r kept => exact hu.of_sublist kept
  | opened | flushed | closed | expired | idle | lapsed => exact hu

/-- On no run is a satellite registered twice. -/
theorem Scene.unique_run {σ : Type} [Desktop σ] (role : Role) (platform : Platform)
    (session : Payload) (world : σ) (moves : List (Move σ)) :
    ((start role platform session world).run moves).fleet.roster.Unique :=
  (Course.of_run moves _).induct Turn.unique Roster.unique_empty

end SatelliteWindows
