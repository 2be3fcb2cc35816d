import SatelliteWindows.Proofs.Scenario.Rounds.Parties

/-!
# What the script leaves undone

Nor does the script leave anything undone in its turn. It has one letter under way at most, and it
waits for something whenever its turn is over.
-/

namespace SatelliteWindows.Run

/-- The script is at work, and none of its letters is under way. -/
structure AtWork (capacity : Nat) (r : Run) : Prop extends Live capacity (some .script) r where
  /-- The coordinator does not stop before the last letter. -/
  running : r.coordinator.running = true
  /-- No letter is under way. -/
  none_own : r.mailbox.letters.filter Letter.isOwn = []

namespace AtWork

variable {capacity : Nat} {r r' : Run}

/-- What the script does of its own accord. -/
theorem alike (h : AtWork capacity r) (mailbox : r'.mailbox = r.mailbox)
    (turns : r'.turns = r.turns) (running : r'.coordinator.running = r.coordinator.running)
    (clock : r'.clock = r.clock) (heardOut : r'.heardOut = r.heardOut)
    (watcher : r'.watcher = r.watcher) (hold : r'.script.hold = r.script.hold) :
    AtWork capacity r' :=
  ⟨h.toLive.alike mailbox turns running clock heardOut watcher hold (.inl rfl),
    running.trans h.running, mailbox ▸ h.none_own⟩

/-- The script waits for something else. -/
theorem hold (h : AtWork capacity r) (hold : Hold) (guests : .script ∈ r.mailbox.guests →
      (∃ request, hold = .place request) ∨ hold = .farewell)
    (dismissal : hold = .watcher →
      r.watcher.watch = .over ∨ r.watcher.dismissed = true ∧ r.Attends (some .script) .watcher)
    (own : hold.Owns true []) : Live capacity (some .script) (r.hold hold) := by
  refine h.toLive.settle r.mailbox r.turns hold h.mailbox (fun _ => id)
    (fun q hq => ?_) (fun q hq => ?_) .inl dismissal ?_ (fun hoff => ?_) (.inl (.inl rfl))
    (.inl rfl)
  · exact .inl hq
  · cases q with
    | script => exact guests hq
    | _ => exact h.guests _ hq
  · rw [h.running, h.none_own]
    exact own
  · exact absurd (hoff.symm.trans h.running) Bool.false_ne_true

/-- The script puts a letter of its own into a place that it took. -/
theorem put (h : AtWork capacity r) (place : (r.mailbox.reserve .script).1 = true) (letter : Letter)
    (hold : Hold) (hletter : letter.isOwn = true) (own : hold.Owns true [letter])
    (hwatcher : hold ≠ .watcher) :
    Live capacity (some .script) ((r.send .script letter).2.hold hold) := by
  obtain ⟨hsound, hguests⟩ := h.mailbox.put place letter
  rw [send_of_place place]
  refine h.toLive.settle _ _ hold hsound (fun q hq => hq.wake .coordinator)
    (fun q hq => .inl (Mailbox.granted_reserve hq)) (fun q hq => ?_)
    (fun _ => .inr (Turns.expects_wake _ _)) (fun hgoes => absurd hgoes hwatcher) ?_
    (fun hoff => ?_) (.inl (.inl rfl)) (.inl rfl)
  · obtain ⟨hguest, hother⟩ := hguests q hq
    have hseeks := h.guests q hguest
    cases q with
    | script => exact absurd rfl hother
    | _ => exact hseeks
  · show hold.Owns _ (((r.mailbox.reserve .script).2.letters ++ [letter]).filter Letter.isOwn)
    rw [Mailbox.letters_reserve, List.filter_append, h.none_own, h.running]
    have hone : [letter].filter Letter.isOwn = [letter] := List.filter_cons_of_pos hletter
    rw [hone]
    exact own
  · exact absurd (hoff.symm.trans h.running) Bool.false_ne_true

/-- The script waits for a place. -/
theorem wait (h : AtWork capacity r) (full : (r.mailbox.reserve .script).1 = false)
    (letter : Letter) (hold : Hold)
    (guests : (∃ request, hold = .place request) ∨ hold = .farewell) :
    Live capacity none ((r.send .script letter).2.hold hold) := by
  obtain ⟨hsound, hguests⟩ := h.mailbox.wait full
  rw [send_of_full full]
  have hguest := Mailbox.mem_guests_of_full full
  have hwaits : Live capacity (some .script)
      ({ r with mailbox := (r.mailbox.reserve Party.script).2 }.hold hold) := by
    refine h.toLive.settle _ r.turns hold hsound (fun _ => id)
      (fun q hq => .inl (Mailbox.granted_reserve hq)) (fun q hq => ?_)
      (fun hletters => .inl (Mailbox.letters_reserve _ r.mailbox ▸ hletters))
      (fun hgoes => ?_) ?_ (fun hoff => ?_) (.inl (.inl rfl)) (.inl rfl)
    · rcases hguests q hq with hguest | rfl
      · cases q with
        | script => exact guests
        | _ => exact h.guests _ hguest
      · exact guests
    · rcases guests with ⟨request, rfl⟩ | rfl <;> cases hgoes
    · rw [Mailbox.letters_reserve, h.none_own]
      rcases guests with ⟨request, rfl⟩ | rfl <;> rfl
    · exact absurd (hoff.symm.trans h.running) Bool.false_ne_true
  refine hwaits.finish (Mailbox.not_granted_of_full full) ⟨?_, ?_⟩
  · rcases guests with ⟨request, rfl⟩ | rfl <;> exact hguest
  · rcases guests with ⟨request, rfl⟩ | rfl <;> exact nofun

/-- A script that makes a request waits for a place or for the answer. -/
theorem request (h : AtWork capacity r) (req : Request) (n : Nat) :
    Live capacity none (r.request req n) := by
  cases n with
  | zero =>
    exact (h.hold _ (fun _ => .inl ⟨req, rfl⟩) nofun rfl).rest fun _ _ hhold => by cases hhold
  | succ n =>
    simp only [Run.request]
    cases hplace : (r.mailbox.reserve .script).1 with
    | true =>
      have hsent := h.put hplace (.request .script req) (.answer none) rfl ⟨req, rfl⟩
        (Hold.noConfusion ·)
      rw [send_of_place hplace] at hsent ⊢
      dsimp only at hsent ⊢
      split
      · exact hsent.rest fun _ _ hhold => by cases hhold
      · refine hsent.finish (fun hmem => ?_) ⟨trivial, fun _ hhold => by cases hhold⟩
        exact ((h.mailbox.put hplace (.request .script req)).2 _
          (List.mem_append_right _ hmem)).2 rfl
    | false =>
      have hwaits := h.wait hplace (.request .script req) (.place req) (.inl ⟨req, rfl⟩)
      rw [send_of_full hplace] at hwaits ⊢
      exact hwaits

/-- One that sends its last letter waits for a place or for the end. -/
theorem leave (h : AtWork capacity r) : Live capacity none r.leave := by
  unfold Run.leave
  cases hplace : (r.mailbox.reserve .script).1 with
  | true =>
    have hsent := h.put hplace .farewell .ending rfl rfl nofun
    rw [send_of_place hplace] at hsent ⊢
    refine hsent.finish (fun hmem => ?_) ⟨trivial, nofun⟩
    exact ((h.mailbox.put hplace .farewell).2 _ (List.mem_append_right _ hmem)).2 rfl
  | false =>
    have hwaits := h.wait hplace .farewell .farewell (.inr rfl)
    rw [send_of_full hplace] at hwaits ⊢
    exact hwaits

/-- One that takes steps waits for something in the end. -/
theorem proceed (h : AtWork capacity r) (hguest : .script ∉ r.mailbox.guests) (n : Nat)
    (l : List Step) : Live capacity none (r.proceed n l) := by
  induction l generalizing n r with
  | nil =>
    unfold Run.proceed
    refine AtWork.request ?_ .metrics n
    exact h.alike rfl rfl rfl rfl rfl rfl rfl
  | cons s rest ih =>
    unfold Run.proceed
    dsimp only
    split
    · refine AtWork.request ?_ .metrics n
      exact h.alike rfl rfl rfl rfl rfl rfl rfl
    · refine AtWork.request ?_ _ n
      exact h.alike rfl rfl rfl rfl rfl rfl rfl
    · refine ih ?_ ?_ n
      · exact h.alike rfl rfl rfl rfl rfl rfl rfl
      · exact hguest
    · next ms _ =>
      have hpaused : ∀ time, AtWork capacity
          ({ r with script := { r.script with steps := s :: rest } }.hold (.moment time)) :=
        fun time => ⟨AtWork.hold (r := { r with script := { r.script with steps := s :: rest } })
          (h.alike rfl rfl rfl rfl rfl rfl rfl) _ (fun hmem => absurd hmem hguest)
          (fun hwaits => by cases hwaits) rfl, h.running, h.none_own⟩
      split
      · exact (hpaused _).rest fun _ _ _ => List.cons_ne_nil _ _
      · split
        · refine ih ?_ ?_ _
          · exact (hpaused _).alike rfl rfl rfl rfl rfl rfl rfl
          · exact hguest
        · next hms =>
          refine (hpaused _).finish (fun hmem => hguest (List.mem_append_right _ hmem))
            ⟨?_, fun _ _ => List.cons_ne_nil _ _⟩
          show r.clock < r.clock + delay ms
          have hpos : 0 < delay ms := by
            unfold delay longestDelay
            omega
          omega

/-- So does one that goes on behind a finished step. -/
theorem finishStep (h : AtWork capacity r) (hguest : .script ∉ r.mailbox.guests)
    (hsteps : r.script.steps ≠ []) (answer : Answer) :
    Live capacity none (r.finishStep answer) := by
  unfold Run.finishStep
  cases hcase : r.script.steps with
  | nil => exact absurd hcase hsteps
  | cons s rest =>
    refine AtWork.proceed (r := r.record s (s.outcome answer) rest) ?_ hguest _ rest
    exact h.alike rfl rfl rfl rfl rfl rfl rfl

/-- The script waits for the watcher, which it has dismissed, or leaves. -/
theorem part (h : AtWork capacity r) (hguest : .script ∉ r.mailbox.guests)
    (hwatcher : r.watcher.watch = .over ∨
      r.watcher.dismissed = true ∧ r.turns.Expects .watcher) : Live capacity none r.part := by
  unfold Run.part
  split
  · exact h.leave
  · next hwatch =>
    refine (h.hold .watcher (fun hmem => absurd hmem hguest)
      (fun _ => hwatcher.imp id (And.imp id .inr)) rfl).finish
      (fun hmem => hguest (List.mem_append_right _ hmem)) ⟨?_, nofun⟩
    exact hwatch

/-- Once the steps are over, the watcher is dismissed. -/
theorem dismiss (h : AtWork capacity r) (hguest : .script ∉ r.mailbox.guests)
    (hhold : r.script.hold ≠ .watcher) : Live capacity none r.dismiss.part := by
  unfold Run.dismiss
  split
  · next hwatch => exact h.part hguest (.inl hwatch)
  · have hwoken := h.toLive.wake .watcher
    have hdismissed : AtWork capacity
        ({ r with watcher := { r.watcher with dismissed := true } }.wake .watcher) :=
      ⟨{ hwoken with dismissal := fun hwaits => absurd hwaits hhold }, h.running, h.none_own⟩
    exact hdismissed.part hguest (.inr ⟨rfl, Turns.expects_wake .watcher r.turns⟩)

/-- So does one that has been answered. -/
theorem resume (h : AtWork capacity r) (hguest : .script ∉ r.mailbox.guests)
    (hhold : r.script.hold ≠ .watcher) (answer : Except Fault Answer) :
    Live capacity none (r.resume answer) := by
  unfold Run.resume
  split
  · refine AtWork.dismiss (r := r.conclude _) ?_ hguest hhold
    exact h.alike rfl rfl rfl rfl rfl rfl rfl
  · exact h.dismiss hguest hhold
  · next hsteps =>
    exact h.finishStep hguest (by rw [hsteps]; exact List.cons_ne_nil _ _) _
  · refine AtWork.request ?_ .metrics _
    exact h.alike rfl rfl rfl rfl rfl rfl rfl

end AtWork

namespace Live

variable {capacity : Nat} {p : Party} {r : Run}

/-- A party whose turn it is is at work. -/
theorem pop (h : Live capacity none r) {rest : List Party} (hqueue : r.turns.queue = p :: rest) :
    Live capacity (some p) { r with turns := { r.turns with queue := rest } } :=
  h.expect (fun _ hq => hq.elim nofun fun hq =>
    (hq.pop hqueue).imp (fun hself => congrArg some hself.symm) id)
    (.inr (h.pause.resolve_left nofun))

/-- A script whose turn it is is at work. -/
theorem calm (h : Live capacity none r) :
    Live capacity (some .script) { r with turns := { r.turns with scriptAwake := false } } :=
  h.expect (fun _ hq => hq.elim nofun fun hq =>
    hq.calm.imp (fun hself => congrArg some hself.symm) id) (.inl rfl)

/-- The script's turn, given that a step is at work if it has waited for a moment. -/
theorem goOn (h : Live capacity (some .script) r) (hpause : r.Pauses) :
    Live capacity none r.goOn := by
  have hown := h.own
  have hguest : (∀ request, r.script.hold ≠ .place request) → r.script.hold ≠ .farewell →
      .script ∉ r.mailbox.guests := fun hplace hfarewell hmem =>
    (h.guests _ hmem).elim (fun ⟨request, hhold⟩ => hplace request hhold) hfarewell
  -- unless it waits for an answer, a script that has not taken its leave is free to work
  have hwork : r.script.hold ≠ .ending → r.mailbox.letters.filter Letter.isOwn = [] →
      AtWork capacity r := fun hhold hnone =>
    ⟨h, by
      by_contra hoff
      exact hhold (h.stopped (by simpa using hoff)), hnone⟩
  unfold Run.goOn
  cases hhold : r.script.hold with
  | free =>
    rw [hhold] at hown hwork hguest
    exact (hwork nofun hown).proceed (hguest nofun nofun) _ _
  | place req =>
    rw [hhold] at hown hwork
    exact (hwork nofun hown).request req _
  | answer given =>
    cases given with
    | none =>
      rw [hhold] at hguest
      refine h.finish (fun hmem => hguest nofun nofun (List.mem_append_right _ hmem)) ⟨?_, hpause⟩
      unfold Waits
      rw [hhold]
      trivial
    | some answer =>
      have hwatcher : r.script.hold ≠ .watcher := by rw [hhold]; exact nofun
      rw [hhold] at hown hwork hguest
      exact (hwork nofun hown).resume (hguest nofun nofun) hwatcher answer
  | moment time =>
    have hsteps := hpause time hhold
    rw [hhold] at hown hwork hguest
    dsimp only
    split
    · exact (hwork nofun hown).finishStep (hguest nofun nofun) hsteps .done
    · next htime =>
      refine h.finish (fun hmem => hguest nofun nofun (List.mem_append_right _ hmem))
        ⟨?_, hpause⟩
      unfold Waits
      rw [hhold]
      exact Nat.lt_of_not_le htime
  | watcher =>
    have hdismissal := h.dismissal hhold
    rw [hhold] at hown hwork hguest
    refine (hwork nofun hown).part (hguest nofun nofun) ?_
    exact hdismissal.imp id (And.imp id fun hattends => hattends.resolve_left nofun)
  | farewell =>
    rw [hhold] at hown hwork
    exact (hwork nofun hown).leave
  | ending =>
    rw [hhold] at hguest
    refine h.finish (fun hmem => hguest nofun nofun (List.mem_append_right _ hmem)) ⟨?_, hpause⟩
    unfold Waits
    rw [hhold]
    trivial

end Live

end SatelliteWindows.Run
