import Mathlib.Data.List.Induction
import SatelliteWindows.Proofs.Expiry.Forgotten
import SatelliteWindows.Proofs.Standing
import SatelliteWindows.Simulation

/-!
# Which openings can be given up

An opening can be given up as long as nobody has answered it. Whether that is so is not remembered
in one place: a window that registers makes the number of the opening be forgotten, and a flush
makes an end of holding back events. The run so far tells: an opening can be given up exactly if it
is the last one of its satellite and nothing has settled it since, and it can be given up once.
-/

namespace SatelliteWindows

/-- The numbers of openings that were given before are those of openings that there have been. -/
theorem Course.generation_le {h k : Handshake} {hs : List Happening} (course : Course h hs k) :
    h.generation ≤ k.generation := by
  induction course with
  | nil => exact Nat.le_refl _
  | next _ turn ih => exact Nat.le_trans ih turn.generation_le

namespace Scene

open Happening

variable {σ : Type} [Desktop σ]

/-- No opening means that one has expired. -/
theorem meaningOfOpening_ne_expired (r : Request) (s : Scene σ) (name : String) (g : Nat) :
    s.meaningOfOpening r ≠ .expired name g := by
  unfold meaningOfOpening
  split <;> exact nofun

/-- Only a request to give up an opening can give it up. -/
theorem move_of_expired {m : Move σ} {s : Scene σ} {name : String} {g : Nat}
    (h : s.happening m = .expired name g) : m = .request (.expire name g) := by
  cases m with
  | shift change => cases h
  | request r =>
    have hmeaning : s.meaning r = .expired name g := h
    cases r with
    | openSatellite n params preferred =>
      exact absurd hmeaning (meaningOfOpening_ne_expired (.openSatellite n params preferred) s _ _)
    | forceReopen n params =>
      exact absurd hmeaning (meaningOfOpening_ne_expired (.forceReopen n params) s _ _)
    | expire n j =>
      unfold meaning at hmeaning
      dsimp only at hmeaning
      split at hmeaning
      · cases hmeaning
        rfl
      · cases hmeaning
    | invoke operation caller =>
      unfold meaning at hmeaning
      dsimp only at hmeaning
      split at hmeaning <;> cases hmeaning
    | _ => cases hmeaning

/-- A request to give up an opening that stands gives it up. -/
theorem happening_expire_of_standing {s : Scene σ} {name : String} {g : Nat}
    (h : s.handshake.Standing name g) :
    s.happening (.request (.expire name g)) = .expired name g := by
  have hgivesUp : (s.expire name g).1 = true := (expire_fst name g s).mpr h
  show (if (s.expire name g).1 then _ else _) = _
  rw [hgivesUp]
  rfl

/-- The last opening of a satellite on a run has a given number, nothing has settled it since, and
it was not to be given up yet. -/
def Unanswered (name : String) (g : Nat) (moves : List (Move σ)) (s : Scene σ) : Prop :=
  ∃ earlier opening later, moves = earlier ++ opening :: later ∧
    (s.run earlier).happening opening = .opened name g ∧
    (∀ x ∈ ((s.run earlier).move opening).history later, x.settles name = false) ∧
    .request (.expire name g) ∉ later

/-- An opening that stands goes on doing so until it is settled or to be given up. -/
theorem standing_run {name : String} {g : Nat} (moves : List (Move σ)) (s : Scene σ)
    (hstanding : s.handshake.Standing name g)
    (hsettles : ∀ x ∈ s.history moves, x.settles name = false)
    (hexpire : .request (.expire name g) ∉ moves) :
    (s.run moves).handshake.Standing name g := by
  induction moves generalizing s with
  | nil => exact hstanding
  | cons m rest ih =>
    have hnot : s.happening m ≠ .expired name g := fun h =>
      hexpire (move_of_expired h ▸ List.mem_cons_self)
    exact ih (s.move m)
      ((s.turn_move m).standing hstanding (hsettles _ List.mem_cons_self) hnot)
      (fun x hx => hsettles x (List.mem_cons_of_mem _ hx))
      fun h => hexpire (List.mem_cons_of_mem m h)

/-- Whatever happens after an opening, its number was given. -/
theorem generation_le_run {name : String} {g : Nat} {earlier later : List (Move σ)}
    {opening : Move σ} {s : Scene σ}
    (hopening : (s.run earlier).happening opening = .opened name g) :
    g ≤ (s.run (earlier ++ opening :: later)).handshake.generation := by
  have hturn := (s.run earlier).turn_move opening
  rw [hopening] at hturn
  rw [run_append, ← hturn.generation_opened.2]
  exact (Course.of_run later ((s.run earlier).move opening)).generation_le

/-- What happens last leaves an opening unanswered, unless it settles it or gives it up. -/
theorem Unanswered.append_singleton {name : String} {g : Nat} {moves : List (Move σ)} {s : Scene σ}
    (h : s.Unanswered name g moves) {m : Move σ}
    (hsettles : ((s.run moves).happening m).settles name = false)
    (hexpire : m ≠ .request (.expire name g)) : s.Unanswered name g (moves ++ [m]) := by
  obtain ⟨earlier, opening, later, rfl, hopening, hlater, hnot⟩ := h
  have hsplit : s.run (earlier ++ opening :: later) =
      ((s.run earlier).move opening).run later := run_append earlier (opening :: later) s
  refine ⟨earlier, opening, later ++ [m], by simp, hopening, fun x hx => ?_, fun hm => ?_⟩
  · rw [history_append] at hx
    rcases List.mem_append.mp hx with hx | hx
    · exact hlater x hx
    · rw [List.mem_singleton.mp hx, ← hsplit]
      exact hsettles
  · rcases List.mem_append.mp hm with hm | hm
    · exact hnot hm
    · exact hexpire (List.mem_singleton.mp hm).symm

/-- An opening that stands after a run that began without any is unanswered. -/
theorem unanswered_of_standing {s : Scene σ} (hnone : s.fleet.awaited = NameMap.empty)
    {name : String} {g : Nat} {moves : List (Move σ)}
    (hstanding : (s.run moves).handshake.Standing name g) : s.Unanswered name g moves := by
  induction moves using List.reverseRecOn with
  | nil =>
    have hawaited : s.fleet.awaited.get? name = some g := hstanding.1
    rw [hnone] at hawaited
    cases hawaited
  | append_singleton init m ih =>
    have hturn := (s.run init).turn_move m
    have hlast : s.run (init ++ [m]) = (s.run init).move m := run_append init [m] s
    rw [hlast] at hstanding
    rcases hturn.standing_of hstanding with hbefore | hopened
    · have hunanswered := ih hbefore
      have hgiven : g ≤ (s.run init).handshake.generation := by
        obtain ⟨earlier, opening, later, rfl, hopening, -, -⟩ := hunanswered
        exact generation_le_run hopening
      -- what settles the opening, or gives it up, would leave it standing no longer
      have hpast : ¬ (((s.run init).happening m).settles name = true ∨
          ∃ j, (s.run init).happening m = .expired name j) := fun hx =>
        (hturn.past_of_settles hgiven hx).2 g (Nat.le_refl g) hstanding
      refine hunanswered.append_singleton ?_ ?_
      · exact Bool.eq_false_iff.mpr fun hsettles => hpast (.inl hsettles)
      · rintro rfl
        exact hpast (.inr ⟨g, happening_expire_of_standing hbefore⟩)
    · exact ⟨init, m, [], rfl, hopened, by simp [history], by simp⟩

/-- An opening stands after a run that began without any exactly if it is unanswered. -/
theorem standing_iff_unanswered {s : Scene σ} (hnone : s.fleet.awaited = NameMap.empty)
    (name : String) (g : Nat) (moves : List (Move σ)) :
    (s.run moves).handshake.Standing name g ↔ s.Unanswered name g moves := by
  refine ⟨unanswered_of_standing hnone, ?_⟩
  rintro ⟨earlier, opening, later, rfl, hopening, hsettles, hexpire⟩
  have hturn := (s.run earlier).turn_move opening
  rw [hopening] at hturn
  rw [run_append]
  exact standing_run later _ hturn.standing_of_opened hsettles hexpire

/-! ## What is answered and done -/

/-- What it is to give up the opening of a satellite: what is held back for it is dropped and
reported, and nothing else that can be noticed changes. -/
structure GivesUp (name : String) (s t : Scene σ) : Prop where
  /-- Events are held back for the satellite no more. -/
  released : t.fleet.isHolding name = false
  /-- The one thing done is to report how many events were held back. -/
  reported : t.journal = s.journal ++ [.report (.openTimedOut name (s.fleet.backlog.count name))]
  /-- One more opening was given up. -/
  counted : t.fleet.tally = { s.fleet.tally with openTimeouts := s.fleet.tally.openTimeouts + 1 }
  /-- The desktop is the same. -/
  world : t.world = s.world
  /-- The same windows are registered. -/
  roster : t.fleet.roster = s.fleet.roster
  /-- The same parameters are kept. -/
  startup : t.fleet.startup = s.fleet.startup
  /-- The same is held back for other satellites, and they are awaited as before. -/
  others : ∀ other, other ≠ name → t.fleet.backlog.queue? other = s.fleet.backlog.queue? other ∧
    t.fleet.awaited.get? other = s.fleet.awaited.get? other

/-- Nobody can tell one scene from another: they are the same but for numbers of openings, they stay
so whatever happens to both, and whatever is asked of them is answered in the same way. -/
def NotTold (s t : Scene σ) : Prop :=
  ∀ later, (∃ b, t.run later = (s.run later).awaiting b) ∧
    ∀ r, ((t.run later).perform r).1 = ((s.run later).perform r).1

omit [Desktop σ] in
/-- A request to give up an opening that says it did so has given up the opening. -/
theorem givesUp_expire {name : String} {g : Nat} {s : Scene σ}
    (h : (s.expire name g).1 = true) : GivesUp name s (s.expire name g).2 := by
  obtain ⟨hawaited, hholding⟩ := (expire_fst name g s).mp h
  have hafter : (s.expire name g).2 = ((s.alter fun f => { f with
      backlog := f.backlog.release name
      awaited := f.awaited.erase name }).count fun t =>
        { t with openTimeouts := t.openTimeouts + 1 }).report
          (.openTimedOut name (s.fleet.backlog.count name)) := by
    unfold expire
    rw [if_pos hawaited]
    dsimp only
    rw [if_pos hholding]
    rfl
  rw [hafter]
  refine ⟨?_, rfl, rfl, rfl, rfl, rfl, fun other hne => ⟨?_, ?_⟩⟩
  · have hqueue : (s.fleet.backlog.release name).queue? name = none := by
      rw [Backlog.queue?_release, if_pos rfl]
    exact congrArg Option.isSome hqueue
  · exact (Backlog.queue?_release _ name other).trans (if_neg hne)
  · exact (NameMap.get?_erase _ name other).trans (if_neg hne)

/-- A request to give up an opening that says it did not do so may as well not have been made. -/
theorem notTold_expire {name : String} {g : Nat} {s : Scene σ}
    (h : (s.expire name g).1 = false) : NotTold s (s.expire name g).2 := by
  obtain ⟨a, hafter, hknows⟩ := expire_forgets h
  rw [hafter]
  intro later
  obtain ⟨b, hrun, hb⟩ := run_unnoticed later hknows
  refine ⟨⟨b, hrun⟩, fun r => ?_⟩
  obtain ⟨d, hperform, -⟩ := perform_unnoticed hb r
  rw [hrun, hperform]
  rfl

/-- On every run, a request to give up an opening succeeds exactly if the opening is the last one of
its satellite and nobody has answered it. Then the opening is given up; otherwise nothing comes of
the request. -/
theorem expire_iff_unanswered (role : Role) (platform : Platform) (session : Payload) (world : σ)
    (moves : List (Move σ)) (name : String) (g : Nat) :
    let first := start role platform session world
    let s := first.run moves
    ((s.expire name g).1 = true ↔ first.Unanswered name g moves) ∧
      ((s.expire name g).1 = true → GivesUp name s (s.expire name g).2) ∧
      ((s.expire name g).1 = false → NotTold s (s.expire name g).2) := by
  intro first s
  refine ⟨?_, givesUp_expire, notTold_expire⟩
  rw [← standing_iff_unanswered rfl]
  exact expire_fst name g s

end Scene

end SatelliteWindows
