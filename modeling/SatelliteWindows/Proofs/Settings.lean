import SatelliteWindows.CommandLine.Program

/-!
# How much is logged, and the settings that hold

The settings and the level of logging are looked up separately, in the same files. The settings come
from the first file that gives any, the level from the first file that is there. The two part in one
case only: the file in the working directory is there and gives no settings. Then the settings come
from somewhere else, and the level reads as not configured.
-/

namespace SatelliteWindows

namespace SettingsSources

variable {s : SettingsSources} {paths : List String}

/-- The user names no file, and the one in the working directory is there and gives no settings: it
cannot be read, or it holds none. -/
def PassesOver (s : SettingsSources) (named : Option String) : Prop :=
  named = none ∧ (s.look s.localPath).isThere = true ∧ (s.loadFrom s.localPath).toOption = none

instance (named : Option String) : Decidable (s.PassesOver named) :=
  inferInstanceAs (Decidable (named = none ∧ _ ∧ _))

/-! ## Files that are there, and files that give settings -/

/-- A file that gives settings is there. -/
theorem isThere_of_loadFrom {path : String} {settings : Settings}
    (h : s.loadFrom path = .ok settings) : (s.look path).isThere = true := by
  unfold loadFrom at h
  cases hlook : s.look path with
  | text content => rfl
  | absent | unreadable => simp only [hlook, reduceCtorEq] at h

/-- Without a file that is there the defaults hold. -/
theorem loadFirst_of_none_there (h : paths.find? (fun p => (s.look p).isThere) = none) :
    s.loadFirst paths = {} := by
  induction paths with
  | nil => rfl
  | cons path rest ih =>
    have hnone := List.find?_eq_none.mp h
    rw [loadFirst]
    cases hload : s.loadFrom path with
    | error cause =>
      exact ih (List.find?_eq_none.mpr fun p hp => hnone p (List.mem_cons_of_mem path hp))
    | ok settings => exact absurd (isThere_of_loadFrom hload) (hnone path List.mem_cons_self)

/-- The first file that is there gives the settings, if it gives any. -/
theorem loadFirst_of_first_there {path : String} {settings : Settings}
    (h : paths.find? (fun p => (s.look p).isThere) = some path)
    (hload : s.loadFrom path = .ok settings) : s.loadFirst paths = settings := by
  induction paths with
  | nil => cases h
  | cons first rest ih =>
    rw [loadFirst]
    cases hfirst : (s.look first).isThere with
    | true =>
      obtain rfl : first = path := by simpa [hfirst] using h
      rw [hload]
    | false =>
      have hrest : rest.find? (fun p => (s.look p).isThere) = some path := by
        simpa [hfirst] using h
      cases hgives : s.loadFrom first with
      | error cause => exact ih hrest
      | ok other => rw [isThere_of_loadFrom hgives] at hfirst; cases hfirst

/-! ## The two lookups side by side -/

/-- From a file that the user names the level is that of its settings. -/
theorem logLevel_named {path : String} {settings : Settings}
    (h : s.load (some path) = .ok settings) : s.logLevel (some path) = settings.logLevel := by
  have hload : s.loadFrom path = .ok settings := by
    rw [load] at h
    split at h
    · next found hfound => exact hfound.trans (congrArg _ (Except.ok.inj h))
    · cases h
  have hfind : [path].find? (fun p => (s.look p).isThere) = some path := by
    simp [isThere_of_loadFrom hload]
  simp [logLevel, hfind, hload, Except.toOption]

/-- If the first file that is there gives settings, or is the last to be tried, the level is that of
the settings that hold. -/
theorem logLevel_unnamed (h : ¬s.PassesOver none) :
    s.logLevel none = (s.loadFirst s.candidates).logLevel := by
  cases hfind : s.candidates.find? (fun p => (s.look p).isThere) with
  | none => simp [logLevel, hfind, loadFirst_of_none_there hfind]
  | some path =>
    have hlevel : s.logLevel none = (s.loadFrom path).toOption.bind Settings.logLevel := by
      simp [logLevel, hfind]
    rw [hlevel]
    cases hload : s.loadFrom path with
    | ok settings => rw [loadFirst_of_first_there hfind hload]; rfl
    | error cause =>
      -- The local file is not the one, so it is absent and nothing is left to be loaded.
      have hlocal : (s.look s.localPath).isThere = false := by
        refine Bool.eq_false_iff.mpr fun hthere => h ⟨rfl, hthere, ?_⟩
        obtain rfl : s.localPath = path := by simpa [candidates, hthere] using hfind
        rw [hload]
        rfl
      obtain rfl : s.userPath = path := by
        simp only [candidates, List.find?_cons, hlocal] at hfind
        split at hfind
        · exact Option.some.inj hfind
        · cases hfind
      have hnothing : s.loadFirst s.candidates = {} := by
        simp only [candidates, loadFirst, hload]
        split
        · next settings hgives => rw [isThere_of_loadFrom hgives] at hlocal; cases hlocal
        · rfl
      rw [hnothing]
      rfl

/-- A file in the working directory that gives no settings hides those of the user: no level is
found. -/
theorem logLevel_of_passesOver {named : Option String} (h : s.PassesOver named) :
    s.logLevel named = none := by
  obtain ⟨rfl, hthere, hfails⟩ := h
  have hfind : s.candidates.find? (fun p => (s.look p).isThere) = some s.localPath := by
    simp [candidates, hthere]
  simp [logLevel, hfind, hfails]

/-- Once the settings are loaded, the level that was looked up before is theirs, unless the file in
the working directory was passed over on the way to them; then no level was found. So the two
lookups differ exactly if that file was passed over and the settings that hold set a level. The
level in force is the one on the command line, and otherwise this one. -/
theorem logLevel_of_load {named : Option String} {settings : Settings}
    (h : s.load named = .ok settings) :
    (¬s.PassesOver named → s.logLevel named = settings.logLevel ∧
      ∀ a : Arguments, a.settings = named →
        Program.wantedLevel s a = (a.logLevel <|> settings.logLevel)) ∧
    (s.PassesOver named → s.logLevel named = none ∧
      ∀ a : Arguments, a.settings = named → Program.wantedLevel s a = a.logLevel) ∧
    (s.logLevel named ≠ settings.logLevel ↔ s.PassesOver named ∧ settings.logLevel ≠ none) := by
  have hagree : ¬s.PassesOver named → s.logLevel named = settings.logLevel := by
    intro hpasses
    cases named with
    | some path => exact logLevel_named h
    | none => rw [logLevel_unnamed hpasses, Except.ok.inj h]
  refine ⟨fun hpasses => ⟨hagree hpasses, ?_⟩, fun hpasses => ⟨logLevel_of_passesOver hpasses, ?_⟩,
    ?_⟩
  · rintro a rfl
    rw [Program.wantedLevel, hagree hpasses]
  · rintro a rfl
    rw [Program.wantedLevel, logLevel_of_passesOver hpasses]
    cases a.logLevel <;> rfl
  · constructor
    · intro hdiffer
      have hpasses : s.PassesOver named :=
        Decidable.not_not.mp fun hpasses => hdiffer (hagree hpasses)
      exact ⟨hpasses, fun hnone => hdiffer ((logLevel_of_passesOver hpasses).trans hnone.symm)⟩
    · rintro ⟨hpasses, hset⟩ heq
      exact hset (heq.symm.trans (logLevel_of_passesOver hpasses))

/-- The user's own settings ask for a thorough log; the file in the working directory, if any, has
the given text. -/
def thorough (localText : Option String) : SettingsSources where
  look path :=
    if path = "user.yml" then .text "log-level: debug\n"
    else if path = ".satellite-manager.yml" then (localText.map FileState.text).getD .absent
    else .absent
  userPath := "user.yml"

/-- Without a file in the working directory the level is the user's. A file there that holds no
settings is passed over: the user's settings hold all the same, but their level is not in force. -/
theorem logLevel_of_thorough :
    (thorough none).logLevel none = some "debug" ∧
    (thorough (some "[")).load none = .ok { logLevel := some "debug" } ∧
    (thorough (some "[")).PassesOver none ∧ (thorough (some "[")).logLevel none = none ∧
    Program.wantedLevel (thorough (some "[")) ⟨.showSettings, none, some "warn"⟩ = some "warn" := by
  have habsent : (thorough none).load none = .ok { logLevel := some "debug" } :=
    congrArg Except.ok (by decide +kernel)
  have hbroken : (thorough (some "[")).load none = .ok { logLevel := some "debug" } :=
    congrArg Except.ok (by decide +kernel)
  have hpasses : (thorough (some "[")).PassesOver none := by decide +kernel
  obtain ⟨hnone, hwanted⟩ := (logLevel_of_load hbroken).2.1 hpasses
  exact ⟨((logLevel_of_load habsent).1 (by decide +kernel)).1, hbroken, hpasses, hnone,
    hwanted _ rfl⟩

/-- The two lookups do not always agree: where a file in the working directory that holds no
settings is passed over, the user's settings hold, with their level, and yet no level is found. -/
theorem lookups_disagree :
    ¬∀ (s : SettingsSources) (named : Option String) (settings : Settings),
      s.load named = .ok settings → s.logLevel named = settings.logLevel := by
  intro h
  have hload : (thorough (some "[")).load none = .ok { logLevel := some "debug" } :=
    congrArg Except.ok (by decide +kernel)
  have hlevel : (thorough (some "[")).logLevel none = none := by decide +kernel
  exact absurd (hlevel.symm.trans (h _ none _ hload)) (by decide)

end SettingsSources

end SatelliteWindows
