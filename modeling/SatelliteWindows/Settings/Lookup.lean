import SatelliteWindows.Directory
import SatelliteWindows.Settings.Text

/-!
# Where settings are looked for

Settings are taken from the file that the user names, and nothing else will do then. Otherwise they
are taken from a file in the working directory or, if there is none that can be used, from one among
the user's own settings; without any of them the defaults hold.

How much is logged is settled before the settings are loaded, and from one file only: the first one
that is there.
-/

namespace SatelliteWindows

/-- Where settings may be found. -/
structure SettingsSources where
  /-- What is found under a path. -/
  look : String → FileState
  /-- The file in the working directory. -/
  localPath : String := ".satellite-manager.yml"
  /-- The file among the user's own settings. -/
  userPath : String

/-- Why a file does not give settings. -/
inductive SettingsFault where
  /-- It cannot be read. -/
  | unreadable
  /-- It does not hold settings. -/
  | malformed
  deriving DecidableEq, Repr

/-- The fault in words. -/
def SettingsFault.message : SettingsFault → String
  | .unreadable => "Failed to read config file"
  | .malformed => "Failed to parse config file"

/-- Settings could not be loaded from a file. -/
structure LoadFault where
  /-- The file. -/
  path : String
  /-- What was wrong with it. -/
  cause : SettingsFault
  deriving DecidableEq, Repr

/-- The fault in words. -/
def LoadFault.message (f : LoadFault) : String := "Failed to load config from " ++ f.path

namespace SettingsSources

/-- The settings in a file. -/
def loadFrom (s : SettingsSources) (path : String) : Except SettingsFault Settings :=
  match s.look path with
  | .text content =>
    match Settings.ofText content with
    | .ok settings => .ok settings
    | .error _ => .error .malformed
  | .absent | .unreadable => .error .unreadable

/-- The files that are tried when the user names none. -/
def candidates (s : SettingsSources) : List String := [s.localPath, s.userPath]

/-- The settings in the first file that gives any, or the defaults. -/
def loadFirst (s : SettingsSources) : List String → Settings
  | [] => {}
  | path :: rest =>
    match s.loadFrom path with
    | .ok settings => settings
    | .error _ => s.loadFirst rest

/-- The settings that hold. -/
def load (s : SettingsSources) (named : Option String) : Except LoadFault Settings :=
  match named with
  | some path =>
    match s.loadFrom path with
    | .ok settings => .ok settings
    | .error cause => .error ⟨path, cause⟩
  | none => .ok (s.loadFirst s.candidates)

/-- How much is logged, according to the first file that is there. -/
def logLevel (s : SettingsSources) (named : Option String) : Option String := do
  let paths := match named with
    | some path => [path]
    | none => s.candidates
  let path ← paths.find? fun path => (s.look path).isThere
  let settings ← (s.loadFrom path).toOption
  settings.logLevel

end SettingsSources

end SatelliteWindows
