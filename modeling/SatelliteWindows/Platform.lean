import SatelliteWindows.Datum

/-!
# Where the main window runs

A satellite that is opened again while its window is alive is brought to the front in the way the
platform allows. A native shell raises windows by name. A browser lets one window focus another,
unless its engine ignores such requests: then the window has to be opened anew.
-/

namespace SatelliteWindows

/-- The engine of a browser. -/
inductive Engine where
  /-- Ignores it when a window focuses another one. -/
  | chromium
  /-- Lets windows focus each other. -/
  | gecko
  /-- Lets windows focus each other. -/
  | webKit
  /-- Taken to let windows focus each other. -/
  | other
  deriving DecidableEq, Repr, Inhabited

/-- The environment of the main window. -/
inductive Platform where
  /-- A shell that raises windows by name. -/
  | nativeShell
  /-- A browser with the given engine. -/
  | browser (engine : Engine)
  deriving DecidableEq, Repr

/-- What is done with a live window when its satellite is opened again. -/
inductive Reactivation where
  /-- The shell raises the window by name. -/
  | hostActivate
  /-- The window is focused. -/
  | refocus
  /-- The window is warned, and another one is asked for. -/
  | reopen
  deriving DecidableEq, Repr

namespace Engine

/-- Whether a window may focus another one. -/
def allowsFocus : Engine → Bool
  | .chromium => false
  | _ => true

/-- The engines, in order of declaration. -/
def all : List Engine := [.chromium, .gecko, .webKit, .other]

/-- The written name of an engine. -/
def name : Engine → String
  | .chromium => "chromium"
  | .gecko => "gecko"
  | .webKit => "web-kit"
  | .other => "other"

/-- The written form of an engine. -/
def encode (e : Engine) : Payload := .text e.name

/-- The engine of a name. -/
def ofName (s : String) : Except DecodeError Engine :=
  match all.find? (fun e => e.name == s) with
  | some e => .ok e
  | none => .error (.unknownTag s)

/-- The engine that the only key of a record names; a number names the engine at that place. -/
def ofKey : Datum → Except DecodeError Engine
  | .text s => ofName s
  | .int i =>
    if i < 0 then .error .wrongType
    else match all[i.toNat]? with
      | some e => .ok e
      | none => .error .outOfRange
  | _ => .error .wrongType

/-- The engine that a datum stands for: its name, or a record with the name as only key and nothing
as its value. -/
def decode : Datum → Except DecodeError Engine
  | .text s => ofName s
  | .record [(key, .null)] => ofKey key
  | _ => .error .wrongType

/-- An engine inside a platform may also have the empty record for the value of its name. -/
def decodeNested : Datum → Except DecodeError Engine
  | .record [(key, .record [])] => ofKey key
  | d => decode d

end Engine

namespace Platform

/-- A browser of unknown engine is assumed. -/
def default : Platform := .browser .other

instance : Inhabited Platform := ⟨default⟩

/-- How the platform lets a live window be brought to the front. -/
def reactivation : Platform → Reactivation
  | .nativeShell => .hostActivate
  | .browser engine => if engine.allowsFocus then .refocus else .reopen

/-- Whether the platform is a native shell. -/
def isNativeShell : Platform → Bool
  | .nativeShell => true
  | .browser _ => false

/-- The name of the kind of platform, which is also the tag of its written form. -/
def kind : Platform → String
  | .nativeShell => "native-shell"
  | .browser _ => "browser"

/-- The fields of the written form besides the tag. -/
def encodeFields : Platform → List (String × Payload)
  | .nativeShell => []
  | .browser engine => [("engine", engine.encode)]

/-- The written form of a platform. -/
def encode (p : Platform) : Payload := .record (("kind", .text p.kind) :: p.encodeFields)

/-- The platform that a datum stands for; a browser's engine may be left out. -/
def decode (d : Datum) : Except DecodeError Platform := do
  let (kind, body) ← d.tagged "kind"
  match kind with
  | "native-shell" =>
    body.noFields
    return .nativeShell
  | "browser" =>
    let fields ← body.fields ["engine"]
    return .browser (← fieldOr Engine.decodeNested "engine" .other fields)
  | other => throw (.unknownTag other)

end Platform

end SatelliteWindows
