import SatelliteWindows.Scenario.Stage

/-!
# The script's turn

The script takes one step after the other and waits for the answer to each request. A change of the
desktop needs no turn of its own. When the steps are over, or one has failed, the script asks for
the counts, looks at the windows, dismisses the watcher and sends the last letter.

A turn may use the allowance for a few things only: a pause that is over, a place that was found for
a letter, an answer that came. A script that has nothing left of it rests before it goes on.
-/

namespace SatelliteWindows.Run

/-- Change what the script waits for. -/
def hold (h : Hold) (r : Run) : Run := { r with script := { r.script with hold := h } }

/-- Write down what a step did; the steps behind it remain. -/
def record (s : Step) (outcome : String) (remaining : List Step) (r : Run) : Run :=
  let script := r.script
  let result : StepResult := ⟨script.results.length + 1, s.action, s.target?, outcome⟩
  { r with script := { script with steps := remaining, results := script.results ++ [result] } }

/-- Write down why a step failed; no steps remain. -/
def fail (s : Step) (cause : StepFault) (r : Run) : Run :=
  let script := r.script
  let fault : RunFault := .failed (script.results.length + 1) s.action cause
  { r with script := { script with steps := [], fault := some fault } }

/-- Make a request, as far as the allowance goes. -/
def request (req : Request) : Nat → Run → Run
  | 0, r => (r.hold (.place req)).rest .script
  | n + 1, r =>
    match r.send .script (.request .script req) with
    | (false, r) => r.hold (.place req)
    | (true, r) =>
      let r := r.hold (.answer none)
      if n = 0 then r.rest .script else r

/-- Take the steps that remain until there is something to wait for. -/
def proceed (n : Nat) : List Step → Run → Run
  | [], r => { r with script := { r.script with steps := [] } }.request .metrics n
  | s :: rest, r =>
    let r := { r with script := { r.script with steps := s :: rest } }
    match s.deed r.script.defaultSize r.desktop with
    | .error cause => (r.fail s cause).request .metrics n
    | .ok (.ask req) => r.request req n
    | .ok (.change f) => proceed n rest ((r.alterDesktop f).record s (s.outcome .done) rest)
    | .ok (.pause ms) =>
      let r := r.hold (.moment (r.clock + delay ms))
      match n with
      | 0 => r.rest .script
      | n + 1 => if ms = 0 then proceed n rest (r.record s (s.outcome .done) rest) else r

/-- Go on with the steps behind the one at work, which is finished. -/
def finishStep (answer : Answer) (r : Run) : Run :=
  match r.script.steps with
  | [] => r
  | s :: rest => (r.record s (s.outcome answer) rest).proceed (Turns.allowance - 1) rest

/-- Send the last letter. -/
def leave (r : Run) : Run :=
  match r.send .script .farewell with
  | (true, r) => r.hold .ending
  | (false, r) => r.hold .farewell

/-- Leave when the watcher is done. -/
def part (r : Run) : Run :=
  if r.watcher.watch = .over then r.leave else r.hold .watcher

/-- Dismiss the watcher. -/
def dismiss (r : Run) : Run :=
  if r.watcher.watch = .over then r
  else { r with watcher := { r.watcher with dismissed := true } }.wake .watcher

/-- The report on a satellite. -/
def describeSatellite (d : Simulation) (name : String) : Option SatelliteReport := do
  let w ← d.latest? name
  let window ← d.window? w
  return ⟨window.name, windowText w, window.alive, window.loads, window.focused, window.inbox⟩

/-- Look at the windows when the steps are over and the counts are there. -/
def conclude (metrics : Metrics) (r : Run) : Run :=
  let satellites := r.desktop.satellites.filterMap (describeSatellite r.desktop)
  { r with script := { r.script with metrics := some metrics, satellites := satellites } }

/-- Go on with the answer to a request. -/
def resume (answer : Except Fault Answer) (r : Run) : Run :=
  match r.script.steps, answer with
  | [], .ok (.metrics m) => (r.conclude m).dismiss.part
  | [], _ => r.dismiss.part
  | _ :: _, .ok a => r.finishStep a
  | s :: _, .error f => (r.fail s (.refused f)).request .metrics (Turns.allowance - 1)

/-- The script's turn. -/
def goOn (r : Run) : Run :=
  match r.script.hold with
  | .free => r.proceed Turns.allowance r.script.steps
  | .place req => r.request req Turns.allowance
  | .answer none => r
  | .answer (some answer) => r.resume answer
  | .moment time => if time ≤ r.clock then r.finishStep .done else r
  | .watcher => r.part
  | .farewell => r.leave
  | .ending => r

end SatelliteWindows.Run
