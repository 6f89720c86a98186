/-
  The program as it is started from a command line: the files that it may read and the
  environment are gathered into a machine, the program runs on it, and what it has
  written, files too, is put back.
-/
import Runbook.CommandLine
import Runbook.Rehearsal.Stage
import Std.Time.DateTime.Timestamp

namespace Runbook.Main

/-- The variables that the program and its commands can see. -/
def variableNames : List String :=
  ["PATH", "HOME", "SHELL", "USER", "LANG", "LC_ALL", "TZ", "PWD", "CHAINRUNNER_ENV", "RUST_LOG",
    "RUST_LOG_STYLE", "NO_COLOR", "CLICOLOR_FORCE"]

/-- The files that the program may read. -/
def inputs (m : Machine) (arguments : List String) : List String :=
  match Options.parse arguments with
  | .error _ => []
  | .ok o =>
    let config := o.config.getD Config.fileName
    let document := match o.source with
      | .file path => [path]
      | .text _ => []
    [config, Path.join (Config.directoryOf config) (Config.envFileName m)] ++ document

/-- The files of a machine that another one does not have with the same content. -/
def changes (before after : Machine) : List (Path × Bytes) :=
  after.files.filterMap fun
    | (p, .regular content executable) =>
      if before.files.lookup p = some (.regular content executable) then none
      else some (p, content)
    | _ => none

/-- The time of day in two digits each, by universal time. -/
def timeOfDay (seconds : Nat) : String :=
  let two (n : Nat) : String := (if n < 10 then "0" else "") ++ toString n
  two (seconds / 3600 % 24) ++ ":" ++ two (seconds / 60 % 60) ++ ":" ++ two (seconds % 60)

/-- The variables of the environment. -/
def gatherEnv : IO Overlay := do
  let found ← variableNames.mapM fun name => do
    pure ((← IO.getEnv name).map fun value => (name, value))
  pure (found.filterMap id)

/-- The machine with the files that can be read. -/
def gather (m : Machine) (paths : List String) : IO Machine :=
  paths.foldlM (fun m (path : String) => do
    try
      let content ← IO.FS.readBinFile path
      pure { m with files := m.files.plant (Path.of m.cwd path) (.regular content.toList false) }
    catch _ => pure m) m

end Runbook.Main

open Runbook in
/-- Runs the program and answers its exit code. -/
def main (arguments : List String) : IO UInt32 := do
  let cwd := Path.of [] (← IO.currentDir).toString
  let bare : Machine :=
    { files := Machine.systemFiles.plant cwd .directory, env := ← Main.gatherEnv, cwd }
  let m ← Main.gather bare (Main.inputs bare arguments)
  let now ← Std.Time.Timestamp.now
  let r := CommandLine.run Rehearsal.Stage.host { machine := m, network := .ssh } m
    (Main.timeOfDay now.toSecondsSinceUnixEpoch.val.toNat) arguments
  for (path, content) in Main.changes m r.host.machine do
    IO.FS.writeBinFile path.text ⟨content.toArray⟩
  (← IO.getStdout).write ⟨r.stdout.toArray⟩
  (← IO.getStderr).write ⟨r.stderr.toArray⟩
  pure (UInt32.ofNat r.code)
