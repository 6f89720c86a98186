/-
  A machine to run local commands on: its files, the environment of its processes and
  their working directory.

  `Machine.spawn` starts a process as a system does: a name without a slash is looked for
  on the search path, a script is run by the interpreter that it names, and what cannot be
  started answers the system's error.
-/
import Runbook.Session.Host
import Runbook.Shell.Run

namespace Runbook

/-- A machine. -/
structure Machine where
  files : Files
  env : Overlay := []
  cwd : Path := []

namespace Machine

/-! ## Reading -/

/-- The bytes of a file, or the message about why there are none. -/
def readBytes (m : Machine) (path : String) : Except String Bytes :=
  if path.toList.contains '\x00' then .error "file name contained an unexpected NUL byte"
  else match m.files.findText m.cwd path with
  | .error e => .error e.text
  | .ok .directory => .error FileFault.isDirectory.text
  | .ok (.regular content _) => .ok content
  | .ok _ => .ok []

/-- The text of a file, or the message about why there is none. -/
def readText (m : Machine) (path : String) : Except String String := do
  match Bytes.decode? (← m.readBytes path) with
  | some text => pure text
  | none => throw "stream did not contain valid UTF-8"

/-- Something lies at a path. -/
def has (m : Machine) (path : String) : Bool := (m.files.findText m.cwd path).isOk

/-! ## Files of the system -/

/-- The programs that every machine has. -/
def systemPrograms : List String := ["sh", "dash", "bash", "env"] ++ Tool.table.map (·.1)

/-- The directories that every machine has. -/
def systemDirectories : List Path :=
  [["usr"], ["usr", "bin"], ["usr", "local"], ["usr", "local", "bin"], ["bin"], ["dev"], ["etc"],
    ["home"], ["root"], ["tmp"]]

/-- The files that every machine has. -/
def systemFiles : Files :=
  systemDirectories.map (·, .directory) ++ (["null", "stdin", "stdout", "stderr"].map fun d => (["dev", d], .null)) ++
    systemPrograms.flatMap fun p => [(["usr", "bin", p], .program p), (["bin", p], .program p)]

/-! ## Finding programs -/

/-- The directories of a search path. -/
def searchPath (s : String) : List String := (Text.pieces ':' s.toList).map String.ofList

/-- The path at which a system starts a program, as it is written, or why it starts none. -/
def locate (m : Machine) (search : Option String) (name : String) : Except FileFault String :=
  if name.isEmpty then .error .missing
  else if name.toList.contains '/' then (m.files.canRun (Path.of m.cwd name)).map fun () => name
  else
    let tried := (searchPath (search.getD "/bin:/usr/bin")).map fun d =>
      let path := if d.isEmpty then name else d ++ "/" ++ name
      (path, m.files.canRun (Path.of m.cwd path))
    match tried.find? (·.2.isOk) with
    | some (path, _) => .ok path
    | none =>
      if tried.any fun t => match t.2 with
        | .error .denied => true
        | _ => false
      then .error .denied else .error .missing

/-! ## Processes -/

/-- The most steps that a process may take. -/
def processFuel : Nat := 20000

/-- A process as it is started: the name that it knows itself by, and what it does. -/
structure Started where
  name : String
  step : Shell.Eval Nat

open Shell in
/-- Starts the program of the system at a path under a name. -/
def startProgram (program name path : String) (args : List String) : Started :=
  ⟨name, if isShell program then start processFuel args
    else execute processFuel false name path args⟩

open Shell in
/-- Starts the program at a path, of which all texts have one character for each byte. A
    script that names no interpreter is run by the usual shell, if that is wanted
    (`asScript`). -/
def startAt (m : Machine) (path name : String) (asScript : Bool) (args : List String) :
    Except FileFault Started := do
  match ← m.files.find (Path.of m.cwd path) with
  | .program program => pure (startProgram program name path args)
  | .regular content _ =>
    match interpreter? content with
    | none =>
      if asScript then pure (startProgram "sh" "/bin/sh" "/bin/sh" (path :: args))
      else throw .notProgram
    | some (interpreter, extra) =>
      let p := Path.of m.cwd interpreter
      m.files.canRun p
      match ← m.files.find p with
      | .program program =>
        pure (startProgram program interpreter interpreter (extra ++ path :: args))
      | _ => throw .notProgram
  | _ => throw .denied

/-- The message about text that no process can be started with. -/
def zeroByte : String := "nul byte found in provided data"

/-- A text holds a zero byte. -/
def hasZero (s : String) : Bool := s.toList.contains '\x00'

/-- Starts a process and waits for its end. A search path of its own is one on which the
    system also finds scripts that name no interpreter. -/
def spawn (p : Process) : StateM Machine (Except String Finished) := fun m =>
  let texts := [p.shell, p.flag, p.command] ++ p.env.flatMap fun v => [v.1, v.2]
  if texts.any hasZero then (.error zeroByte, m)
  else
    let env := (m.env.putAll p.env).map fun v => (Bytes.units v.1, Bytes.units v.2)
    let inner : Machine :=
      { files := m.files.rename Bytes.units, cwd := m.cwd.map Bytes.units }
    let name := Bytes.units p.shell
    let asScript := (p.env.get? "PATH").isSome && !name.toList.contains '/'
    let started := do
      let path ← inner.locate (env.lookup "PATH") name
      inner.startAt path name asScript [Bytes.units p.flag, Bytes.units p.command]
    match started with
    | .error e => (.error e.text, m)
    | .ok started =>
      let (r, s) := started.step.run
        { files := inner.files, cwd := inner.cwd, name := started.name
          vars := env.map fun v => ⟨v.1, some v.2, true, false⟩
          descriptors := [(0, 0), (1, 1), (2, 2)], opened := #[.nowhere, .pipe [], .pipe []] }
      let ending : Ending := match r with
        | .error (.killed _) => .killed
        | .ok n => .exited (n % 256)
        | .error e => .exited (Shell.endStatus (.error e, s))
      let written (i : Nat) : Bytes := (s.opened.getD i .nowhere).unread s.files
      (.ok ⟨written 1, written 2, ending⟩, { m with files := s.files.rename Bytes.fromUnits })

end Machine

end Runbook
