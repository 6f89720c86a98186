/-
  Choosing the interpreter of local commands.

  * `Machine.candidates` are the paths that a program's name can mean: a name of several
    parts is a path itself, any other is looked for in the directories of the search path;
  * `Machine.lookup?` is the first of them that can be run;
  * `Machine.chooseShell` takes the configured shell, else that of the user, else `sh`,
    and gives the path found for it, or the name as it is if there is none.
-/
import Runbook.Log.Notice
import Runbook.Machine.Basic

namespace Runbook.Machine

/-- The home directory of a user who has not named one. -/
def defaultHome : String := "/root"

/-- A directory of the search path with `~` at its front replaced by the home directory. -/
def expandHome (m : Machine) (dir : String) : String :=
  match Path.parts dir with
  | "~" :: names => names.foldl Path.join ((m.env.get? "HOME").getD defaultHome)
  | _ => dir

/-- A path from the root down; one that starts elsewhere starts in the working directory. -/
def absolute (m : Machine) (path : String) : String :=
  if path.toList.head? = some '/' then path
  else ((Path.parts path).dropWhile (· == ".")).foldl Path.join m.cwd.text

/-- A program's name is a path of several parts. -/
def isPath (name : String) : Bool := 1 < (Path.parts name).length

/-- The paths that a program's name can mean. -/
def candidates (m : Machine) (name : String) : List String :=
  if isPath name then [m.absolute name]
  else match m.env.get? "PATH" with
    | none => []
    | some dirs => (searchPath dirs).map fun d => Path.join (m.absolute (m.expandHome d)) name

/-- A program can be run at a path. -/
def isRunnable (m : Machine) (path : String) : Bool :=
  match m.files.findText m.cwd path with
  | .ok (.regular _ true) | .ok (.program _) => true
  | _ => false

/-- The first path of a program's name that can be run. -/
def lookup? (m : Machine) (name : String) : Option String :=
  (m.candidates name).find? m.isRunnable

/-- The interpreter of local commands, and the notices about it. -/
def chooseShell (m : Machine) (configured : Option String) : String × List Notice :=
  let name := (configured.or ((m.env.get? "SHELL").filter (!·.isEmpty))).getD "sh"
  match m.lookup? name with
  | some path => (path, [])
  | none => (name, [.shellUnresolved name (isPath name || (m.env.get? "PATH").isSome)])

end Runbook.Machine
