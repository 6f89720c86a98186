/-
  Programs that a shell starts: finding them, and running those that are tools.
-/
import Runbook.Machine.Tools
import Runbook.Shell.State

namespace Runbook.Shell

/-- Why a program cannot be run. -/
inductive ProgramFault where
  | missing
  | denied

/-- The paths at which a program may lie, as they are written. -/
def candidates (search : String) (name : String) : List String :=
  if name.toList.contains '/' then [name]
  else (Text.pieces ':' search.toList).map fun d =>
    if d.isEmpty then name else String.ofList d ++ "/" ++ name

/-- The search path of a shell that is given none. -/
def usualSearch : String := "/usr/local/sbin:/usr/local/bin:/usr/sbin:/usr/bin:/sbin:/bin"

/-- The search path on which the programs of the system are found. -/
def systemSearch : String := "/usr/sbin:/usr/bin:/sbin:/bin"

/-- The search path of a shell. -/
def State.search (s : State) : String := (s.value? "PATH").getD ""

/-- Finds a program on a search path. -/
def findProgram (s : State) (search name : String) : Except ProgramFault String :=
  let tried := (candidates search name).map fun c => (c, s.files.canRun (Path.of s.cwd c))
  match tried.find? (·.2.isOk) with
  | some (c, _) => .ok c
  | none =>
    if tried.any fun t => match t.2 with
      | .error .denied => true
      | _ => false
    then .error .denied else .error .missing

/-- The interpreter of a script and its argument, if the script names one. -/
def interpreter? (content : Bytes) : Option (String × List String) :=
  match content with
  | 35 :: 33 :: rest =>
    let isBlank (c : Char) : Bool := c == ' ' || c == '\t'
    let line := (Bytes.toUnits (rest.takeWhile (· ≠ 10))).toList.dropWhile isBlank
    let path := line.takeWhile (!isBlank ·)
    let arg := Text.dropEndWhile isBlank ((line.drop path.length).dropWhile isBlank)
    some (String.ofList path, if arg.isEmpty then [] else [String.ofList arg])
  | _ => none

/-- The programs that are shells. -/
def isShell (program : String) : Bool := ["sh", "dash", "bash"].contains program

/-- The place in a file at which standard output goes on, if it leads to one. -/
def State.outputPlace? (s : State) : Option (Path × Nat) :=
  match (s.descriptors.lookup 1).bind fun i => s.opened[i]? with
  | some (.file p place appends) =>
    some (p, if appends then ((s.files.read p).toOption.getD []).length else place)
  | _ => none

/-- Runs a tool. -/
def runTool (tool : String) (args : List String) : Eval Nat := do
  match Tool.table.lookup tool with
  | none => pure 0
  | some f =>
    let s ← get
    let stdin := if (s.descriptors.lookup 0).isNone then .error .closed
      else match s.standardInput with
        | .file p _ _ => (s.files.read p).map fun _ => s.input
        | _ => .ok s.input
    let r := f
      { args, stdin, cwd := s.cwd, env := s.environment, files := s.files
        seeks := s.standardInput.isFile, outputPlace := s.outputPlace? }
    if let some rest := r.left then modify (·.leaveInput rest)
    modify (·.withFiles r.files r.moves)
    modify (·.write 2 r.err)
    modify (·.write 1 r.out)
    modify ({ · with lost := false })
    pure r.status

end Runbook.Shell
