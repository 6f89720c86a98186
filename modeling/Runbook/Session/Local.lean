/-
  Sessions on this machine: each command runs in a shell of its own.
-/
import Runbook.Session.Host

namespace Runbook

/-- The flag under which an interpreter takes a command line: `/C` for the command prompt
    of one system, `-c` for every other shell. -/
def shellFlag (shell : String) : String :=
  if Text.contains shell "cmd" && !Text.contains shell "sh" then "/C" else "-c"

/-- The name of this machine in messages. -/
def localName : String := "localhost"

/-- A session on this machine. -/
structure LocalShell where
  shell : String
  env : Overlay := []
  sink : Sink := .stdout
  deriving DecidableEq, Repr

/-- An exit code as a message shows it. -/
def Ending.describe : Ending → String
  | .exited code => "exit code: Some(" ++ toString code ++ ")"
  | .killed => "exit code: None"

namespace LocalShell

variable {σ : Type}

/-- The session that settings ask for. -/
def ofSettings (s : Settings) : LocalShell := { shell := s.shell, env := s.env }

/-- The process that runs a command line. -/
def process (l : LocalShell) (command : String) : Process :=
  { shell := l.shell, flag := shellFlag l.shell, command, env := l.env }

/-- What a command line comes to, given how its process ended. -/
def outcome (l : LocalShell) (command : String) : Except String Ending → Outcome
  | .error e =>
    .error (.failed localName command ("failed to spawn '" ++ l.shell ++ "': " ++ e))
  | .ok ending =>
    if ending = .exited 0 then .ok () else .error (.failed localName command ending.describe)

/-- Runs a command line to its end. -/
def run (h : Host σ) (l : LocalShell) (command : String) : Run σ Outcome := do
  let ended ← Run.spawn h (l.process command) l.sink
  pure (l.outcome command ended)

end LocalShell

end Runbook
