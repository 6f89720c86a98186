/-
  A stage to run chains on: a machine for the local commands, and a network that is
  scripted, recorded, or the one that SSH finds when nothing can be reached.

  A recording network answers commands from a list of responses, lets some of them fail, and
  keeps a line for each dial, command and disconnection.
-/
import Runbook.Machine.Basic
import Runbook.Network.Ssh
import Runbook.Rehearsal.Script

namespace Runbook.Rehearsal

/-- What a recording network answers. -/
structure Recording where
  /-- Command lines and the output they have. -/
  responses : List (String × String) := []
  /-- Commands that hold one of these parts exit with status 1. -/
  failing : List String := []
  /-- Addresses that refuse every connection. -/
  unreachable : List String := []

namespace Recording

/-- Dials an address. -/
def dial (r : Recording) (address : String) : Except Failure Unit :=
  if r.unreachable.contains address then .error (.of "connection refused") else .ok ()

/-- Answers a command. -/
def execute (r : Recording) (command : String) : Executed where
  stdout := Bytes.encode ((r.responses.lookup command).getD "")
  status := .ok (if r.failing.any (Text.contains command ·) then 1 else 0)

/-- The line that is kept for an event, if one is. -/
def line? : Event → Option String
  | .dialed d _ =>
    some ("dial " ++ d.address ++ " as " ++ d.user ++ " with " ++ toString d.auth.length ++ " auth")
  | .executed c command _ _ => some ("run " ++ c.address ++ ": " ++ command)
  | .disconnected c _ => some ("disconnect " ++ c.address)
  | _ => none

/-- The lines that are kept of a run. -/
def lines (events : List Event) : List String := events.filterMap line?

end Recording

/-- The network of a stage. -/
inductive Network where
  | scripted
  | recorded (r : Recording)
  | ssh

/-- The state of a stage. The script also answers for custom sessions. -/
structure Stage where
  machine : Machine
  script : Script := {}
  network : Network := .scripted

namespace Stage

/-- Runs a step of the script. -/
def ofScript {α : Type} (step : StateM Script α) : StateM Stage α := fun s =>
  let (a, script) := step s.script
  (a, { s with script })

/-- Runs a step of the machine. -/
def ofMachine {α : Type} (step : StateM Machine α) : StateM Stage α := fun s =>
  let (a, machine) := step s.machine
  (a, { s with machine })

/-- Answers by the network of the stage. -/
def answer {α : Type} (scripted : StateM Script α) (recorded : Recording → α) (ssh : α) :
    StateM Stage α := fun s =>
  match s.network with
  | .scripted => ofScript scripted s
  | .recorded r => (recorded r, s)
  | .ssh => (ssh, s)

/-- The host that a stage is. -/
def host : Host Stage where
  dial d := do
    let answer ← answer (Script.dial d.address) (·.dial d.address) (.error (Ssh.dial d))
    pure (answer.map fun () => 0)
  openChannel c := answer (Script.openChannel c.address) (fun _ => .ok ()) Ssh.openChannel
  execute c command := answer (Script.execute c.address command) (·.execute command)
    ⟨[], Ssh.openChannel.map fun () => 0⟩
  closeChannel c := answer (Script.closeChannel c.address) (fun _ => .ok ()) (.ok ())
  disconnect c := answer (Script.disconnect c.address) (fun _ => .ok ()) Ssh.disconnect
  spawn p := ofMachine (Machine.spawn p)
  customRun id command := ofScript (Script.customRun id command)
  customConnect id := ofScript (Script.guestAnswer (·.connect) id)
  customClose id := ofScript (Script.guestAnswer (·.close) id)

end Stage

end Runbook.Rehearsal
