/-
  Sessions on another machine.

  The connection is dialed on first use and used by every later command until the session
  is closed. What a command puts out is flushed as soon as it has ended. A session without an
  address never dials: its commands run on this machine.
-/
import Runbook.Session.Local

namespace Runbook

/-- A session on another machine. -/
structure RemoteShell where
  params : Params := {}
  settings : Settings
  connection : Option Connection := none
  sink : Sink := .stdout
  /-- Runs the commands while there is no address. -/
  fallback : LocalShell
  deriving DecidableEq, Repr

namespace RemoteShell

variable {σ : Type}

/-- A session without an address. -/
def ofSettings (s : Settings) : RemoteShell :=
  { settings := s, fallback := LocalShell.ofSettings s }

/-- No remote host was declared. -/
def isAddressless (r : RemoteShell) : Bool := r.params.address.isEmpty

/-- The name of the target in messages. -/
def identify (r : RemoteShell) : String :=
  if r.params.address.isEmpty then localName else r.params.address

/-- A connection is open. -/
def isConnected (r : RemoteShell) : Bool := r.connection.isSome

/-- The request that connects the session. -/
def dialRequest (r : RemoteShell) : Dial where
  address := r.params.address
  user := r.params.user
  auth := r.params.auth
  timeoutMs := r.settings.timeoutMs
  policy := r.settings.policy

/-- Sends output to another sink, also that of the commands run on this machine. -/
def setSink (r : RemoteShell) (sink : Sink) : RemoteShell :=
  { r with sink, fallback := { r.fallback with sink } }

/-- Merges declared settings into the parameters. -/
def configure (r : RemoteShell) (d : Declarations) : RemoteShell :=
  { r with params := r.params.merge d }

/-- Dials, unless there is nothing to dial or a connection is open. -/
def connect (h : Host σ) (r : RemoteShell) : Run σ (Outcome × RemoteShell) :=
  if r.params.address.isEmpty || r.isConnected then pure (.ok (), r)
  else do
    Run.note (.connecting r.params.user r.params.address)
    match ← Run.dial h r.dialRequest with
    | .ok c => pure (.ok (), { r with connection := some c })
    | .error f => do
      Run.note (.dialFailed r.params.address f)
      pure (.error (.unreachable r.params.address f.text), r)

/-- What a remote command comes to, given its exit status. -/
def outcome (target command : String) : Except Failure Int → Outcome
  | .ok status =>
    if status = 0 then .ok ()
    else .error (.failed target command ("exit status: " ++ toString status))
  | .error f => .error (.failed target command f.text)

/-- Runs a command on an open channel, and writes out all that it put to the sink. -/
def speak (h : Host σ) (c : Connection) (command : String) (sink : Sink) :
    Run σ (Except Failure Int) := do
  let status ← Run.execute h c command sink
  match ← Run.flush sink with
  | .ok () => pure ()
  | .error e => Run.note (.flushFailed command e)
  pure status

/-- Runs a command on a channel of its own, which is closed whatever the command came to. -/
def runOn (h : Host σ) (r : RemoteShell) (c : Connection) (command : String) : Run σ Outcome := do
  match ← Run.openChannel h c ⟨command, r.sink⟩ with
  | .error f => pure (.error (.failed r.identify command f.text))
  | .ok () => do
    let status ← speak h c command r.sink
    match ← Run.closeChannel h c r.sink with
    | .ok () => pure ()
    | .error f => Run.note (.channelCloseFailed r.identify f)
    pure (outcome r.identify command status)

/-- Runs a command line: on this machine without an address, otherwise over the
    connection, which is dialed if need be. -/
def run (h : Host σ) (r : RemoteShell) (command : String) : Run σ (Outcome × RemoteShell) :=
  if r.params.address.isEmpty then do
    let o ← r.fallback.run h command
    pure (o, r)
  else do
    match ← r.connect h with
    | (.error e, r) => pure (.error e, r)
    | (.ok (), r) =>
      match r.connection with
      | none => pure (.error (.unreachable r.identify "not connected"), r)
      | some c => do
        let o ← r.runOn h c command
        pure (o, r)

/-- Ends the connection, if there is one. -/
def close (h : Host σ) (r : RemoteShell) : Run σ (Outcome × RemoteShell) :=
  match r.connection with
  | none => pure (.ok (), r)
  | some c => do
    Run.note (.disconnecting r.params.address)
    match ← Run.disconnect h c with
    | .ok () => pure (.ok (), { r with connection := none })
    | .error f =>
      pure (.error (.unreachable r.params.address f.text), { r with connection := none })

end RemoteShell

end Runbook
