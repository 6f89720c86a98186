/-
  Sessions: the targets that command lines run on.

  A `SessionKind` is what a chain asks of the sessions it runs on: chains are run, and keys are
  discovered, through its operations alone. Every operation that can change a session hands
  back the session as it is afterwards.

  A `Session` is a shell on this machine, a shell on another one, or a custom session that
  is brought in from outside and answered by the host. `Session.kind` is the kind that all
  of them are of.
-/
import Runbook.Session.Remote

namespace Runbook

/-- The operations of a kind of session. -/
structure SessionKind (σ S : Type) where
  /-- The name of the target in messages. -/
  identify : S → String
  /-- The session has no target of its own: its scope runs where the enclosing one runs. -/
  isPassThrough : S → Bool
  params? : S → Option Params
  /-- The parameters, if they can be changed. -/
  changeableParams? : S → Option Params
  withParams : Params → S → S
  /-- Sends output to another sink; answers the sink from before. -/
  swapSink : Sink → S → Sink × S
  /-- Makes the session ready to run commands. -/
  connect : S → Run σ (Outcome × S)
  /-- Runs a command line. -/
  run : S → String → Run σ (Outcome × S)
  /-- Ends what the session holds open. -/
  close : S → Run σ (Outcome × S)

/-- A session brought in from outside. The host answers its commands. -/
structure CustomSession where
  id : CustomId
  /-- It has no target of its own. -/
  passThrough : Bool := false
  params : Option Params := none
  /-- Its parameters can be read and not changed. -/
  fixed : Bool := false
  sink : Sink := .stdout
  deriving DecidableEq, Repr

/-- A target for command lines. -/
inductive Session where
  | shell (l : LocalShell)
  | remote (r : RemoteShell)
  | custom (c : CustomSession)
  deriving DecidableEq, Repr

namespace Session

variable {σ : Type}

/-- The name of the target in messages. -/
def identify : Session → String
  | shell _ => localName
  | remote r => r.identify
  | custom c => c.id.name

/-- The session has no target of its own: its scope runs where the enclosing one runs. -/
def isPassThrough : Session → Bool
  | shell _ => false
  | remote r => r.isAddressless
  | custom c => c.passThrough

/-- The parameters of the session, if it has any. -/
def params? : Session → Option Params
  | shell _ => none
  | remote r => some r.params
  | custom c => c.params

/-- The parameters of the session, if it has any and they can be changed. -/
def changeableParams? : Session → Option Params
  | shell _ => none
  | remote r => some r.params
  | custom c => if c.fixed then none else c.params

/-- The session with other parameters, if it has any that can be changed. -/
def withParams (p : Params) : Session → Session
  | shell l => shell l
  | remote r => remote { r with params := p }
  | custom c => custom (if c.fixed || c.params.isNone then c else { c with params := some p })

/-- A connection is open; unknown for sessions without one of their own. -/
def connected? : Session → Option Bool
  | remote r => some r.isConnected
  | _ => none

/-- Where the output of the session's commands goes. -/
def sink : Session → Sink
  | shell l => l.sink
  | remote r => r.sink
  | custom c => c.sink

/-- The session with its output sent to another sink. -/
def setSink (sink : Sink) : Session → Session
  | shell l => shell { l with sink }
  | remote r => remote (r.setSink sink)
  | custom c => custom { c with sink }

/-- Sends output to another sink; answers the sink from before. -/
def swapSink (sink : Sink) (s : Session) : Sink × Session := (s.sink, s.setSink sink)

/-- Merges declared settings into the session, and the events of doing so. -/
def configure (d : Declarations) : Session → Session × List Event
  | shell l => (shell l, [])
  | remote r => (remote (r.configure d), [])
  | custom c => (custom c, [.customConfigured c.id d])

/-- Makes the session ready to run commands. -/
def connect (h : Host σ) : Session → Run σ (Outcome × Session)
  | shell l => pure (.ok (), shell l)
  | remote r => do
    let (o, r) ← r.connect h
    pure (o, remote r)
  | custom c => do
    let o ← Run.customConnect h c.id
    pure (o, custom c)

/-- Runs a command line. -/
def run (h : Host σ) (s : Session) (command : String) : Run σ (Outcome × Session) :=
  match s with
  | shell l => do
    let o ← l.run h command
    pure (o, shell l)
  | remote r => do
    let (o, r) ← r.run h command
    pure (o, remote r)
  | custom c => do
    let o ← Run.customRun h c.id command c.sink
    pure (o, custom c)

/-- Ends what the session holds open. -/
def close (h : Host σ) : Session → Run σ (Outcome × Session)
  | shell l => pure (.ok (), shell l)
  | remote r => do
    let (o, r) ← r.close h
    pure (o, remote r)
  | custom c => do
    let o ← Run.customClose h c.id
    pure (o, custom c)

/-- The kind of these sessions, on a host. -/
def kind (h : Host σ) : SessionKind σ Session where
  identify := identify
  isPassThrough := isPassThrough
  params? := params?
  changeableParams? := changeableParams?
  withParams := withParams
  swapSink := swapSink
  connect := connect h
  run := run h
  close := close h

@[simp] theorem kind_identify (h : Host σ) (s : Session) : (kind h).identify s = s.identify := rfl

@[simp] theorem sink_setSink (k : Sink) (s : Session) : (s.setSink k).sink = k := by
  cases s <;> rfl

@[simp] theorem setSink_setSink (k k' : Sink) (s : Session) :
    (s.setSink k).setSink k' = s.setSink k' := by
  cases s <;> rfl

end Session

end Runbook
