/-
  The outside world of a run, and the record of what was asked of it.

  * `Host` answers every question a session can ask: dialing, channels, local processes,
    and sessions brought in from outside. Its answers may depend on a state of its own;
  * `World` is a run's state: the host's state, standard output with its writer, the capture
    buffers, and the `Event`s so far, oldest first;
  * each operation of `Run` asks the host one question and records it. Standard output
    and the buffers change only through `Run.write`, which passes the writer by, `Run.hand`
    and `Run.flush`, which use it, `Run.newBuffer` and `Run.dropBuffers`.
-/
import Runbook.Log.Notice
import Runbook.Session.Settings
import Runbook.Session.Writer

namespace Runbook

/-- Where the standard output of commands goes. -/
inductive Sink where
  | stdout
  /-- The capture buffer of that number. -/
  | buffer (id : Nat)
  deriving DecidableEq, Repr

/-- A request for a connection. -/
structure Dial where
  address : String
  user : String
  auth : List AuthMethod
  timeoutMs : Nat
  policy : HostKeyPolicy
  deriving DecidableEq, Repr

/-- A connection that was dialed. The host numbers connections, so that two connections
    to one address can be told apart. -/
structure Connection where
  address : String
  serial : Nat
  deriving DecidableEq, Repr

/-- A local command: the interpreter with its flag, the command line, and the variables
    added to the environment. -/
structure Process where
  shell : String
  flag : String
  command : String
  env : Overlay
  deriving DecidableEq, Repr

/-- How a process ended. -/
inductive Ending where
  | exited (code : Nat)
  /-- A signal ended it. -/
  | killed
  deriving DecidableEq, Repr

/-- What a process that was started left behind. -/
structure Finished where
  stdout : Bytes
  stderr : Bytes
  ending : Ending
  deriving DecidableEq, Repr

/-- The standard output of a remote command, as far as it was taken, and its exit status or why
    there is none. -/
structure Executed where
  stdout : Bytes
  status : Except Failure Int

/-- A session brought in from outside. The serial tells sessions of one name apart. -/
structure CustomId where
  name : String
  serial : Nat := 0
  deriving DecidableEq, Repr

/-- The standard output of a command on a custom session, and what it came to. -/
structure CustomRun where
  stdout : Bytes
  outcome : Outcome

/-- The outside world. -/
structure Host (σ : Type) where
  /-- The number of the new connection, or why there is none. -/
  dial : Dial → StateM σ (Except Failure Nat)
  openChannel : Connection → StateM σ (Except Failure Unit)
  execute : Connection → String → StateM σ Executed
  closeChannel : Connection → StateM σ (Except Failure Unit)
  disconnect : Connection → StateM σ (Except Failure Unit)
  /-- What the process left behind, or the text of why it was not started. -/
  spawn : Process → StateM σ (Except String Finished)
  customRun : CustomId → String → StateM σ CustomRun
  customConnect : CustomId → StateM σ Outcome
  customClose : CustomId → StateM σ Outcome

/-- What a channel is opened for: a command, and the sink that its output goes to. -/
structure Errand where
  command : String
  sink : Sink
  deriving DecidableEq, Repr

/-- Something that happened in a run. Commands carry the sink that their output went to. -/
inductive Event where
  | notice (n : Notice)
  | dialed (d : Dial) (answer : Except Failure Nat)
  | opened (c : Connection) (errand : Errand) (answer : Except Failure Unit)
  | executed (c : Connection) (command : String) (sink : Sink) (answer : Executed)
  | channelClosed (c : Connection) (sink : Sink) (answer : Except Failure Unit)
  | disconnected (c : Connection) (answer : Except Failure Unit)
  | spawned (p : Process) (sink : Sink) (answer : Except String Finished)
  | customRan (id : CustomId) (command : String) (sink : Sink) (answer : CustomRun)
  | customConnected (id : CustomId) (answer : Outcome)
  | customClosed (id : CustomId) (answer : Outcome)
  | customConfigured (id : CustomId) (declared : Declarations)

/-- The state of a run. -/
structure World (σ : Type) where
  host : σ
  /-- What came out of standard output. -/
  stdout : Bytes := []
  writer : Writer := {}
  buffers : List Bytes := []
  events : List Event := []

/-- A step of a run. -/
abbrev Run (σ : Type) := StateM (World σ)

namespace World

variable {σ : Type}

/-- The bytes of a sink. -/
def contents (w : World σ) : Sink → Bytes
  | .stdout => w.stdout
  | .buffer id => w.buffers.getD id []

/-- The world with one more event. -/
def record (w : World σ) (e : Event) : World σ := { w with events := w.events ++ [e] }

/-- Standard output, and the writer in front of it. -/
def outlet (w : World σ) : Outlet := ⟨w.stdout, w.writer⟩

/-- The world with another standard output. -/
def withOutlet (w : World σ) (o : Outlet) : World σ :=
  { w with stdout := o.out, writer := o.writer }

/-- The world with bytes added to a sink. -/
def append (w : World σ) (sink : Sink) (bytes : Bytes) : World σ :=
  match sink with
  | .stdout => w.withOutlet (w.outlet.pass bytes)
  | .buffer id => { w with buffers := w.buffers.modify id (· ++ bytes) }

end World

namespace Run

variable {σ α β : Type}

theorem pure_apply (a : α) (w : World σ) : (pure a : Run σ α) w = (a, w) := rfl

theorem bind_apply (m : Run σ α) (f : α → Run σ β) (w : World σ) :
    (m >>= f) w = f (m w).1 (m w).2 := rfl

/-- Gives a notice. -/
def note (n : Notice) : Run σ Unit := fun w => ((), w.record (.notice n))

/-- Adds bytes to a sink. -/
def write (sink : Sink) (bytes : Bytes) : Run σ Unit := fun w => ((), w.append sink bytes)

/-- Hands bytes to the writer of a sink. A buffer takes them at once. -/
def hand (sink : Sink) (bytes : Bytes) : Run σ Unit :=
  match sink with
  | .stdout => fun w => ((), w.withOutlet (w.outlet.hand bytes))
  | .buffer id => write (.buffer id) bytes

/-- Flushes the writer of a sink. It answers why that cannot be done, if so. -/
def flush (sink : Sink) : Run σ (Except String Unit) :=
  match sink with
  | .stdout => fun w => (w.outlet.flush.1, w.withOutlet w.outlet.flush.2)
  | .buffer _ => pure (.ok ())

/-- Makes an empty buffer and answers its number. -/
def newBuffer : Run σ Nat := fun w =>
  (w.buffers.length, { w with buffers := w.buffers ++ [[]] })

/-- Answers the contents of a buffer and drops it with all later ones. -/
def dropBuffers (id : Nat) : Run σ Bytes := fun w =>
  (w.buffers.getD id [], { w with buffers := w.buffers.take id })

/-- Asks the host, and records the question with its answer. -/
def ask (question : StateM σ α) (event : α → Event) : Run σ α := fun w =>
  let (answer, host) := question w.host
  (answer, { w with host, events := w.events ++ [event answer] })

variable (h : Host σ)

/-- Dials a host. -/
def dial (d : Dial) : Run σ (Except Failure Connection) := do
  let answer ← ask (h.dial d) (.dialed d)
  pure (answer.map (Connection.mk d.address))

/-- Opens a channel for an errand. -/
def openChannel (c : Connection) (errand : Errand) : Run σ (Except Failure Unit) :=
  ask (h.openChannel c) (.opened c errand)

/-- Runs a command on an open channel; its output goes to the writer of `sink`. -/
def execute (c : Connection) (command : String) (sink : Sink) : Run σ (Except Failure Int) := do
  let answer ← ask (h.execute c command) (.executed c command sink)
  hand sink answer.stdout
  pure answer.status

/-- Closes a channel. -/
def closeChannel (c : Connection) (sink : Sink) : Run σ (Except Failure Unit) :=
  ask (h.closeChannel c) (.channelClosed c sink)

/-- Ends a connection. -/
def disconnect (c : Connection) : Run σ (Except Failure Unit) :=
  ask (h.disconnect c) (.disconnected c)

/-- Runs a local process; its output goes to `sink`. Standard output is inherited. -/
def spawn (p : Process) (sink : Sink) : Run σ (Except String Ending) := do
  match ← ask (h.spawn p) (.spawned p sink) with
  | .error e => pure (.error e)
  | .ok f => do
    write sink f.stdout
    pure (.ok f.ending)

/-- Runs a command on a custom session; its output goes to `sink`. -/
def customRun (id : CustomId) (command : String) (sink : Sink) : Run σ Outcome := do
  let answer ← ask (h.customRun id command) (.customRan id command sink)
  write sink answer.stdout
  pure answer.outcome

/-- Connects a custom session. -/
def customConnect (id : CustomId) : Run σ Outcome :=
  ask (h.customConnect id) (.customConnected id)

/-- Closes a custom session. -/
def customClose (id : CustomId) : Run σ Outcome :=
  ask (h.customClose id) (.customClosed id)

end Run

end Runbook
