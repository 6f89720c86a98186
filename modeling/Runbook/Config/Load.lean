/-
  Loading a configuration from the files of a machine, and the settings it stands for.

  * `Config.inDirectory` reads the configuration file of a directory, if there is one;
    `Config.atPath` reads a file that must be there;
  * both put the variables of an environment file of the same directory over those of
    the configuration;
  * `Config.settings` are the settings that sessions are made with.
-/
import Runbook.Config
import Runbook.Dotenv
import Runbook.Machine.Lookup
import Runbook.Text.Printable

namespace Runbook.Config

/-- What loading comes to, and the notices about it. -/
abbrev Loaded (α : Type) := Except Failure α × List Notice

/-- The name of a configuration file. -/
def fileName : String := "chainrunner.toml"

/-- The configuration in a file that is there. -/
def read (m : Machine) (path : String) : Except Failure Config :=
  match m.readText path with
  | .error e => .error ⟨["Failed to read " ++ Text.quoted path, e]⟩
  | .ok text =>
    match parse? text with
    | some c => .ok c
    | none => .error ⟨["Failed to parse " ++ Text.quoted path, ""]⟩

/-- The name of the environment file: a variable can name one of several. -/
def envFileName (m : Machine) : String :=
  match m.env.get? "CHAINRUNNER_ENV" with
  | some v => ".env." ++ v
  | none => ".env"

/-- The failure that a fault of an environment file is. -/
def ofDotenvFault (f : Dotenv.Fault) : Failure :=
  match f with
  | .line _ _ => .of f.message
  | .unreadable reason => ⟨[reason, reason]⟩

/-- The variables of an environment file. -/
def readEnv (m : Machine) (path : String) : Except Failure Overlay :=
  let read := match m.readBytes path with
    | .ok content => Dotenv.read m.env content
    | .error e => .error (.unreadable e)
  read.mapError ofDotenvFault

/-- Puts the variables of the environment file of a directory, if there is one. -/
def withEnvFile (m : Machine) (dir : String) (c : Config) : Loaded Config :=
  let path := Path.join dir (envFileName m)
  if m.has path then
    ((readEnv m path).map fun vs => { c with env := c.env.putAll vs },
      [.environmentLoaded (envFileName m)])
  else (.ok c, [])

/-- The configuration of a directory. -/
def inDirectory (m : Machine) (dir : String) : Loaded Config :=
  let path := Path.join dir fileName
  match if m.has path then read m path else .ok {} with
  | .ok c => withEnvFile m dir c
  | .error f => (.error f, [])

/-- The directory of a file, both as texts. -/
def directoryOf (path : String) : String :=
  match Text.cutLast '/' path.toList with
  | none => ""
  | some ([], _) => "/"
  | some (dir, _) => String.ofList dir

/-- The configuration in a file. -/
def atPath (m : Machine) (path : String) : Loaded Config :=
  if m.has path then
    match read m path with
    | .ok c => withEnvFile m (directoryOf path) c
    | .error f => (.error f, [])
  else (.error (.of ("❌ Config file not found: " ++ Text.quoted path)), [])

/-- What is asked of a host's key: known hosts are those of the configured file, else
    those of the user's home directory. -/
def policy (c : Config) (m : Machine) : Except Failure HostKeyPolicy :=
  match c.hostKeys, c.knownHosts, m.env.get? "HOME" with
  | .acceptAny, _, _ => .ok .acceptAny
  | .knownHosts, some path, _ => .ok (.knownHosts path)
  | .knownHosts, none, some home =>
    .ok (.knownHosts (Path.join (Path.join home ".ssh") "known_hosts"))
  | .knownHosts, none, none =>
    .error ⟨["host_key_policy = \"known-hosts\" needs 'known_hosts' or $HOME",
      "environment variable not found"]⟩

/-- How keys are discovered, if they are. -/
def discovery (c : Config) : Option DiscoverySettings :=
  let base : DiscoverySettings := {}
  if c.discovers then
    some { keyDir := c.keyDir.getD base.keyDir, keyPatterns := c.keyPatterns.getD base.keyPatterns }
  else none

/-- The settings that a configuration stands for on a machine. -/
def settings (c : Config) (m : Machine) : Loaded Settings :=
  match c.policy m with
  | .error f => (.error f, [])
  | .ok policy =>
    let (shell, notices) := m.chooseShell c.shell
    (.ok { timeoutMs := c.timeoutSecs * 1000, policy, shell, env := c.env,
           discovery := c.discovery }, notices)

end Runbook.Config
