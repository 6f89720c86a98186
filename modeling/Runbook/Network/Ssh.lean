/-
  Dialing over SSH, as far as it goes where no peer can be reached.

  * `Ssh.dial` reads the address and tries to reach it; the answer is always why that
    failed;
  * `Ssh.checkHostKey` looks up the key of a server in the lists of known hosts;
  * `Ssh.authenticate`, `Ssh.verifyHostKey` and `Ssh.openChannel` are what a session
    without a connection answers.
-/
import Runbook.Network.Resolve
import Runbook.Session.Host

namespace Runbook.Ssh

/-- Why a machine cannot be reached without a network: there is no way to it, no address to
    come from, or a scope is missing. -/
def unreachable (ip : IpAddress) : String :=
  match ip with
  | .v4 .. => "Network is unreachable (os error 101)"
  | .v6 groups scope =>
    if IpAddress.isMulticast groups || IpAddress.isMapped groups then
      "Network is unreachable (os error 101)"
    else if IpAddress.isLinkLocal groups && scope = 0 then "Invalid argument (os error 22)"
    else "Cannot assign requested address (os error 99)"

/-- Why a connection is not made. -/
def connectFailure (a : SocketAddress) : Failure :=
  (Failure.of (unreachable a.ip)).within ("TCP connect to " ++ a.text ++ " failed")

/-- Why a dial fails. -/
def dial (d : Dial) : Failure :=
  match Destination.parse d.address with
  | .error flaw => (Failure.of flaw.message).within ("invalid address '" ++ d.address ++ "'")
  | .ok target =>
    match target.endpoint Resolve.resolve with
    | .error e => (Failure.of e).within ("invalid address '" ++ d.address ++ "'")
    | .ok a => connectFailure a

/-- Why a peer that is not a server of the protocol is given up. -/
def handshakeFailure : Failure := .of "SSH handshake failed"

/-- Why authentication fails when the server accepts none of the methods. -/
def authenticate (user : String) (auth : List AuthMethod) : Failure :=
  .of ("authentication failed for user '" ++ user ++ "' (" ++ toString auth.length
    ++ " method(s) tried)")

/-- What a list of known hosts says of a key. -/
inductive KeyVerdict where
  | listed
  /-- The host has another key in the list. -/
  | mismatched
  | unlisted
  | unchecked
  deriving DecidableEq, Repr

/-- What a verdict means for a connection: only a key that is listed is accepted. -/
def KeyVerdict.outcome (address path : String) : KeyVerdict → Except Failure Unit
  | listed => .ok ()
  | mismatched => .error (.of ("host key for " ++ address ++ " does not match " ++ path))
  | unlisted => .error (.of ("no entry for " ++ address ++ " in " ++ path))
  | unchecked => .error (.of ("failed to check host key for " ++ address))

/-- A list of known hosts: its verdict on the key of a host on a port. -/
abbrev HostList (κ : Type) := String → Nat → κ → KeyVerdict

/-- The key that a server presents, if it does, and the lists it can be looked up in: one in
    each file. -/
structure Server (κ : Type) where
  hostKey? : Option κ
  lists : Except Failure (String → Except Failure (HostList κ))

/-- Checks the key of a server that was dialed by an address. -/
def checkHostKey {κ : Type} (server : Server κ) (address : String) :
    HostKeyPolicy → Except Failure Unit
  | .acceptAny => .ok ()
  | .knownHosts path =>
    match server.hostKey? with
    | none => .error (.of "server presented no host key")
    | some key => do
      let read ← server.lists
      let list ← (read path).mapError (·.within ("failed to read known_hosts file " ++ path))
      let (host, port) := splitHostPort address
      (list host port key).outcome address path

/-- A server that presents no key. -/
def Server.silent : Server Empty := ⟨none, .ok fun _ => .ok fun _ _ => nofun⟩

/-- The check when the server has presented no key, at whatever address. -/
def verifyHostKey : HostKeyPolicy → Except Failure Unit := checkHostKey Server.silent ""

/-- Opening a channel without a connection. -/
def openChannel : Except Failure Unit := .error (.of "failed to open SSH channel")

/-- Ending a session that has no connection. -/
def disconnect : Except Failure Unit := .ok ()

end Runbook.Ssh
