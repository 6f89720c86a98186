/-
  The settings that every session of a chain is made with.

  An `Overlay` is a set of environment variables; the last value put under a name is the
  one it has.
-/
import Runbook.Session.Params

namespace Runbook

/-- What is asked of a host's key before it is trusted. -/
inductive HostKeyPolicy where
  | acceptAny
  /-- The key must be listed in a file of known hosts. -/
  | knownHosts (path : String)
  deriving DecidableEq, Repr

/-- Where private keys are looked for, and what their files are called. -/
structure DiscoverySettings where
  /-- The directory below the home directory. -/
  keyDir : String := ".ssh"
  keyPatterns : List String := ["*id_rsa", "*id_ecdsa", "*id_ed25519", "*.pem"]
  deriving DecidableEq, Repr

/-- Environment variables, each name once. -/
abbrev Overlay := List (String × String)

namespace Overlay

/-- The value of a variable. -/
def get? (o : Overlay) (name : String) : Option String := o.lookup name

/-- Gives a variable a value; a name that is there already keeps its place. -/
def put (o : Overlay) (name value : String) : Overlay :=
  if o.any (·.1 == name) then o.map fun v => if v.1 == name then (name, value) else v
  else o ++ [(name, value)]

/-- Gives each variable of a list its value, in order. -/
def putAll (o : Overlay) (vs : List (String × String)) : Overlay :=
  vs.foldl (fun o v => o.put v.1 v.2) o

end Overlay

/-- Everything that sessions are made with. -/
structure Settings where
  timeoutMs : Nat := 5000
  policy : HostKeyPolicy := .acceptAny
  /-- The interpreter of local commands. -/
  shell : String := "sh"
  /-- Variables added to the environment of local commands. -/
  env : Overlay := []
  /-- How keys are discovered, if they are. -/
  discovery : Option DiscoverySettings := none
  deriving DecidableEq, Repr

end Runbook
