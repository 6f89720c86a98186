/-
  What a session is told: where to connect, as whom, with which credentials, and what a
  scope declares about that with its own entries.

  * `AuthMethod.debug` never shows a secret: a password is hidden, and a key is named by
    where it was found;
  * `Declarations.record` takes the last value given under each reserved key.
-/
import Runbook.Text.Printable
import Runbook.Text.Styled

namespace Runbook

/-- A way to prove who one is. -/
inductive AuthMethod where
  | password (secret : String)
  /-- A private key in PEM form, and where it was found. -/
  | privateKey (source pem : String)
  deriving DecidableEq, Repr

/-- A method as debug output shows it. -/
def AuthMethod.debug : AuthMethod → String
  | .password _ => "Password([REDACTED])"
  | .privateKey source _ => "PrivateKey(" ++ source ++ ")"

/-- A list of methods as debug output shows it. -/
def authDebug (auth : List AuthMethod) : String :=
  "[" ++ Text.joinWith ", " (auth.map AuthMethod.debug) ++ "]"

/-- Where a session connects. -/
structure Params where
  /-- Host and port; empty if no remote host was declared. -/
  address : String := ""
  user : String := ""
  auth : List AuthMethod := []
  deriving DecidableEq, Repr

/-- Parameters as debug output shows them. -/
def Params.debug (p : Params) : String :=
  "ConnectionParams \x7b address: " ++ Text.quoted p.address ++ ", user: " ++ Text.quoted p.user
    ++ ", auth: " ++ authDebug p.auth ++ " \x7d"

/-- The settings that a scope declares with its own entries. -/
structure Declarations where
  addr : Option String := none
  user : Option String := none
  password : Option String := none
  deriving DecidableEq, Repr

namespace Declarations

/-- The keys that configure a scope and never name a chain. -/
def reservedKeys : List String := ["addr", "user", "password"]

/-- A key that configures a scope. -/
def isReserved (key : String) : Bool := reservedKeys.contains key

/-- Records the value of a reserved key; any other key is refused. -/
def record (d : Declarations) (key value : String) : Option Declarations :=
  if key = "addr" then some { d with addr := some value }
  else if key = "user" then some { d with user := some value }
  else if key = "password" then some { d with password := some value }
  else none

/-- Nothing was declared. -/
def isEmpty (d : Declarations) : Bool :=
  d.addr.isNone && d.user.isNone && d.password.isNone

/-- A key is recorded exactly if it is reserved. -/
theorem record_isSome (d : Declarations) (key value : String) :
    (d.record key value).isSome = isReserved key := by
  unfold record isReserved reservedKeys
  by_cases h : key = "addr"
  · simp [h]
  · by_cases h' : key = "user"
    · simp [h']
    · by_cases h'' : key = "password" <;> simp [h, h', h'']

end Declarations

/-- The parameters after a scope's declarations are merged in: an address or a user
    replaces the one before, a password is added to the methods. -/
def Params.merge (p : Params) (d : Declarations) : Params where
  address := d.addr.getD p.address
  user := d.user.getD p.user
  auth := p.auth ++ (d.password.map AuthMethod.password).toList

end Runbook
