/-
  Chains: trees of scopes and commands.

  A scope has a name, a session of its own and a phase; its items are commands and
  further chains, in the order of the document. Commands have no session: the scope they
  are run in hands one over.
-/
import Runbook.Session.Capture

namespace Runbook

/-- How far a scope has come. -/
inductive Phase where
  | unconnected | connecting | ready | closed | failed
  deriving DecidableEq, Repr

/-- The name of a phase. -/
def Phase.name : Phase → String
  | .unconnected => "Unconnected"
  | .connecting => "Connecting"
  | .ready => "Ready"
  | .closed => "Closed"
  | .failed => "Failed"

/-- What a scope is, its items apart. Its session is of any kind. -/
structure Scope (S : Type := Session) where
  name : String
  session : S
  phase : Phase := .unconnected
  /-- How the scope finds keys before it connects, if it does. -/
  discovery : Option DiscoverySettings := none
  deriving DecidableEq, Repr

/-- An item of a chain. -/
inductive Item (S : Type := Session) where
  | command (line : String)
  | chain (scope : Scope S) (items : List (Item S))

/-- A scope and its items. -/
structure Chain (S : Type := Session) where
  scope : Scope S
  items : List (Item S)

variable {S : Type}

/-- A chain as an item of another. -/
def Chain.toItem (c : Chain S) : Item S := .chain c.scope c.items

/-- A chain with one more item at its end. -/
def Chain.push (c : Chain S) (i : Item S) : Chain S := { c with items := c.items ++ [i] }

end Runbook
