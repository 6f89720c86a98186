/-
  From a document to a chain.

  The items of a sequence are read in order. A text is a command. A block under a
  reserved key configures the scope and is never an item. Any other block whose value is
  a sequence is a chain of its own. Whatever else stands there is left out with a
  warning.

  * `Chain.compile` reads one named node; it answers a chain exactly if the node is a
    sequence;
  * `Chain.ofDocument` asks for a block at the top.
-/
import Runbook.Chain.Tree
import Runbook.Document.Node

namespace Runbook

/-- What is read off the entries of a scope: its items, what it declares, and the notices
    given meanwhile. -/
structure Reading where
  items : List Item := []
  declared : Declarations := {}
  events : List Event := []

/-- The scope that is compiled for a name, before it is configured. -/
def Scope.fresh (settings : Settings) (name : String) (inherited : Option Session) : Scope where
  name := name
  session := inherited.getD (.remote (RemoteShell.ofSettings settings))
  discovery := settings.discovery

/-- The chain of a scope whose entries were read, configured as they declare. -/
def Scope.withReading (s : Scope) (r : Reading) : Chain × List Event :=
  if r.declared.isEmpty then ({ scope := s, items := r.items }, r.events)
  else
    let (session, events) := s.session.configure r.declared
    ({ scope := { s with session }, items := r.items }, r.events ++ events)

mutual

/-- Compiles a node under a name, with a session to use in place of a fresh one. -/
def Chain.compile (settings : Settings) (name : String) (node : Node)
    (inherited : Option Session) : Option Chain × List Event :=
  match node with
  | .sequence entries =>
    let (chain, events) := (Scope.fresh settings name inherited).withReading
      (Reading.ofEntries settings name entries {})
    (some chain, events)
  | node => (none, [.notice (.notAChain name node.kind)])

/-- Reads the entries of a scope, in order. -/
def Reading.ofEntries (settings : Settings) (name : String) (entries : List Node) (r : Reading) :
    Reading :=
  match entries with
  | [] => r
  | entry :: rest => Reading.ofEntries settings name rest (r.addEntry settings name entry)

/-- Reads one entry of a scope. -/
def Reading.addEntry (settings : Settings) (name : String) (entry : Node) (r : Reading) :
    Reading :=
  match entry with
  | .scalar line => { r with items := r.items ++ [.command line] }
  | .block key value =>
    if Declarations.isReserved key then
      match value.scalar? with
      | some text => { r with declared := (r.declared.record key text).getD r.declared }
      | none =>
        { r with events := r.events ++ [.notice (.reservedBlock key name value.kind)] }
    else
      match Chain.compile settings key value none with
      | (some chain, events) =>
        { r with items := r.items ++ [chain.toItem], events := r.events ++ events }
      | (none, events) =>
        { r with
          events := r.events ++ events ++ [.notice (.skippedBlock key name value.kind)] }
  | entry => { r with events := r.events ++ [.notice (.skippedEntry entry.kind name)] }

end

/-- Why a document is no chain: it is not a single block. -/
def notSingleChain (node : Node) : Fault :=
  .malformed ("expected a single top-level chain such as 'root:', found " ++ node.kind)

/-- Why a document is no chain: the block's value is not a sequence. -/
def notASequence (name : String) (node : Node) : Fault :=
  .malformed ("chain '" ++ name ++ "' must be a sequence, found " ++ node.kind)

/-- Compiles a document, which must be a single block with a sequence. -/
def Chain.ofDocument (settings : Settings) (document : Node) :
    Except Fault Chain × List Event :=
  match document with
  | .block key value =>
    match Chain.compile settings key value none with
    | (some chain, events) => (.ok chain, events)
    | (none, events) => (.error (notASequence key value), events)
  | node => (.error (notSingleChain node), [])

end Runbook
