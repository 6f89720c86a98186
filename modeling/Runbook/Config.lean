/-
  The configuration of a user: which shell runs local commands, how remote hosts are
  reached, where keys are discovered and which variables commands see.

  A configuration is the table of a TOML document; `Config.ofToml?` reads it. A section
  is a table, or an array that lists the values of its fields in order. Keys that mean
  nothing are passed over.
-/
import Runbook.Session.Settings
import Runbook.Toml.Reader

namespace Runbook

/-- How the keys of remote hosts are checked. -/
inductive HostKeyMode where
  | acceptAny
  | knownHosts
  deriving DecidableEq, Repr

namespace HostKeyMode

/-- The word for a mode. -/
def name : HostKeyMode → String
  | acceptAny => "accept-any"
  | knownHosts => "known-hosts"

/-- The mode of a word. -/
def ofName? (s : String) : Option HostKeyMode := [acceptAny, knownHosts].find? (·.name == s)

end HostKeyMode

/-- What a user configures. -/
structure Config where
  shell : Option String := none
  timeoutSecs : Nat := 5
  hostKeys : HostKeyMode := .acceptAny
  /-- The file of known hosts. -/
  knownHosts : Option String := none
  discovers : Bool := false
  keyDir : Option String := none
  keyPatterns : Option (List String) := none
  env : Overlay := []
  deriving DecidableEq, Repr

namespace Config

/-! ## Values -/

/-- A text. -/
def text? : Toml.Value → Option String
  | .text s => some s
  | _ => none

/-- A list of texts. -/
def texts? : Toml.Value → Option (List String)
  | .array items _ => items.mapM text?
  | _ => none

/-- A truth value. -/
def bool? : Toml.Value → Option Bool
  | .bool b => some b
  | _ => none

/-- A number of seconds: an integer of at most 64 bits without a sign. -/
def seconds? : Toml.Value → Option Nat
  | .integer n => if 0 ≤ n ∧ n < Nat.pow 2 64 then some n.toNat else none
  | _ => none

/-- A mode: its word, or a table with the word as its only key and nothing under it. -/
def mode? : Toml.Value → Option HostKeyMode
  | .text s => HostKeyMode.ofName? s
  | .table _ [(key, .table _ [])] | .table _ [(key, .array [] _)] => HostKeyMode.ofName? key
  | _ => none

/-- The key under which a date stands where a table is asked for. -/
def momentKey : String := "$__toml_private_datetime"

/-- The entries of a table of texts. -/
def textTable? : Toml.Value → Option Overlay
  | .table _ es => es.mapM fun (key, v) => (text? v).map (key, ·)
  | .moment s => some [(momentKey, s)]
  | _ => none

/-! ## Sections -/

/-- A part of the document: values by their names, or in the order of the fields. -/
inductive Section where
  | named (entries : Toml.Entries)
  | listed (items : List Toml.Value)

namespace Section

/-- The section that a value is; a date names no field. -/
def of? : Toml.Value → Option Section
  | .table _ es => some (.named es)
  | .moment _ => some (.named [])
  | .array items _ => some (.listed items)
  | _ => none

/-- The section under a key, which has no fields if the key is missing. -/
def under (key : String) : Toml.Value → Option Section
  | .table _ es =>
    match es.lookup key with
    | some v => of? v
    | none => some (.named [])
  | _ => none

/-- The value of a field by its name or its place. -/
def get? (s : Section) (name : String) (place : Nat) : Option Toml.Value :=
  match s with
  | named es => es.lookup name
  | listed items => items[place]?

/-- A field that has a value whether it is there or not. -/
def field {α : Type} (s : Section) (name : String) (place : Nat) (default : α)
    (read : Toml.Value → Option α) : Option α :=
  match s.get? name place with
  | some v => read v
  | none => some default

/-- A field that need not be there in a section of names. -/
def option {α : Type} (s : Section) (name : String) (place : Nat) (read : Toml.Value → Option α) :
    Option (Option α) :=
  match s.get? name place, s with
  | some v, _ => (read v).map some
  | none, named _ => some none
  | none, listed _ => none

/-- The number of fields of a section. -/
def size? (name : String) : Option Nat := [("runner", 1), ("ssh", 3), ("discovery", 3)].lookup name

/-- What is read of a value under a key: of a list of fields nothing after the last one. -/
def read (name : String) (v : Toml.Value) : Toml.Value :=
  match size? name, v with
  | some n, .array items ofTables => .array (items.take n) ofTables
  | _, v => v

end Section

/-! ## Documents -/

/-- Every number that is read in the table of a document has a value. -/
def isReadable : Toml.Value → Bool
  | .table _ es => es.all fun (key, v) => (Section.read key v).isReadable
  | v => v.isReadable

/-- The configuration in the table of a document. -/
def ofToml? (v : Toml.Value) : Option Config := do
  guard (isReadable v)
  let runner ← Section.under "runner" v
  let ssh ← Section.under "ssh" v
  let discovery ← Section.under "discovery" v
  let base : Config := {}
  let env ← match v with
    | .table _ es =>
      match es.lookup "env" with
      | some e => textTable? e
      | none => some []
    | _ => none
  pure
    { shell := ← runner.option "shell" 0 text?
      timeoutSecs := ← ssh.field "timeout_secs" 0 base.timeoutSecs seconds?
      hostKeys := ← ssh.field "host_key_policy" 1 base.hostKeys mode?
      knownHosts := ← ssh.option "known_hosts" 2 text?
      discovers := ← discovery.field "enabled" 0 base.discovers bool?
      keyDir := ← discovery.option "key_dir" 1 text?
      keyPatterns := ← discovery.option "key_patterns" 2 texts?
      env }

/-- The configuration in a document, if it is one. -/
def parse? (text : String) : Option Config := do
  ofToml? (← Toml.parse? text)

end Config

end Runbook
