/-
  Loading chains from documents: from a text, or from a file of the machine.

  * `Node.parse` reads a YAML text as the node it stands for: a text holds one document, and
    an empty text stands for null;
  * `Chain.load` compiles what it reads.
-/
import Runbook.Chain.Compile
import Runbook.Machine.Basic
import Runbook.Yaml.Lexer
import Runbook.Yaml.Typing

namespace Runbook

/-- The value of a YAML text. -/
def Value.parse? (text : String) : Option Value := do
  let s := text.toList
  guard (s.all Yaml.isAllowed)
  match ← Yaml.Tree.ofTokens? (← Yaml.tokens? s) with
  | none => some .null
  | some t => t.value?

/-- The node of a YAML text. -/
def Node.parse (text : String) : Except Fault Node :=
  match Value.parse? text with
  | some v => .ok (.ofValue v)
  | none => .error .unparsable

/-- Where a document comes from. -/
inductive DocumentSource where
  | text (s : String)
  | file (path : String)
  deriving DecidableEq, Repr

/-- The text of a document, and the notices about reading it. -/
def DocumentSource.read (m : Machine) : DocumentSource → Except Fault String × List Event
  | .text s => (.ok s, [])
  | .file path =>
    ((m.readText path).mapError fun e => .io (path ++ ": " ++ e),
      [.notice (.readingDocument path)])

/-- The chain of a document. -/
def Chain.load (m : Machine) (s : Settings) (source : DocumentSource) :
    Except Fault Chain × List Event :=
  let (text, reading) := source.read m
  match text.bind Node.parse with
  | .error e => (.error e, reading)
  | .ok n =>
    let (c, compiling) := Chain.ofDocument s n
    (c, reading ++ compiling)

end Runbook
