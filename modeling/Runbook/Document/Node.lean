/-
  The nodes that a document is made of, in the shapes that a chain can be built from.

  A node is a text, a block with one key, or a sequence; every other shape is kept as
  `other` with the reason why no chain can contain it.
-/

namespace Runbook

/-- Shapes that a chain cannot contain. -/
inductive OtherShape where
  | null
  | manyKeys
  | noKeys
  | compoundKey
  deriving DecidableEq, Repr

/-- The name of a shape in messages. -/
def OtherShape.name : OtherShape → String
  | .null => "null"
  | .manyKeys => "multi-key mapping"
  | .noKeys => "empty mapping"
  | .compoundKey => "mapping with non-scalar key"

/-- A document. -/
inductive Node where
  /-- A command line or the value of a setting. -/
  | scalar (text : String)
  /-- A mapping with exactly one key. -/
  | block (key : String) (value : Node)
  | sequence (items : List Node)
  | other (shape : OtherShape)
  deriving Repr

namespace Node

/-- The name of a node's shape in messages. -/
def kind : Node → String
  | scalar _ => "scalar"
  | block _ _ => "single-key mapping"
  | sequence _ => "sequence"
  | other shape => shape.name

/-- The text of a scalar. -/
def scalar? : Node → Option String
  | scalar text => some text
  | _ => none

/-- The items of a sequence. -/
def items? : Node → Option (List Node)
  | sequence items => some items
  | _ => none

end Node

end Runbook
