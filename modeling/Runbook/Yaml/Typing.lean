/-
  The types of YAML scalars, and the value that a tree stands for.

  A plain scalar without a tag is a null, a boolean, an integer or a floating-point
  number if it is written like one, and else a text. Scalars between quotes and block
  scalars are texts. Four tags force a type.
-/
import Runbook.Document.Value
import Runbook.Yaml.Tree

namespace Runbook.Yaml

/-! ## Plain scalars -/

/-- The spellings of null. -/
def isNullWord (s : String) : Bool := ["~", "null", "Null", "NULL"].contains s

/-- The boolean with a spelling. -/
def bool? (s : String) : Option Bool :=
  if ["true", "True", "TRUE"].contains s then some true
  else if ["false", "False", "FALSE"].contains s then some false
  else none

/-- The digits of a number in a base, at least one. -/
def digits? (base : Nat) (s : List Char) : Option Nat := do
  guard !s.isEmpty
  s.foldlM (fun n c => do
    let d ← Bytes.hexValue? c
    guard (d < base)
    pure (n * base + d)) 0

/-- Digits of which the first one of several is a zero, after an optional sign. -/
def hasLeadingZero (s : List Char) : Bool :=
  let digits := match s with
    | '-' :: r => r
    | '+' :: r => r
    | r => r
  match digits with
  | '0' :: d :: r => (d :: r).all Number.isDigit
  | _ => false

/-- The integer that a scalar is written as: an optional sign, an optional mark of the
    base 16, 8 or 2, and digits. -/
def integer? (s : List Char) : Option Int :=
  if hasLeadingZero s then none
  else
    let (negative, body) := match s with
      | '-' :: r => (true, r)
      | '+' :: r => (false, r)
      | r => (false, r)
    let magnitude := match body with
      | '0' :: 'x' :: r => digits? 16 r
      | '0' :: 'o' :: r => digits? 8 r
      | '0' :: 'b' :: r => digits? 2 r
      | r => digits? 10 r
    magnitude.map fun n => if negative then -(n : Int) else n

/-- An integer fits into 64 bits, with a sign if it is negative. -/
def fitsWord (n : Int) : Bool := -(Nat.pow 2 63 : Nat) ≤ n && n < Nat.pow 2 64

/-- An integer fits into 128 bits, with a sign if it is negative. -/
def fitsDoubleWord (n : Int) : Bool := -(Nat.pow 2 127 : Nat) ≤ n && n < Nat.pow 2 128

/-- The floating-point number that a scalar is written as. Infinity and the value that
    is no number have spellings of their own; a decimal must be finite. -/
def real? (s : String) : Option Binary64 :=
  if [".inf", ".Inf", ".INF", "+.inf", "+.Inf", "+.INF"].contains s then
    some (.infinite false)
  else if ["-.inf", "-.Inf", "-.INF"].contains s then some (.infinite true)
  else if [".nan", ".NaN", ".NAN"].contains s then some .nan
  else (Number.real? s.toList).filter Binary64.isFinite

/-- The value of a plain scalar without a tag. An integer between 64 and 128 bits is
    refused, a larger one is a floating-point number. -/
def plainValue? (s : String) : Option Value :=
  if s.isEmpty || isNullWord s then some .null
  else if let some b := bool? s then some (.bool b)
  else match (integer? s.toList).filter fitsDoubleWord with
  | some n => if fitsWord n then some (.number (.integer n)) else none
  | none =>
    if hasLeadingZero s.toList then some (.text s)
    else match real? s with
    | some x => some (.number (.real x))
    | none => some (.text s)

/-! ## Tags -/

/-- A tag of a document's own, without the mark that it starts with. Its bytes are the
    UTF-8 text of it. -/
def ownTag? (tag : Option Bytes) : Option String := do
  let text ← Bytes.decode? (← tag)
  match text.toList with
  | ['!'] => some "!"
  | '!' :: rest => some (String.ofList rest)
  | _ => none

/-- The value of a scalar with a tag of the language. -/
def forcedValue? (tag text : String) : Option Value :=
  if tag = "tag:yaml.org,2002:bool" then (bool? text).map .bool
  else if tag = "tag:yaml.org,2002:int" then do
    let n ← integer? text.toList
    guard (fitsWord n)
    pure (.number (.integer n))
  else if tag = "tag:yaml.org,2002:float" then (real? text).map (.number ∘ .real)
  else if tag = "tag:yaml.org,2002:null" then do
    guard (isNullWord text)
    pure .null
  else some (.text text)

/-- A value under the tag of its document, if it has one. -/
def underTag (m : Marks) (v : Value) : Value :=
  match ownTag? m.tag with
  | some tag => .tagged tag v
  | none => v

/-- The value of a scalar. -/
def scalarValue? (m : Marks) (text : String) (plain : Bool) : Option Value :=
  match m.tag, ownTag? m.tag with
  | some tag, none => forcedValue? ((Bytes.decode? tag).getD "") text
  | _, _ => (underTag m) <$> if plain then plainValue? text else some (.text text)

/-! ## Trees -/

mutual

/-- The nodes of a tree that have an anchor, in the order of the document. -/
def Tree.anchored : Tree → List (Nat × Tree)
  | .scalar m text plain => (m.anchor.map (·, .scalar m text plain)).toList
  | .alias _ => []
  | .sequence m items => (m.anchor.map (·, .sequence m items)).toList ++ anchoredItems items
  | .mapping m pairs => (m.anchor.map (·, .mapping m pairs)).toList ++ anchoredPairs pairs

/-- The nodes with an anchor among items. -/
def anchoredItems : List Tree → List (Nat × Tree)
  | [] => []
  | t :: ts => t.anchored ++ anchoredItems ts

/-- The nodes with an anchor among entries. -/
def anchoredPairs : List Pair → List (Nat × Tree)
  | [] => []
  | .mk k v :: ps => k.anchored ++ v.anchored ++ anchoredPairs ps

end

mutual

/-- The number of marks that a tree is written with: one for a scalar or an alias, two
    for the ends of a collection. -/
def Tree.size : Tree → Nat
  | .scalar .. => 1
  | .alias _ => 1
  | .sequence _ items => itemsSize items + 2
  | .mapping _ pairs => pairsSize pairs + 2

/-- The size of a list of items. -/
def itemsSize : List Tree → Nat
  | [] => 0
  | t :: ts => t.size + itemsSize ts

/-- The size of a list of entries. -/
def pairsSize : List Pair → Nat
  | [] => 0
  | .mk k v :: ps => k.size + v.size + pairsSize ps

end

/-- What a document is resolved in: its anchors, and how many aliases may still be
    followed. -/
structure Anchors where
  nodes : List (Nat × Tree)
  left : Nat

/-- Resolution, which may refuse a document. -/
abbrev Resolve := StateT Anchors Option

/-- The node that an alias stands for; the last one with its number counts. -/
def follow (anchor : Nat) : Resolve Tree := do
  let a ← get
  if a.left = 0 then failure
  set { a with left := a.left - 1 }
  a.nodes.reverse.lookup anchor

/-- The entries of a mapping, no two with the same key. -/
def entriesOf (value : Tree → Resolve Value) (pairs : List Pair) : Resolve (List Entry) :=
  pairs.foldlM (fun es p => do
    let .mk k v := p
    let key ← value k
    if es.any (·.key.same key) then failure
    pure (es ++ [.mk key (← value v)])) []

/-- The value of a node, given how the nodes inside it are resolved: none may be inside
    it at the greatest depth. -/
def nodeValue (inside : Option (Tree → Resolve Value)) : Tree → Resolve Value
  | .scalar m text plain => scalarValue? m text plain
  | .alias _ => failure
  | .sequence m items => do
    let vs ← items.mapM (← inside)
    pure (underTag m (.sequence vs))
  | .mapping m pairs => do
    let es ← entriesOf (← inside) pairs
    pure (underTag m (.mapping es))

/-- The value of a tree in which collections are nested at most `depth` deep. -/
def treeValue (depth : Nat) (t : Tree) : Resolve Value := do
  let t ← match t with
    | .alias anchor => follow anchor
    | t => pure t
  match depth with
  | 0 => nodeValue none t
  | d + 1 => nodeValue (some (treeValue d)) t

/-- Collections may be nested this deep. -/
def maxDepth : Nat := 128

/-- An alias may be followed this often for each mark of the document. -/
def maxRepetition : Nat := 100

/-- The value that a tree stands for. -/
def Tree.value? (t : Tree) : Option Value :=
  (treeValue maxDepth t ⟨t.anchored, maxRepetition * t.size⟩).map (·.1)

end Runbook.Yaml
