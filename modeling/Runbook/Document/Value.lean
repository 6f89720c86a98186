/-
  Values of a document as they are read, before they are reduced to nodes.

  * `Value` has nulls, booleans, numbers, texts, sequences, mappings, and values under
    a tag;
  * `Value.same` is equality of keys: the order of a mapping's entries does not count;
  * `Node.ofValue` reduces a value to a node. Booleans and numbers become their text,
    tags are dropped, and a mapping is a block exactly when it has one entry whose key
    is a text, a boolean or a number under its tags.
-/
import Runbook.Number
import Runbook.Document.Node

namespace Runbook

mutual

/-- A value of a document. -/
inductive Value where
  | null
  | bool (b : Bool)
  | number (n : Number)
  | text (s : String)
  | sequence (items : List Value)
  | mapping (entries : List Entry)
  | tagged (tag : String) (value : Value)

/-- A key of a mapping and its value. -/
inductive Entry where
  | mk (key value : Value)

end

/-- The key of an entry. -/
def Entry.key : Entry → Value
  | .mk k _ => k

/-- The value of an entry. -/
def Entry.value : Entry → Value
  | .mk _ v => v

/-- A tag without the mark at its start; a mark alone is a tag of its own. -/
def bareTag (tag : String) : List Char :=
  match tag.toList with
  | '!' :: c :: cs => c :: cs
  | cs => cs

mutual

/-- Equality of values as keys. -/
def Value.same : Value → Value → Bool
  | .null, .null => true
  | .bool a, .bool b => a == b
  | .number m, .number n => m.same n
  | .text s, .text t => s == t
  | .sequence xs, .sequence ys => sameItems xs ys
  | .mapping es, .mapping fs => es.length == fs.length && allIn es fs
  | .tagged a v, .tagged b w => bareTag a == bareTag b && v.same w
  | _, _ => false

/-- Two lists have equal values in equal places. -/
def sameItems : List Value → List Value → Bool
  | [], [] => true
  | x :: xs, y :: ys => x.same y && sameItems xs ys
  | _, _ => false

/-- An entry has an equal one in a list. -/
def Entry.isIn : Entry → List Entry → Bool
  | .mk k v, fs => fs.any fun f => k.same f.key && v.same f.value

/-- Each entry of a list has an equal one in the other. -/
def allIn : List Entry → List Entry → Bool
  | [], _ => true
  | e :: es, fs => e.isIn fs && allIn es fs

end

/-- Puts a value under a key: a key that is there already keeps its place. -/
def putEntry (entries : List Entry) (key value : Value) : List Entry :=
  if entries.any (fun e => e.key.same key) then
    entries.map fun e => if e.key.same key then .mk e.key value else e
  else entries ++ [.mk key value]

mutual

/-- The node of a value. -/
def Node.ofValue : Value → Node
  | .text s => .scalar s
  | .bool b => .scalar (if b then "true" else "false")
  | .number n => .scalar n.text
  | .sequence items => .sequence (nodesOf items)
  | .mapping entries => blockOf entries
  | .tagged _ v => Node.ofValue v
  | .null => .other .null

/-- The nodes of the items of a sequence. -/
def nodesOf : List Value → List Node
  | [] => []
  | v :: vs => Node.ofValue v :: nodesOf vs

/-- The block of an entry, if its key is a scalar. -/
def Entry.block : Entry → Node
  | .mk k v =>
    match Node.ofValue k with
    | .scalar key => .block key (Node.ofValue v)
    | _ => .other .compoundKey

/-- The node of a mapping: a block if it has one entry. -/
def blockOf : List Entry → Node
  | [] => .other .manyKeys
  | e :: es =>
    let node := e.block
    if es.isEmpty then node else .other .manyKeys

end

theorem nodesOf_eq_map (vs : List Value) : nodesOf vs = vs.map Node.ofValue := by
  induction vs with
  | nil => rfl
  | cons v vs ih => simp [nodesOf, ih]

@[simp] theorem blockOf_singleton (e : Entry) : blockOf [e] = e.block := rfl

end Runbook
