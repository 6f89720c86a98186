/-
  The tables and values of a TOML document.

  A table remembers how it came about, because that decides what may be added to it: a
  header may open a table that only its sub-tables have named so far, dotted keys may
  extend a table that dotted keys have made, and an inline table is closed.
-/

namespace Runbook.Toml

/-- How a table came about. -/
inductive Origin where
  | header
  /-- Named by the headers of its sub-tables only. -/
  | implied
  | dottedKey
  | inline
  deriving DecidableEq, Repr

/-- A value. -/
inductive Value where
  | text (s : String)
  | integer (n : Int)
  | float
  /-- A number that is written properly but has no value: it is too large, or the mark of
      its base is all there is. -/
  | unreadable
  | bool (b : Bool)
  /-- A date, a time or both, as it is written out in full. -/
  | moment (text : String)
  /-- An array; `ofTables` if headers make its items. -/
  | array (items : List Value) (ofTables : Bool)
  | table (origin : Origin) (entries : List (String × Value))

mutual

/-- Every number in a value has a value itself. -/
def Value.isReadable : Value → Bool
  | .unreadable => false
  | .array items _ => areReadable items
  | .table _ entries => haveReadable entries
  | _ => true

/-- Every item is readable. -/
def areReadable : List Value → Bool
  | [] => true
  | v :: vs => v.isReadable && areReadable vs

/-- Every entry has a readable value. -/
def haveReadable : List (String × Value) → Bool
  | [] => true
  | (_, v) :: es => v.isReadable && haveReadable es

end

/-- The keys of a table and their values. -/
abbrev Entries := List (String × Value)

/-- Changes the value under a key, which is added if it is new. -/
def Entries.put (es : Entries) (key : String) (v : Value) : Entries :=
  if es.any (·.1 == key) then es.map fun e => if e.1 == key then (key, v) else e
  else es ++ [(key, v)]

/-- Changes the last item of an array. -/
def withLast (f : Value → Option Value) (items : List Value) : Option (List Value) := do
  let last ← items.getLast?
  let v ← f last
  pure (items.dropLast ++ [v])

/-- Changes the table at a path below a table. Headers pass through every table but inline
    ones, and through the last table of an array; dotted keys only through tables that
    no header has opened. -/
def Value.within (dotted : Bool) (f : Value → Option Value) : List String → Value → Option Value
  | [], .table origin es => f (.table origin es)
  | [], _ => none
  | key :: path, .table origin es => do
    let fresh : Value := .table (if dotted then .dottedKey else .implied) []
    let inner ← match es.lookup key with
      | none => Value.within dotted f path fresh
      | some (.array items true) =>
        (withLast (Value.within dotted f path) items).map (.array · true)
      | some (.table o ds) =>
        if o == .inline || (dotted && o == .header) then none
        else Value.within dotted f path (.table o ds)
      | some _ => none
    pure (.table origin (Entries.put es key inner))
  | _ :: _, _ => none

/-- Opens the table that a header names. -/
def Value.openTable (path : List String) (key : String) : Value → Option Value :=
  Value.within false (fun
    | .table origin es =>
      match es.lookup key with
      | none => some (.table origin (Entries.put es key (.table .header [])))
      | some (.table .implied ds) => some (.table origin (Entries.put es key (.table .header ds)))
      | some _ => none
    | _ => none) path

/-- Adds a table to the array that a header names. -/
def Value.openItem (path : List String) (key : String) : Value → Option Value :=
  Value.within false (fun
    | .table origin es =>
      match es.lookup key with
      | none => some (.table origin (Entries.put es key (.array [.table .header []] true)))
      | some (.array items true) =>
        some (.table origin (Entries.put es key (.array (items ++ [.table .header []]) true)))
      | some _ => none
    | _ => none) path

/-- Puts a value under a key of a table, by dotted keys on the way. -/
def Value.insert (path : List String) (key : String) (v : Value) : Value → Option Value :=
  Value.within true (fun
    | .table origin es =>
      if (origin == .dottedKey) == path.isEmpty || (es.lookup key).isSome then none
      else some (.table origin (Entries.put es key v))
    | _ => none) path

end Runbook.Toml
