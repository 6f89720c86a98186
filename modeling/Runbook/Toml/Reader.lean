/-
  Reading TOML documents.

  A document is a list of lines: headers, which open tables, and keys with values, which
  go into the table that was opened last. `Toml.parse?` gives the table of the whole
  document.
-/
import Runbook.Toml.Scalar

namespace Runbook.Toml

open Read

/-- Moves over a comment, if one starts here. -/
def skipComment : Read Unit := do
  if ← take "#" then
    let _ ← takeWhile isPrintable

/-- Moves over blanks, comments and line ends. -/
def skipGap : Nat → Read Unit
  | 0 => pure ()
  | fuel + 1 => do
    let _ ← takeWhile isBlank
    skipComment
    let n := lineEndLength (← rest)
    if n = 0 then pure () else do
      skip n
      skipGap fuel

/-- Moves over the end of a line, which may be a comment, or sees the end of the text. -/
def endLine : Read Unit := do
  let _ ← takeWhile isBlank
  skipComment
  let s ← rest
  require (s.isEmpty || lineEndLength s ≠ 0)
  skip (lineEndLength s)

/-- A character of a key without quotes. -/
def isKeyChar (c : Char) : Bool := c.isAlphanum || c == '_' || c == '-'

/-- One key. -/
def key : Read String := do
  let fuel := (← rest).length + 1
  if ← take "\"" then lineText '"' fuel []
  else if ← take "'" then lineText '\'' fuel []
  else do
    let k ← takeWhile isKeyChar
    require !k.isEmpty
    pure (String.ofList k)

/-- Collections and keys may be nested this deep. -/
def maxDepth : Nat := 80

/-- Keys with points between them: those on the way, and the last one. -/
def dottedKeys : Nat → Read (List String × String)
  | 0 => failure
  | fuel + 1 => do
    let _ ← takeWhile isBlank
    let k ← key
    let _ ← takeWhile isBlank
    if ← take "." then do
      let (path, last) ← dottedKeys fuel
      pure (k :: path, last)
    else pure ([], k)

/-- Dotted keys, not too many. -/
def keys (fuel : Nat) : Read (List String × String) := do
  let (path, last) ← dottedKeys fuel
  require (decide (path.length < maxDepth))
  pure (path, last)

mutual

/-- A value, in which `depth` more collections may be opened. -/
def value (depth : Nat) : Nat → Read Value
  | 0 => failure
  | fuel + 1 => do
    match ← text? with
    | some s => pure (.text s)
    | none =>
      if ← take "[" then do
        require (depth ≠ 0)
        (.array · false) <$> arrayItems (depth - 1) fuel
      else if ← take "\x7b" then do
        require (depth ≠ 0)
        inlineEntries (depth - 1) fuel (.table .inline [])
      else word

/-- The rest of an array. -/
def arrayItems (depth : Nat) : Nat → Read (List Value)
  | 0 => failure
  | fuel + 1 => do
    skipGap (← rest).length
    if ← take "]" then pure []
    else do
      let v ← value depth fuel
      skipGap (← rest).length
      if ← take "," then (v :: ·) <$> arrayItems depth fuel
      else do
        expect "]"
        pure [v]

/-- The rest of an inline table. -/
def inlineEntries (depth : Nat) : Nat → Value → Read Value
  | 0, _ => failure
  | fuel + 1, table => do
    skipGap (← rest).length
    if ← take "\x7d" then pure table
    else do
      let (path, last) ← keys fuel
      expect "="
      let _ ← takeWhile isBlank
      let v ← value depth fuel
      let table ← Value.insert path last v table
      skipGap (← rest).length
      if ← take "," then inlineEntries depth fuel table
      else do
        expect "\x7d"
        pure table

end

/-- Tables that dotted keys have made inside an inline table are closed with it. -/
def closed : Nat → Value → Value
  | fuel + 1, .table _ es => .table .inline (es.map fun e => (e.1, closed fuel e.2))
  | _, v => v

/-- Reads the lines of a document into its table; `path` is the header above them. -/
def lines : Nat → List String → Value → Read Value
  | 0, _, _ => failure
  | fuel + 1, path, root => do
    skipGap (← rest).length
    let s ← rest
    let size := s.length + 1
    if s.isEmpty then pure root
    else if ← take "[[" then do
      let (above, last) ← keys size
      expect "]]"
      endLine
      lines fuel (above ++ [last]) (← root.openItem above last)
    else if ← take "[" then do
      let (above, last) ← keys size
      expect "]"
      endLine
      lines fuel (above ++ [last]) (← root.openTable above last)
    else do
      let (dotted, last) ← keys size
      expect "="
      let _ ← takeWhile isBlank
      let v ← value maxDepth (2 * size)
      endLine
      let v := match v with
        | .table .inline _ => closed size v
        | v => v
      lines fuel path (← root.within false (Value.insert dotted last v) path)

/-- The table of a document. -/
def parse? (text : String) : Option Value :=
  let s := match text.toList with
    | '\ufeff' :: r => r
    | r => r
  ((lines (s.length + 1) [] (.table .header [])).run s).map (·.1)

end Runbook.Toml
