/-
  Reports about patterns that are refused.

  A report shows the pattern and marks under it the parts that a fault is about. The lines
  of a pattern with several are numbered. `regex` reads a pattern to the end.
-/
import Runbook.Text.Written.Meaning
import Runbook.Text.Written.Reader

namespace Runbook.Text.Written

/-- A line and a column of a pattern, both from one on. -/
structure Spot where
  line : Nat
  column : Nat

/-- The spot of the character with a number. -/
def spot (pattern : List Char) (offset : Nat) : Spot :=
  let before := pattern.take offset
  ⟨(before.filter (· == '\n')).length + 1, (before.reverse.takeWhile (· ≠ '\n')).length + 1⟩

/-- The lines of a pattern without their ends; there is none after the last line feed. -/
def linesOf (pattern : List Char) : List (List Char) :=
  let parts := pieces '\n' pattern
  let parts := if parts.getLast? == some [] then parts.dropLast else parts
  parts.map fun l => if l.getLast? == some '\r' then l.dropLast else l

/-- The marks for the spans in one line, each given by its first column and its length. -/
def marks : Nat → List (Nat × Nat) → List Char
  | _, [] => []
  | at_, (column, length) :: spans =>
    List.replicate (column - at_) ' ' ++ List.replicate length '^' ++
      marks (max at_ column + length) spans

/-- A line with its number and the marks under it. -/
def markedLine (width number : Nat) (line : List Char) (spans : List (Nat × Nat)) : String :=
  let label := toString number
  let front := if width = 0 then "    "
    else String.ofList (List.replicate (width - label.length) ' ') ++ label ++ ": "
  let under := if spans.isEmpty then ""
    else String.ofList (List.replicate front.length ' ' ++ marks 1 spans) ++ "\n"
  front ++ String.ofList line ++ "\n" ++ under

/-- The report about a fault. -/
def report (pattern : String) (f : Fault) : String :=
  let text := pattern.toList
  let lines := linesOf text
  let count := lines.length + (if text.getLast? == some '\n' then 1 else 0)
  let width := if count ≤ 1 then 0 else (toString count).length
  let spans := (f.span :: f.other.toList).mergeSort fun s t =>
    s.start < t.start || (s.start == t.start && s.stop ≤ t.stop)
  let spots := spans.map fun s => (spot text s.start, spot text s.stop)
  let inLine (n : Nat) : List (Nat × Nat) := spots.filterMap fun (a, b) =>
    if a.line == n && b.line == n then some (a.column, max 1 (b.column - a.column)) else none
  let shown := String.join (lines.zipIdx.map fun (l, i) => markedLine width (i + 1) l (inLine (i + 1)))
  let across := (spots.filter fun (a, b) => a.line != b.line).map fun (a, b) =>
    "on line " ++ toString a.line ++ " (column " ++ toString a.column ++ ") through line " ++
      toString b.line ++ " (column " ++ toString (b.column - 1) ++ ")\n"
  let divider := String.ofList (List.replicate 79 '~') ++ "\n"
  "regex parse error:\n" ++
    (if text.contains '\n' then divider ++ shown ++ divider ++ String.join across else shown) ++
    "error: " ++ f.kind.message

/-- The states of a pattern may take this many bytes. -/
def sizeLimit : Nat := 10 * 1024 * 1024

/-- The regular expression of a pattern, or the words for its refusal. -/
def regex (pattern : String) : Except String Regex := do
  let m ← ((read pattern).bind Ast.meaning).mapError (report pattern)
  if sizeLimit < m.size then
    throw ("Compiled regex exceeds size limit of " ++ toString sizeLimit ++ " bytes.")
  if m.asksForWords then throw "error building NFA"
  pure m.regex

end Runbook.Text.Written
