/-
  Debug output of structured values: records with named fields, calls with one argument,
  and lists, written on one line or with one part a line.
-/
import Runbook.Text.Printable
import Runbook.Text.Blank

namespace Runbook.Text

/-- A value as debug output shows it. -/
inductive Structured where
  | atom (text : String)
  /-- Labels and values of the fields, pairwise. -/
  | fields (name : String) (labels : List String) (values : List Structured)
  | call (name : String) (argument : Structured)
  | list (items : List Structured)

namespace Structured

/-- A text as a value. -/
def ofText (s : String) : Structured := atom (quoted s)

mutual

/-- The value on one line. -/
def flat : Structured → String
  | atom text => text
  | fields name labels values =>
    name ++ " \x7b " ++ joinWith ", " (List.zipWith (fun l v => l ++ ": " ++ v) labels
      (flatAll values)) ++ " \x7d"
  | call name argument => name ++ "(" ++ argument.flat ++ ")"
  | list items => "[" ++ joinWith ", " (flatAll items) ++ "]"

/-- Each value on one line. -/
def flatAll : List Structured → List String
  | [] => []
  | v :: vs => v.flat :: flatAll vs

end

/-- Lines set one step deeper. -/
def deeper (ls : List String) : List String := ls.map ("    " ++ ·)

/-- Text put before the first of some lines. -/
def leadWith (lead : String) : List String → List String
  | [] => [lead]
  | l :: ls => (lead ++ l) :: ls

/-- Text put after the last of some lines. -/
def endWith (mark : String) : List String → List String
  | [] => [mark]
  | [l] => [l ++ mark]
  | l :: ls => l :: endWith mark ls

mutual

/-- The lines of the value with one part a line, each part followed by a comma. -/
def tall : Structured → List String
  | atom text => text.splitOn "\n"
  | fields name labels values =>
    (name ++ " \x7b") :: (List.zipWith (fun l v => deeper (leadWith (l ++ ": ") (endWith "," v)))
      labels (tallAll values)).flatten ++ ["\x7d"]
  | call name argument => (name ++ "(") :: deeper (endWith "," argument.tall) ++ [")"]
  | list items =>
    match tallAll items with
    | [] => ["[]"]
    | parts => "[" :: (parts.map fun p => deeper (endWith "," p)).flatten ++ ["]"]

/-- The lines of each value. -/
def tallAll : List Structured → List (List String)
  | [] => []
  | v :: vs => v.tall :: tallAll vs

end

/-- The value on one line, or with one part a line. -/
def text (tallForm : Bool) (v : Structured) : String :=
  if tallForm then joinWith "\n" v.tall else v.flat

end Structured

end Runbook.Text
