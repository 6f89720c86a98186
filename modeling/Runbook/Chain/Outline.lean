/-
  The outline of a chain: a line for each scope with its target, and below it, two blanks
  deeper, a line for each of its items. A scope without a target of its own is shown as
  `enclosing scope`, unless it is the outermost one.
-/
import Runbook.Chain.Tree

namespace Runbook

/-- A line of an outline. -/
inductive OutlineLine where
  | header (name target : String)
  | command (line : String)
  deriving DecidableEq, Repr

/-- The target that stands for wherever the enclosing scope runs. -/
def enclosingLabel : String := "enclosing scope"

/-- The target that an outline shows for a scope. -/
def Scope.label (s : Scope) (depth : Nat) : String :=
  if 0 < depth ∧ s.session.isPassThrough then enclosingLabel else s.session.identify

mutual

/-- The lines of an item, each with its depth. -/
def Item.outline (depth : Nat) : Item → List (Nat × OutlineLine)
  | .command line => [(depth, .command line)]
  | .chain s items => (depth, .header s.name (s.label depth)) :: outlineAll (depth + 1) items

/-- The lines of a list of items. -/
def outlineAll (depth : Nat) : List Item → List (Nat × OutlineLine)
  | [] => []
  | i :: is => i.outline depth ++ outlineAll depth is

end

/-- The text of a line, indented by its depth. -/
def OutlineLine.text (depth : Nat) (l : OutlineLine) : String :=
  String.ofList (List.replicate (2 * depth) ' ') ++
    (match l with
      | .header name target => name ++ " [" ++ target ++ "]"
      | .command line => "$ " ++ line) ++ "\n"

/-- The lines of a chain's outline. -/
def Chain.outline (c : Chain) : List (Nat × OutlineLine) := c.toItem.outline 0

/-- The text of a chain's outline. -/
def Chain.render (c : Chain) : String :=
  String.join (c.outline.map fun (depth, l) => l.text depth)

end Runbook
