/-
  The debug output of chains: each scope with its name, its target, its phase and its
  items. Of a session only the target is shown, so no credential can appear. The parameters
  of a session have a debug output of their own, in which secrets are hidden.
-/
import Runbook.Chain.Tree
import Runbook.Text.Structured

namespace Runbook

/-- A command as debug output shows it. -/
def structuredCommand (line : String) : Text.Structured :=
  .fields "SingleCommand" ["command_line"] [.ofText line]

/-- A scope with its items as debug output shows it. -/
def Scope.structured (s : Scope) (items : List Text.Structured) : Text.Structured :=
  .fields "CommandsChain" ["name", "target", "state", "children"]
    [.ofText s.name, .ofText s.session.identify, .atom s.phase.name, .list items]

mutual

/-- An item as debug output shows it. -/
def Item.structured : Item → Text.Structured
  | .command line => .call "Command" (structuredCommand line)
  | .chain s items => .call "Chain" (s.structured (structuredAll items))

/-- The items of a list as debug output shows them. -/
def structuredAll : List Item → List Text.Structured
  | [] => []
  | i :: is => i.structured :: structuredAll is

end

/-- A chain as debug output shows it when it stands alone. -/
def Chain.structured (c : Chain) : Text.Structured := c.scope.structured (structuredAll c.items)

/-- The chain of a document as debug output shows it. -/
def Chain.structuredRoot (c : Chain) : Text.Structured :=
  .fields "Chain" ["root"] [c.structured]

/-! ## Parameters -/

/-- Parameters as debug output shows them; secrets are hidden. -/
def Params.structured (p : Params) : Text.Structured :=
  .fields "ConnectionParams" ["address", "user", "auth"]
    [.ofText p.address, .ofText p.user, .list (p.auth.map fun a => .atom a.debug)]

theorem Text.Structured.flatAll_atoms (texts : List String) :
    flatAll (texts.map .atom) = texts := by
  induction texts with
  | nil => rfl
  | cons t ts ih => rw [List.map_cons, flatAll, ih, flat]

/-- On one line the parameters read as `Params.debug` has them. -/
theorem Params.structured_flat (p : Params) : p.structured.text false = p.debug := by
  have methods : Text.Structured.flatAll (p.auth.map fun a => .atom a.debug) =
      p.auth.map AuthMethod.debug := by
    have atoms := Text.Structured.flatAll_atoms (p.auth.map AuthMethod.debug)
    simpa only [List.map_map, Function.comp_def] using atoms
  rw [Params.structured, Text.Structured.text, if_neg nofun, Text.Structured.flat]
  simp only [Text.Structured.flatAll, Text.Structured.ofText, Text.Structured.flat, methods,
    List.zipWith]
  unfold Params.debug authDebug
  generalize Text.quoted p.address = address, Text.quoted p.user = user,
    Text.joinWith ", " (p.auth.map AuthMethod.debug) = auth
  apply String.toList_inj.1
  simp only [Text.joinWith, String.toList_append, List.append_assoc]
  rfl

end Runbook
