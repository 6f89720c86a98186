/-
  The scopes and the commands of a chain, in the order of the document.

  What stands around an item is told by its hosts: the addresses of the scopes around it
  that have one, the innermost first.

  * `Item.scopes` lists the scopes, each before those inside it, and `Item.placed` lists
    them with the hosts around them;
  * `Item.leaves` lists the commands, each with the address of the nearest scope around it
    that has one.
-/
import Runbook.Chain.Tree
import Runbook.Proofs.Session.Place

namespace Runbook

variable {S : Type}

mutual

/-- The scopes of an item, each before those inside it. -/
def Item.scopes : Item S → List (Scope S)
  | .command _ => []
  | .chain s items => s :: scopesAll items

/-- The scopes of the items of a list. -/
def scopesAll : List (Item S) → List (Scope S)
  | [] => []
  | i :: is => i.scopes ++ scopesAll is

end

/-- The scopes of a chain, the outermost first. -/
def Chain.scopes (c : Chain S) : List (Scope S) := c.toItem.scopes

/-- The address of a scope, empty if it has none. -/
def Scope.address (s : Scope) : String := (s.session.params?.map Params.address).getD ""

/-- The hosts inside a scope with this address. -/
def hostsWithin (hosts : List String) (address : String) : List String :=
  if address = "" then hosts else address :: hosts

mutual

/-- The scopes of an item with the hosts around them; the outermost scope has nothing
    around it. -/
def Item.placed (around : Option (List String)) : Item → List (Option (List String) × Scope)
  | .command _ => []
  | .chain s items => (around, s) :: placedAll (hostsWithin (around.getD []) s.address) items

/-- The scopes of the items of a list, with the hosts around them. -/
def placedAll (hosts : List String) : List Item → List (Option (List String) × Scope)
  | [] => []
  | i :: is => i.placed (some hosts) ++ placedAll hosts is

end

mutual

/-- The commands of an item in their order, each with the address of the nearest scope
    around it that has one. -/
def Item.leaves (hosts : List String) : Item → List (Option String × String)
  | .command line => [(hosts.head?, line)]
  | .chain s items => leavesAll (hostsWithin hosts s.address) items

/-- The commands of the items of a list. -/
def leavesAll (hosts : List String) : List Item → List (Option String × String)
  | [] => []
  | i :: is => i.leaves hosts ++ leavesAll hosts is

end

/-- The commands of a chain in their order, each with the address of the nearest scope
    around it that has one; without one it runs on this machine. -/
def Chain.leaves (c : Chain) : List (Option String × String) := c.toItem.leaves []

mutual

@[simp] theorem Item.placed_snd : ∀ (i : Item) (around : Option (List String)),
    (i.placed around).map Prod.snd = i.scopes
  | .command _, _ => rfl
  | .chain s items, around => by simp [Item.placed, Item.scopes, placedAll_snd items]

@[simp] theorem placedAll_snd : ∀ (is : List Item) (hosts : List String),
    (placedAll hosts is).map Prod.snd = scopesAll is
  | [], _ => rfl
  | i :: is, hosts => by simp [placedAll, scopesAll, Item.placed_snd i, placedAll_snd is]

end

@[simp] theorem placedAll_append (hosts : List String) (is is' : List Item) :
    placedAll hosts (is ++ is') = placedAll hosts is ++ placedAll hosts is' := by
  induction is with
  | nil => rfl
  | cons i is ih => rw [List.cons_append, placedAll, placedAll, ih, List.append_assoc]

/-! ## Scopes at rest -/

/-- The sessions of all scopes are at rest. -/
def Rests (st : Settings) (scopes : List Scope) : Prop :=
  ∀ s ∈ scopes, ∃ p, s.session = Session.resting st p

variable {st : Settings}

theorem rests_cons {s : Scope} {ss : List Scope} :
    Rests st (s :: ss) ↔ (∃ p, s.session = Session.resting st p) ∧ Rests st ss := by
  simp [Rests]

theorem rests_append {ss ss' : List Scope} :
    Rests st (ss ++ ss') ↔ Rests st ss ∧ Rests st ss' := by
  simp only [Rests, List.mem_append]
  exact ⟨fun h => ⟨fun s hs => h s (.inl hs), fun s hs => h s (.inr hs)⟩,
    fun h s hs => hs.elim (h.1 s) (h.2 s)⟩

theorem address_of_resting {s : Scope} {p : Params} (rests : s.session = Session.resting st p) :
    s.address = p.address := by
  rw [Scope.address, rests]
  rfl

end Runbook
