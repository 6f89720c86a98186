/-
  What the entries of a scope mean, apart from how they are read.

  Every entry is one of three: an item of its scope (a command, or a chain), a setting with a
  value, or something that is left out with a warning.

  * `Node.child?`, `Node.givesSetting` and `Node.warning?` tell which;
  * `Describes st name entries c`: the items of `c` are the children among the entries, in their
    order, and its session has the last value of each setting; and so at every depth;
  * `warningsFor name entries`: one warning for each entry that is left out, in their order, each
    behind the warnings for the scopes before it;
  * `compile_describes`: this is what a node is compiled to, if it is a sequence.
-/
import Runbook.Proofs.Chain.Compiled

namespace Runbook

open Session (resting)

/-! ## Entries -/

/-- What an entry stands for among the items of its scope. -/
inductive Child where
  | command (line : String)
  | chain (name : String) (entries : List Node)

/-- The child that an entry stands for: a text is a command, and a block with a sequence is a
    chain, unless its key is reserved. -/
def Node.child? : Node → Option Child
  | .scalar line => some (.command line)
  | .block key (.sequence entries) =>
    if Declarations.isReserved key then none else some (.chain key entries)
  | _ => none

/-- The entry gives a setting a value. -/
def Node.givesSetting : Node → Bool
  | .block key (.scalar _) => Declarations.isReserved key
  | _ => false

/-- How an entry is reported that is left out of the chain of that name. -/
def Node.report (chain : String) : Node → Notice
  | .block key value =>
    if Declarations.isReserved key then .reservedBlock key chain value.kind
    else .skippedBlock key chain value.kind
  | entry => .skippedEntry entry.kind chain

/-- The warning about an entry: there is one exactly if it is neither a child nor a setting. -/
def Node.warning? (chain : String) (entry : Node) : Option Notice :=
  if entry.child?.isSome || entry.givesSetting then none else some (entry.report chain)

mutual

/-- The warnings for the scopes inside an entry. -/
def Node.warningsInside : Node → List Notice
  | .block key (.sequence entries) =>
    if Declarations.isReserved key then [] else warningsFor key entries
  | _ => []

/-- The warnings for a scope of that name, and for the scopes inside it: for each entry those
    inside it, and then its own. -/
def warningsFor (name : String) : List Node → List Notice
  | [] => []
  | entry :: rest =>
    entry.warningsInside ++ (entry.warning? name).toList ++ warningsFor name rest

end

mutual

/-- The chain is what the entries of a scope of that name describe, at every depth. -/
inductive Describes (st : Settings) : String → List Node → Chain → Prop where
  | mk {name entries items} (children : DescribesAll st (entries.filterMap Node.child?) items) :
      Describes st name entries { scope := Site.scope st ⟨name, entries, none⟩, items }

/-- The items are what the children of a scope describe, one by one. -/
inductive DescribesAll (st : Settings) : List Child → List Item → Prop where
  | nil : DescribesAll st [] []
  | command {line children items} (rest : DescribesAll st children items) :
      DescribesAll st (.command line :: children) (.command line :: items)
  | chain {name entries c children items} (inside : Describes st name entries c)
      (rest : DescribesAll st children items) :
      DescribesAll st (.chain name entries :: children) (c.toItem :: items)

end

/-! ## Warnings -/

/-- A warning that is given. -/
def Event.warning? : Event → Option Notice
  | .notice n => if n.level = .warn then some n else none
  | _ => none

/-- The warnings that are given. -/
def warnings (es : List Event) : List Notice := es.filterMap Event.warning?

@[simp] theorem warnings_append (es es' : List Event) :
    warnings (es ++ es') = warnings es ++ warnings es' := List.filterMap_append

/-- A block is left out exactly if it is neither a setting with a text nor a chain. -/
theorem Node.warning?_block (chain key : String) (value : Node) :
    (Node.block key value).warning? chain =
      if Declarations.isReserved key then
        if value.scalar?.isSome then none else some (.reservedBlock key chain value.kind)
      else if value.items?.isSome then none else some (.skippedBlock key chain value.kind) := by
  by_cases reserved : Declarations.isReserved key = true <;>
    cases value <;> simp [Node.warning?, Node.child?, Node.givesSetting, Node.report, Node.scalar?,
      Node.items?, reserved]

variable {st : Settings}

mutual

/-- Compiling a sequence gives the warnings for its scope, and compiling anything else gives
    none. -/
theorem compile_warnings : ∀ (node : Node) (name : String),
    warnings (Chain.compile st name node none).2 = ((node.items?).map (warningsFor name)).getD []
  | .sequence entries, name => by
    rw [compile_events]
    exact ofEntries_warnings entries name {}
  | .scalar _, _ | .block _ _, _ | .other _, _ => rfl

theorem ofEntries_warnings : ∀ (entries : List Node) (name : String) (r : Reading),
    warnings (Reading.ofEntries st name entries r).events =
      warnings r.events ++ warningsFor name entries
  | [], name, r => by simp [Reading.ofEntries, warningsFor]
  | entry :: rest, name, r => by
    rw [Reading.ofEntries, ofEntries_warnings rest, addEntry_warnings entry, warningsFor,
      List.append_assoc]

theorem addEntry_warnings : ∀ (entry : Node) (name : String) (r : Reading),
    warnings (r.addEntry st name entry).events =
      warnings r.events ++ (entry.warningsInside ++ (entry.warning? name).toList)
  | .scalar _, name, r => (List.append_nil _).symm
  | .sequence _, name, r | .other _, name, r => warnings_append _ _
  | .block key value, name, r => by
    have compiled := compile_warnings value key
    rw [Node.warning?_block]
    unfold Reading.addEntry
    by_cases reserved : Declarations.isReserved key = true
    · rw [if_pos reserved, if_pos reserved]
      cases value <;>
        simp [Node.warningsInside, Node.scalar?, reserved, warnings, Event.warning?, Notice.level]
    · rw [if_neg reserved, if_neg reserved]
      cases value with
      | sequence entries =>
        have some_chain := @compile_sequence st key entries none
        rcases hc : Chain.compile st key (.sequence entries) none with ⟨_ | c, es⟩
        · simp [hc] at some_chain
        · simpa [hc, Node.warningsInside, reserved, Node.items?] using compiled
      | scalar _ | block _ _ | other _ =>
        simp [Chain.compile, Node.warningsInside, Node.items?, warnings, Event.warning?,
          Notice.level, Node.kind]

end

/-! ## Items -/

/-- An entry that is no child is compiled to no item. -/
theorem Node.item?_of_no_child {entry : Node} (no_child : entry.child? = none) :
    entry.item? st = none := by
  cases entry with
  | scalar _ => cases no_child
  | sequence _ | other _ => rfl
  | block key value =>
    by_cases reserved : Declarations.isReserved key = true
    · exact if_pos reserved
    · rw [Node.item?, if_neg reserved]
      cases value with
      | sequence entries => rw [Node.child?, if_neg reserved] at no_child; cases no_child
      | scalar _ | block _ _ | other _ => rfl

/-- The items of a scope are what the children among its entries describe. -/
theorem items_described : ∀ entries : List Node,
    DescribesAll st (entries.filterMap Node.child?) (entries.filterMap (Node.item? st))
  | [] => .nil
  | .scalar _ :: rest => .command (items_described rest)
  | .block key (.sequence entries) :: rest => by
    by_cases reserved : Declarations.isReserved key = true
    · have no_child : (Node.block key (.sequence entries)).child? = none := if_pos reserved
      rw [List.filterMap_cons_none no_child,
        List.filterMap_cons_none (Node.item?_of_no_child no_child)]
      exact items_described rest
    · have child : (Node.block key (.sequence entries)).child? = some (.chain key entries) :=
        if_neg reserved
      rw [List.filterMap_cons_some child,
        List.filterMap_cons_some (item?_scope (Bool.eq_false_iff.2 reserved) entries)]
      exact .chain (.mk (items_described entries)) (items_described rest)
  | .block _ (.scalar _) :: rest | .block _ (.block _ _) :: rest | .block _ (.other _) :: rest
  | .sequence _ :: rest | .other _ :: rest => by
    rw [List.filterMap_cons_none rfl, List.filterMap_cons_none (Node.item?_of_no_child rfl)]
    exact items_described rest

/-! ## The reading of a node -/

/-- **A node is compiled to a chain exactly if it is a sequence, and then the chain is the one
    that its entries describe**, at every depth; whatever is no part of it is left out with a
    warning of its own. -/
theorem compile_describes (st : Settings) (name : String) (node : Node) :
    ((Chain.compile st name node none).1 = none ↔ ∀ entries, node ≠ .sequence entries) ∧
    ∀ entries, node = .sequence entries → ∃ c es,
      Chain.compile st name node none = (some c, es) ∧ Describes st name entries c ∧
        warnings es = warningsFor name entries := by
  refine ⟨⟨?_, fun other => ?_⟩, ?_⟩
  · rintro nothing entries rfl
    rw [compile_sequence entries none] at nothing
    cases nothing
  · cases node with
    | sequence entries => exact absurd rfl (other entries)
    | scalar _ | block _ _ | other _ => rfl
  · rintro entries rfl
    refine ⟨_, _, Prod.ext (compile_sequence entries none) rfl, ?_,
      compile_warnings (.sequence entries) name⟩
    rw [ofEntries_items]
    exact .mk (items_described entries)

/-- Entries of every shape, in no good order. -/
def mixedEntries : List Node :=
  [.scalar "first", .block "addr" (.scalar "old:1"),
    .block "inner" (.sequence [.block "user" (.sequence [.scalar "hidden"]), .scalar "second",
      .other .null]),
    .block "addr" (.block "deep" (.sequence [.scalar "hidden"])), .block "notes" (.scalar "text"),
    .sequence [.scalar "nested"], .block "addr" (.scalar "new:2"), .scalar "third",
    .block "password" (.scalar "s3cret")]

/-- The last settings count, and what is left out is warned about, here and inside. -/
theorem mixed_described : ∃ c es,
    Chain.compile sampleSettings "root" (.sequence mixedEntries) none = (some c, es) ∧
      c.leaves = [(some "new:2", "first"), (some "new:2", "second"), (some "new:2", "third")] ∧
      c.scope.session = resting sampleSettings
        { address := "new:2", auth := [.password "s3cret"] } ∧
      warnings es =
        [.reservedBlock "user" "inner" "sequence", .skippedEntry "null" "inner",
          .reservedBlock "addr" "root" "single-key mapping", .skippedBlock "notes" "root" "scalar",
          .skippedEntry "sequence" "root"] := by
  obtain ⟨c, es, compiled, ⟨children⟩, warned⟩ :=
    (compile_describes sampleSettings "root" (.sequence mixedEntries)).2 mixedEntries rfl
  refine ⟨_, es, compiled, ?_, rfl, warned⟩
  -- a command, a chain with one command, and a command
  obtain _ | rest := children
  obtain _ | _ | ⟨⟨inner⟩, rest⟩ := rest
  obtain _ | inner := inner
  obtain _ | rest := rest
  cases inner
  cases rest
  rfl

end Runbook
