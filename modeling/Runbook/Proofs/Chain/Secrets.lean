/-
  Passwords are never shown.

  * `Chain.Sight` is all that a chain shows of itself: its outline, its debug output and that of
    the parameters of its scopes, and the phases of these;
  * `Chain.performance` is what can be seen of an execution, passwords in requests blanked;
  * `execute_hides_passwords`: documents that differ only in passwords cannot be told apart, on
    any host that does not look at them.
-/
import Runbook.Chain.Outline
import Runbook.Proofs.Chain.Variants

namespace Runbook

variable {σ : Type}

/-- What a chain shows of itself. Debug output is shown on one line, or with one part a line. -/
@[ext]
structure Chain.Sight where
  outline : String
  debug : Bool → String
  params : List (Option (Bool → String))
  phases : List Phase

/-- What the chain shows. -/
def Chain.sight (c : Chain) : Chain.Sight where
  outline := c.render
  debug tall := c.structuredRoot.text tall
  params := c.scopes.map fun s => s.session.params?.map fun p tall => p.structured.text tall
  phases := c.scopes.map Scope.phase

/-- What can be seen of an execution. -/
@[ext]
structure Performance where
  before : Chain.Sight
  outcome : Outcome
  after : Chain.Sight
  stdout : Bytes
  events : List Event

/-- What can be seen of the execution of a chain, passwords in requests blanked. -/
def Chain.performance (h : Host σ) (c : Chain) (w : World σ) : Performance where
  before := c.sight
  outcome := (c.execute h none w).1.1
  after := (c.execute h none w).1.2.2.sight
  stdout := (c.execute h none w).2.stdout
  events := (c.execute h none w).2.events.map Event.hidden

/-! ## Chains that are alike look the same -/

section

variable {h : Host σ} {l : Likeness h}
  {D : Option DiscoverySettings → Option DiscoverySettings → Prop}

mutual

theorem Item.Alike.structured : ∀ {i i' : Item}, i.Alike D (Session.Like l) i' →
    i.structured = i'.structured
  | _, _, .command _ => rfl
  | _, _, .chain scope inside => by
    rw [Item.structured, Item.structured, Scope.structured, Scope.structured, scope.name,
      scope.session.identify, scope.phase, inside.structured]

theorem ItemsAlike.structured : ∀ {is is' : List Item}, ItemsAlike D (Session.Like l) is is' →
    structuredAll is = structuredAll is'
  | _, _, .nil => rfl
  | _, _, .cons first rest => by
    rw [structuredAll, structuredAll, first.structured, rest.structured]

end

mutual

theorem Item.Alike.outline : ∀ {i i' : Item}, i.Alike D (Session.Like l) i' → ∀ depth,
    i.outline depth = i'.outline depth
  | _, _, .command _, _ => rfl
  | _, _, .chain scope inside, depth => by
    rw [Item.outline, Item.outline, Scope.label, Scope.label, scope.name, scope.session.identify,
      scope.session.isPassThrough, inside.outline]

theorem ItemsAlike.outline : ∀ {is is' : List Item}, ItemsAlike D (Session.Like l) is is' →
    ∀ depth, outlineAll depth is = outlineAll depth is'
  | _, _, .nil, _ => rfl
  | _, _, .cons first rest, depth => by
    rw [outlineAll, outlineAll, first.outline, rest.outline]

end

end

/-- **Chains that differ only in passwords look the same.** -/
theorem sight_congr {h : Host σ} {blind : h.Blind} {c c' : Chain}
    {D : Option DiscoverySettings → Option DiscoverySettings → Prop}
    (alike : c.toItem.Alike D (Session.Like blind.likeness) c'.toItem) : c.sight = c'.sight := by
  have params : ∀ {s s' : Session}, s.Like blind.likeness s' →
      s.params?.map (fun p tall => p.structured.text tall) =
        s'.params?.map fun p tall => p.structured.text tall := by
    rintro _ _ ⟨like⟩
    exact congrArg (fun d : Text.Structured => some fun tall => d.text tall)
      (Params.structured_congr like.address like.user like.auth)
  have debug : c.structured = c'.structured := by
    have shown := alike.structured
    exact (Text.Structured.call.inj shown).2
  refine Chain.Sight.ext ?_ ?_ ?_ ?_
  · change c.render = c'.render
    rw [Chain.render, Chain.render, Chain.outline, Chain.outline, alike.outline]
  · funext tall
    change c.structuredRoot.text tall = c'.structuredRoot.text tall
    rw [Chain.structuredRoot, Chain.structuredRoot, debug]
  · exact alike.scopes_map fun s s' scope => params scope.session
  · exact alike.scopes_map fun s s' scope => scope.phase

/-! ## Executions -/

/-- The sessions of one scope, compiled with two passwords, cannot be told apart by a host that
    is blind to them. -/
theorem Variant.like {h : Host σ} (blind : h.Blind) {st : Settings} {s s' : Session}
    (variant : Variant st st s s') : s.Like blind.likeness s' := by
  obtain ⟨p, p', rfl, rfl, address, user, auth⟩ := variant
  exact .remote ⟨address, user, auth, rfl, rfl, .none, rfl, rfl⟩

/-- Chains that differ only in passwords perform alike. -/
theorem performance_congr {h : Host σ} (blind : h.Blind) {c c' : Chain}
    (alike : c.toItem.Alike Eq (Session.Like blind.likeness) c'.toItem) (w : World σ) :
    c.performance h w = c'.performance h w := by
  obtain ⟨⟨outcome, -, after⟩, worlds⟩ :=
    (Likeness.twins (fun _ _ => .rfl) blind.learns).paired.execute alike .none w w ⟨rfl, rfl, rfl, rfl⟩
  have events := worlds.events
  refine Performance.ext (sight_congr alike) outcome (sight_congr after) worlds.stdout ?_
  have all : ∀ es : List Event, es.filterMap blind.likeness.see = es.map Event.hidden := fun es =>
    congrFun List.filterMap_eq_map' es
  rw [all, all] at events
  exact events

/-- **Documents that differ only in passwords cannot be told apart**: they are compiled with the
    same notices, to chains that look and perform the same, on every host that does not look at
    passwords. Notices are events, so none of them shows a password. -/
theorem execute_hides_passwords {h : Host σ} (blind : h.Blind) (st : Settings)
    {document document' : Node} (like : document.Like document') (w : World σ) :
    (Chain.ofDocument st document).2 = (Chain.ofDocument st document').2 ∧
      (Chain.ofDocument st document).1.map (·.performance h w) =
        (Chain.ofDocument st document').1.map (·.performance h w) := by
  obtain ⟨loaded, events⟩ := @ofDocument_alike st st _ _ like
  refine ⟨events, ?_⟩
  generalize (Chain.ofDocument st document).1 = r, (Chain.ofDocument st document').1 = r' at loaded
  cases loaded with
  | fault e => rfl
  | chain alike =>
    have same := alike.mono (fun _ _ d => d.1.trans d.2.symm) fun _ _ => Variant.like blind
    exact congrArg Except.ok (performance_congr blind same w)

/-- The sample document with another password. -/
def changedDocument : Node :=
  .block "deploy" (.sequence
    [.scalar "make",
      .block "web" (.sequence
        [.block "addr" (.scalar "web:22"), .block "user" (.scalar "ops"), .scalar "restart",
          .block "password" (.scalar "hunter2")]),
      .scalar "report"])

/-- What it compiles to. -/
def changedChain : Chain where
  scope := { name := "deploy", session := Session.resting sampleSettings {}, discovery := some {} }
  items :=
    [.command "make",
      .chain
        { name := "web"
          session := Session.resting sampleSettings
            { address := "web:22", user := "ops", auth := [.password "hunter2"] }
          discovery := some {} }
        [.command "restart"],
      .command "report"]

/-- A changed password cannot be seen, although it is presented to a host that grants all. -/
theorem sample_hides_passwords : sampleDocument.Like changedDocument ∧ Host.granting.Blind ∧
    sampleChain.performance Host.granting { host := () } =
      changedChain.performance Host.granting { host := () } := by
  have like : sampleDocument.Like changedDocument :=
    .block _ (.sequence (.cons (.scalar _) (.cons (.block _ (.sequence
      (.cons (.block _ (.scalar _)) (.cons (.block _ (.scalar _)) (.cons (.scalar _)
        (.cons (.password _ _) .nil)))))) (.cons (.scalar _) .nil))))
  have blind : Host.granting.Blind := fun _ _ _ => rfl
  have alike := (execute_hides_passwords blind sampleSettings like { host := () }).2
  exact ⟨like, blind, Except.ok.inj alike⟩

end Runbook
