/-
  Two executions of chains, side by side.

  `k.Paired k' v D O T`: scopes can be opened and closed on both sides alike. `O` relates the
  sessions that scopes own, `T` those that items run on, and `D` how the scopes find keys.
  `k.Lends k' v D O T B lines`: on sessions that `B` relates, which stand around the scopes, at
  least `lines` are run alike.

  * `Item.Alike`: the same scopes and commands, with sessions that `O` relates;
  * `Item.borrowing` lists the commands that run on the session around an item;
  * `Lends.executeScope`: a scope is executed alike, if its body is;
  * `Lends.executeItem`, `Lends.executeAll` and `Lends.execute`: then so are chains, if the
    commands that borrow the session around are among the `lines`;
  * `Paired.executeScope`, `Paired.executeItem` and `Paired.execute`: the same around sessions
    that `T` relates, on which everything is run alike;
  * `Twins.paired`: kinds that do the same are paired.
-/
import Mathlib.Data.List.Forall2
import Runbook.Chain.Execute
import Runbook.Proofs.Chain.Listing
import Runbook.Proofs.Discovery.Twins

namespace Runbook

variable {σ σ' S S' α α' : Type}

/-- The same scope, with sessions that `O` relates. -/
structure Scope.Alike (D : Option DiscoverySettings → Option DiscoverySettings → Prop)
    (O : S → S' → Prop) (s : Scope S) (s' : Scope S') : Prop where
  name : s.name = s'.name
  phase : s.phase = s'.phase
  discovery : D s.discovery s'.discovery
  session : O s.session s'.session

mutual

/-- The same scopes and commands, with sessions that `O` relates. -/
inductive Item.Alike (D : Option DiscoverySettings → Option DiscoverySettings → Prop)
    (O : S → S' → Prop) : Item S → Item S' → Prop where
  | command (line) : Item.Alike D O (.command line) (.command line)
  | chain {s s' items items'} (scope : s.Alike D O s') (inside : ItemsAlike D O items items') :
      Item.Alike D O (.chain s items) (.chain s' items')

/-- The items of both lists are alike, one by one. -/
inductive ItemsAlike (D : Option DiscoverySettings → Option DiscoverySettings → Prop)
    (O : S → S' → Prop) : List (Item S) → List (Item S') → Prop where
  | nil : ItemsAlike D O [] []
  | cons {i i' is is'} (first : Item.Alike D O i i') (rest : ItemsAlike D O is is') :
      ItemsAlike D O (i :: is) (i' :: is')

end

section

variable {D : Option DiscoverySettings → Option DiscoverySettings → Prop} {O : S → S' → Prop}

theorem ItemsAlike.append : ∀ {is js : List (Item S)} {is' js' : List (Item S')},
    ItemsAlike D O is is' → ItemsAlike D O js js' → ItemsAlike D O (is ++ js) (is' ++ js')
  | _, _, _, _, .nil, last => last
  | _, _, _, _, .cons first rest, last => .cons first (rest.append last)

theorem Scope.Alike.mono {D' : Option DiscoverySettings → Option DiscoverySettings → Prop}
    {O' : S → S' → Prop} (hD : ∀ d d', D d d' → D' d d') (hO : ∀ s s', O s s' → O' s s')
    {s : Scope S} {s' : Scope S'} (alike : s.Alike D O s') : s.Alike D' O' s' :=
  ⟨alike.name, alike.phase, hD _ _ alike.discovery, hO _ _ alike.session⟩

mutual

theorem Item.Alike.mono {D' : Option DiscoverySettings → Option DiscoverySettings → Prop}
    {O' : S → S' → Prop} (hD : ∀ d d', D d d' → D' d d') (hO : ∀ s s', O s s' → O' s s') :
    ∀ {i : Item S} {i' : Item S'}, i.Alike D O i' → i.Alike D' O' i'
  | _, _, .command line => .command line
  | _, _, .chain scope inside => .chain (scope.mono hD hO) (inside.mono hD hO)

theorem ItemsAlike.mono {D' : Option DiscoverySettings → Option DiscoverySettings → Prop}
    {O' : S → S' → Prop} (hD : ∀ d d', D d d' → D' d d') (hO : ∀ s s', O s s' → O' s s') :
    ∀ {is : List (Item S)} {is' : List (Item S')}, ItemsAlike D O is is' → ItemsAlike D' O' is is'
  | _, _, .nil => .nil
  | _, _, .cons first rest => .cons (first.mono hD hO) (rest.mono hD hO)

end

mutual

/-- The scopes of items that are alike are alike, one by one. -/
theorem Item.Alike.scopes : ∀ {i : Item S} {i' : Item S'}, i.Alike D O i' →
    List.Forall₂ (Scope.Alike D O) i.scopes i'.scopes
  | _, _, .command _ => .nil
  | _, _, .chain scope inside => .cons scope inside.scopes

theorem ItemsAlike.scopes : ∀ {is : List (Item S)} {is' : List (Item S')}, ItemsAlike D O is is' →
    List.Forall₂ (Scope.Alike D O) (scopesAll is) (scopesAll is')
  | _, _, .nil => .nil
  | _, _, .cons first rest => List.rel_append first.scopes rest.scopes

end

end

/-- What two scopes that are alike have in common, the lists of scopes have in common. -/
theorem Item.Alike.scopes_map {D : Option DiscoverySettings → Option DiscoverySettings → Prop}
    {O : S → S' → Prop} {i : Item S} {i' : Item S'} (alike : i.Alike D O i') {f : Scope S → α}
    {f' : Scope S' → α} (same : ∀ s s', Scope.Alike D O s s' → f s = f' s') :
    i.scopes.map f = i'.scopes.map f' := by
  have pairs : List.Forall₂ Eq (i.scopes.map f) (i'.scopes.map f') := by
    rw [List.forall₂_map_left_iff, List.forall₂_map_right_iff]
    exact alike.scopes.imp same
  rwa [List.forall₂_eq_eq_eq] at pairs

mutual

/-- The commands of an item that run on the session around it. -/
def Item.borrowing (k : SessionKind σ S) : Item S → List String
  | .command line => [line]
  | .chain s items => if k.isPassThrough s.session then borrowingAll k items else []

/-- The commands of the items of a list that run on the session around them. -/
def borrowingAll (k : SessionKind σ S) : List (Item S) → List String
  | [] => []
  | i :: is => i.borrowing k ++ borrowingAll k is

end

/-- The commands of a chain that run on the session around it. -/
def Chain.borrowing (k : SessionKind σ S) (c : Chain S) : List String := c.toItem.borrowing k

/-- Connecting came to the same: the scopes' own sessions can be used, or are at rest. -/
structure Hosted (O T B : S → S' → Prop) (r : Outcome × S × Option S)
    (r' : Outcome × S' × Option S') : Prop where
  outcome : r.1 = r'.1
  ready : r.1 = .ok () → T r.2.1 r'.2.1
  refused : r.1 ≠ .ok () → O r.2.1 r'.2.1
  around : Option.Rel B r.2.2 r'.2.2

/-- Bodies came to the same. -/
structure BodyAlike (T : S → S' → Prop) (I : α → α' → Prop) (r : Outcome × S × α)
    (r' : Outcome × S' × α') : Prop where
  outcome : r.1 = r'.1
  session : T r.2.1 r'.2.1
  items : I r.2.2 r'.2.2

/-- Scopes came to the same. -/
structure ScopeAlike (D : Option DiscoverySettings → Option DiscoverySettings → Prop)
    (O B : S → S' → Prop) (I : α → α' → Prop) (r : Outcome × Option S × Scope S × α)
    (r' : Outcome × Option S' × Scope S' × α') : Prop where
  outcome : r.1 = r'.1
  around : Option.Rel B r.2.1 r'.2.1
  scope : r.2.2.1.Alike D O r'.2.2.1
  items : I r.2.2.2 r'.2.2.2

/-- Scopes can be opened and closed on both sides alike. -/
structure SessionKind.Paired (k : SessionKind σ S) (k' : SessionKind σ' S') (v : Pairing σ σ')
    (D : Option DiscoverySettings → Option DiscoverySettings → Prop) (O T : S → S' → Prop) :
    Prop where
  identify : ∀ {t t'}, T t t' → k.identify t = k'.identify t'
  isPassThrough : ∀ {s s'}, O s s' → k.isPassThrough s = k'.isPassThrough s'
  grounded : ∀ {s s'}, O s s' → k.isPassThrough s = true → T s s'
  connectHost : ∀ {s s' encl encl' d d'}, O s s' → k.isPassThrough s = false →
    Option.Rel T encl encl' → D d d' →
    (k.connectHost s encl d).Alike v (Hosted O T T) (k'.connectHost s' encl' d')
  run : ∀ {t t'}, T t t' → ∀ line, (k.run t line).Alike v (Both T) (k'.run t' line)
  close : ∀ {s s'}, O s s' ∨ T s s' → (k.close s).Alike v (Both O) (k'.close s')

/-- Scopes can be opened alike around sessions that `B` relates, and these run `lines` alike. -/
structure SessionKind.Lends (k : SessionKind σ S) (k' : SessionKind σ' S') (v : Pairing σ σ')
    (D : Option DiscoverySettings → Option DiscoverySettings → Prop) (O T B : S → S' → Prop)
    (lines : String → Prop) : Prop where
  identify : ∀ {t t'}, B t t' → k.identify t = k'.identify t'
  connectHost : ∀ {s s' encl encl' d d'}, O s s' → k.isPassThrough s = false →
    Option.Rel B encl encl' → D d d' →
    (k.connectHost s encl d).Alike v (Hosted O T B) (k'.connectHost s' encl' d')
  run : ∀ {t t'}, B t t' → ∀ line, lines line → (k.run t line).Alike v (Both B) (k'.run t' line)

/-- Sessions that items run on can stand around scopes. -/
theorem SessionKind.Paired.lends {k : SessionKind σ S} {k' : SessionKind σ' S'} {v : Pairing σ σ'}
    {D : Option DiscoverySettings → Option DiscoverySettings → Prop} {O T : S → S' → Prop}
    (paired : k.Paired k' v D O T) : k.Lends k' v D O T T fun _ => True where
  identify := paired.identify
  connectHost := paired.connectHost
  run related line _ := paired.run related line

/-- Items came to the same. -/
def ItemAlike (D : Option DiscoverySettings → Option DiscoverySettings → Prop)
    (O B : S → S' → Prop) (r : Outcome × Option S × Item S) (r' : Outcome × Option S' × Item S') :
    Prop :=
  r.1 = r'.1 ∧ Option.Rel B r.2.1 r'.2.1 ∧ r.2.2.Alike D O r'.2.2

/-- Chains came to the same. -/
def ChainAlike (D : Option DiscoverySettings → Option DiscoverySettings → Prop)
    (O B : S → S' → Prop) (r : Outcome × Option S × Chain S)
    (r' : Outcome × Option S' × Chain S') : Prop :=
  r.1 = r'.1 ∧ Option.Rel B r.2.1 r'.2.1 ∧ r.2.2.toItem.Alike D O r'.2.2.toItem

namespace SessionKind.Lends

variable {k : SessionKind σ S} {k' : SessionKind σ' S'} {v : Pairing σ σ'}
  {D : Option DiscoverySettings → Option DiscoverySettings → Prop} {O T B : S → S' → Prop}
  {lines : String → Prop}

theorem executeCommand (lends : k.Lends k' v D O T B lines) {t : S} {t' : S'} (related : B t t')
    {line : String} (allowed : lines line) :
    (k.executeCommand line (some t)).Alike v (Both (Option.Rel B))
      (k'.executeCommand line (some t')) := by
  simp only [SessionKind.executeCommand, lends.identify related]
  refine Run.alike_bind (Run.alike_note v _) fun _ _ _ => ?_
  refine Run.alike_bind (lends.run related line allowed) ?_
  rintro ⟨e | u, t⟩ ⟨_, t'⟩ ⟨rfl, after⟩
  · refine Run.alike_bind (Run.alike_note v _) fun _ _ _ => ?_
    exact Run.alike_pure ⟨rfl, .some after⟩
  · exact Run.alike_pure ⟨rfl, .some after⟩

section

variable {body : Body σ S α} {body' : Body σ' S' α'} {I : α → α' → Prop} {items : α} {items' : α'}
  {s : Scope S} {s' : Scope S'} {encl : Option S} {encl' : Option S'}
  (lends : k.Lends k' v D O T B lines) (paired : k.Paired k' v D O T)
  (hosted : ∀ t t', T t t' → (body t).Alike v (BodyAlike T I) (body' t'))
  (scope : s.Alike D O s') (around : Option.Rel B encl encl') (inside : I items items')
include lends paired hosted scope around inside

/-- A scope with a session of its own is entered alike. -/
theorem connected :
    (k.connectHost s.session encl s.discovery >>= fun (o, own, encl) => match o with
      | .error e => pure (.error e, encl, { s with session := own, phase := .failed }, items)
      | .ok () => do
        let (o, own, items) ← body own
        pure (o, encl, { s with session := own, phase := .ready }, items)).Alike v
      (ScopeAlike D (fun s s' => O s s' ∨ T s s') B I)
      (k'.connectHost s'.session encl' s'.discovery >>= fun (o, own, encl) => match o with
        | .error e => pure (.error e, encl, { s' with session := own, phase := .failed }, items')
        | .ok () => do
          let (o, own, items) ← body' own
          pure (o, encl, { s' with session := own, phase := .ready }, items)) := by
  have connect : (k.connectHost s.session encl s.discovery).Alike v (Hosted O T B)
      (k'.connectHost s'.session encl' s'.discovery) := by
    rcases pass : k.isPassThrough s.session
    · exact lends.connectHost scope.session pass around scope.discovery
    · -- a scope without a target of its own stays as it is
      have pass' := (paired.isPassThrough scope.session).symm.trans pass
      simp only [SessionKind.connectHost, pass, pass', if_true]
      exact Run.alike_pure
        ⟨rfl, fun _ => paired.grounded scope.session pass, fun _ => scope.session, around⟩
  refine Run.alike_bind connect ?_
  rintro ⟨o, own, encl⟩ ⟨_, own', encl'⟩ ⟨rfl, ready, refused, around⟩
  rcases o with e | u
  · exact Run.alike_pure
      ⟨rfl, around, ⟨scope.name, rfl, scope.discovery, .inl (refused nofun)⟩, inside⟩
  · refine Run.alike_bind (hosted own own' (ready rfl)) ?_
    rintro ⟨o, own, items⟩ ⟨_, own', items'⟩ ⟨rfl, after, inside⟩
    exact Run.alike_pure ⟨rfl, around, ⟨scope.name, rfl, scope.discovery, .inr after⟩, inside⟩

variable (borrowed : k.isPassThrough s.session = true →
    ∀ t t', B t t' → (body t).Alike v (BodyAlike B I) (body' t'))
include borrowed

theorem enter : (k.enter s encl items body).Alike v
    (ScopeAlike D (fun s s' => O s s' ∨ T s s') B I) (k'.enter s' encl' items' body') := by
  unfold SessionKind.enter
  rw [← paired.isPassThrough scope.session]
  have connected := lends.connected paired hosted scope around inside
  cases around with
  | none => exact connected
  | @some t t' related =>
    rcases pass : k.isPassThrough s.session
    · exact connected
    · dsimp only
      rw [scope.name, lends.identify related]
      refine Run.alike_bind (Run.alike_note v _) fun _ _ _ => ?_
      refine Run.alike_bind (borrowed pass t t' related) ?_
      rintro ⟨o, t, items⟩ ⟨_, t', items'⟩ ⟨rfl, after, inside⟩
      exact Run.alike_pure ⟨rfl, .some after,
        ⟨rfl, rfl, scope.discovery, .inl scope.session⟩, inside⟩

/-- **A scope is executed alike**, if its body is: on the scope's own session, and on the session
    around it if the scope borrows that. -/
theorem executeScope : (k.executeScope s encl items body).Alike v (ScopeAlike D O B I)
    (k'.executeScope s' encl' items' body') := by
  unfold SessionKind.executeScope
  rw [scope.name]
  refine Run.alike_bind (Run.alike_note v _) fun _ _ _ => ?_
  refine Run.alike_bind (lends.enter paired hosted scope around inside borrowed) ?_
  rintro ⟨o, encl, s, items⟩ ⟨_, encl', s', items'⟩ ⟨rfl, around, scope, inside⟩
  obtain ⟨name, session, phase, d⟩ := s
  obtain ⟨name', session', phase', d'⟩ := s'
  obtain ⟨same, -, discovery, session⟩ := scope
  dsimp only at same discovery session
  subst same
  refine Run.alike_bind (paired.close session) ?_
  rintro ⟨closed, own⟩ ⟨_, own'⟩ ⟨rfl, after⟩
  have ends : (Run.note (.chainFinished name) >>= fun _ => pure
        (o.and closed, encl, ⟨name, own, finalPhase o closed, d⟩, items) :
        Run σ (Outcome × Option S × Scope S × α)).Alike v (ScopeAlike D O B I)
      (Run.note (.chainFinished name) >>= fun _ => pure
        (o.and closed, encl', ⟨name, own', finalPhase o closed, d'⟩, items')) :=
    Run.alike_bind (Run.alike_note v _) fun _ _ _ =>
      Run.alike_pure ⟨rfl, around, ⟨rfl, rfl, discovery, after⟩, inside⟩
  rcases closed with e | u
  · exact Run.alike_bind (Run.alike_note v _) fun _ _ _ => ends
  · exact ends

end

mutual

/-- Items are executed alike. What a scope owns is around the scopes inside it in turn. -/
theorem executeItem (paired : k.Paired k' v D O T) : ∀ {i : Item S} {i' : Item S'}
    {B : S → S' → Prop} {lines : String → Prop} {t : S} {t' : S'}, i.Alike D O i' →
    k.Lends k' v D O T B lines → (∀ line ∈ i.borrowing k, lines line) → B t t' →
    (k.executeItem (some t) i).Alike v (ItemAlike D O B) (k'.executeItem (some t') i')
  | _, _, _, _, t, t', .command line, lends, allowed, related => by
    unfold SessionKind.executeItem
    refine Run.alike_bind (lends.executeCommand related (allowed line (by simp [Item.borrowing]))) ?_
    rintro ⟨o, t⟩ ⟨_, t'⟩ ⟨rfl, after⟩
    exact Run.alike_pure ⟨rfl, after, .command line⟩
  | _, _, _, _, t, t', .chain scope inside, lends, allowed, related => by
    unfold SessionKind.executeItem
    -- on the scope's own session everything may be run; a session around it is lent on
    refine Run.alike_bind (lends.executeScope paired
      (fun t t' => executeAll paired inside paired.lends fun _ _ => trivial) scope
      (.some related) inside fun pass t t' => executeAll paired inside lends ?_) ?_
    · rwa [Item.borrowing, if_pos pass] at allowed
    · rintro ⟨o, t, s, items⟩ ⟨_, t', s', items'⟩ ⟨rfl, after, scope, inside⟩
      exact Run.alike_pure ⟨rfl, after, .chain scope inside⟩

theorem executeAll (paired : k.Paired k' v D O T) :
    ∀ {is : List (Item S)} {is' : List (Item S')} {B : S → S' → Prop} {lines : String → Prop}
      {t : S} {t' : S'}, ItemsAlike D O is is' → k.Lends k' v D O T B lines →
    (∀ line ∈ borrowingAll k is, lines line) → B t t' →
    (k.executeAll t is).Alike v (BodyAlike B (ItemsAlike D O)) (k'.executeAll t' is')
  | _, _, _, _, t, t', .nil, lends, _, related => Run.alike_pure ⟨rfl, related, .nil⟩
  | _, _, B, _, t, t', .cons first rest, lends, allowed, related => by
    rw [borrowingAll] at allowed
    obtain ⟨sooner, later⟩ := List.forall_mem_append.1 allowed
    unfold SessionKind.executeAll
    refine Run.alike_bind (executeItem paired first lends sooner related) ?_
    rintro ⟨o, u, i⟩ ⟨_, u', i'⟩ ⟨rfl, between, first⟩
    have next : B (u.getD t) (u'.getD t') := by
      cases between with
      | none => exact related
      | some between => exact between
    rcases o with e | done
    · exact Run.alike_pure ⟨rfl, next, .cons first rest⟩
    · refine Run.alike_bind (executeAll paired rest lends later next) ?_
      rintro ⟨o, t, is⟩ ⟨_, t', is'⟩ ⟨rfl, after, rest⟩
      exact Run.alike_pure ⟨rfl, after, .cons first rest⟩

end

/-- **Chains that are alike are executed alike**, around a session that they borrow. -/
theorem execute (lends : k.Lends k' v D O T B lines) (paired : k.Paired k' v D O T) {c : Chain S}
    {c' : Chain S'} {encl : Option S} {encl' : Option S'}
    (allowed : ∀ line ∈ c.borrowing k, lines line) (alike : c.toItem.Alike D O c'.toItem)
    (around : Option.Rel B encl encl') :
    (k.execute c encl).Alike v (ChainAlike D O B) (k'.execute c' encl') := by
  cases alike with
  | chain scope inside =>
    refine Run.alike_bind (lends.executeScope paired
      (fun t t' => executeAll paired inside paired.lends fun _ _ => trivial) scope around inside
      fun pass t t' => executeAll paired inside lends ?_) ?_
    · rwa [Chain.borrowing, Chain.toItem, Item.borrowing, if_pos pass] at allowed
    · rintro ⟨o, t, s, items⟩ ⟨_, t', s', items'⟩ ⟨rfl, after, scope, inside⟩
      exact Run.alike_pure ⟨rfl, after, .chain scope inside⟩

end SessionKind.Lends

namespace SessionKind.Paired

variable {k : SessionKind σ S} {k' : SessionKind σ' S'} {v : Pairing σ σ'}
  {D : Option DiscoverySettings → Option DiscoverySettings → Prop} {O T : S → S' → Prop}
  (paired : k.Paired k' v D O T)
include paired

/-- A scope is executed alike, if its body is. -/
theorem executeScope {body : Body σ S α} {body' : Body σ' S' α'} {I : α → α' → Prop} {items : α}
    {items' : α'} {s : Scope S} {s' : Scope S'} {encl : Option S} {encl' : Option S'}
    (hbody : ∀ t t', T t t' → (body t).Alike v (BodyAlike T I) (body' t'))
    (scope : s.Alike D O s') (around : Option.Rel T encl encl') (inside : I items items') :
    (k.executeScope s encl items body).Alike v (ScopeAlike D O T I)
      (k'.executeScope s' encl' items' body') :=
  paired.lends.executeScope paired hbody scope around inside fun _ => hbody

/-- Items are executed alike. -/
theorem executeItem {i : Item S} {i' : Item S'} {t : S} {t' : S'} (alike : i.Alike D O i')
    (related : T t t') : (k.executeItem (some t) i).Alike v (ItemAlike D O T)
      (k'.executeItem (some t') i') :=
  Lends.executeItem paired alike paired.lends (fun _ _ => trivial) related

/-- Chains that are alike are executed alike. -/
theorem execute {c : Chain S} {c' : Chain S'} {encl : Option S} {encl' : Option S'}
    (alike : c.toItem.Alike D O c'.toItem) (around : Option.Rel T encl encl') :
    (k.execute c encl).Alike v (ChainAlike D O T) (k'.execute c' encl') :=
  paired.lends.execute paired (fun _ _ => trivial) alike around

end SessionKind.Paired

/-- Connecting a session does the same on both sides, discovery through a source of the same keys
    included. -/
theorem SessionKind.Twins.connectHost {k : SessionKind σ S} {k' : SessionKind σ' S'}
    {v : Pairing σ σ'} {T B : S → S' → Prop} (twins : k.Twins k' v T) (sources : k.Sources k' v B)
    {s : S} {s' : S'} {encl : Option S} {encl' : Option S'} (related : T s s')
    (around : Option.Rel B encl encl') (d : Option DiscoverySettings) :
    (k.connectHost s encl d).Alike v (Hosted T T B) (k'.connectHost s' encl' d) := by
  unfold SessionKind.connectHost
  rw [twins.isPassThrough related]
  split
  · exact Run.alike_pure ⟨rfl, fun _ => related, fun _ => related, around⟩
  · have link : ∀ {s s' encl encl'}, T s s' → Option.Rel B encl encl' →
        (k.connect s >>= fun r => pure (r.1, r.2, encl)).Alike v (Hosted T T B)
          (k'.connect s' >>= fun r => pure (r.1, r.2, encl')) := by
      intro s s' encl encl' related around
      refine Run.alike_bind (twins.connect related) ?_
      rintro ⟨o, s⟩ ⟨_, s'⟩ ⟨rfl, after⟩
      exact Run.alike_pure ⟨rfl, fun _ => after, fun _ => after, around⟩
    rcases d with _ | d
    · exact link related around
    · cases around with
      | none =>
        dsimp only
        rw [twins.identify related]
        exact Run.alike_bind (Run.alike_note v _) fun _ _ _ => link related .none
      | some via =>
        refine Run.alike_bind (twins.enrich sources related via d) ?_
        rintro ⟨n, s, t⟩ ⟨_, s', t'⟩ ⟨rfl, learned, after⟩
        exact link learned (.some after)

/-- Kinds that do the same are paired. -/
theorem SessionKind.Twins.paired {k : SessionKind σ S} {k' : SessionKind σ' S'} {v : Pairing σ σ'}
    {T : S → S' → Prop} (twins : k.Twins k' v T) : k.Paired k' v Eq T T where
  identify := twins.identify
  isPassThrough := twins.isPassThrough
  grounded related _ := related
  connectHost related _ around same := same ▸ twins.connectHost twins.sources related around _
  run := twins.run
  close related := related.elim twins.close twins.close

end Runbook
