/-
  Documents that differ in passwords only, and what they compile to.

  * `Node.Like`: the same node, up to the texts of passwords;
  * `Variant`: the session of one scope compiled twice, with other settings and another
    password;
  * `compile_alike`: nodes that are alike compile alike, for any settings: the same notices are
    given, and the chains have the same scopes and commands;
  * `ofDocument_alike`: so do whole documents.
-/
import Runbook.Proofs.Chain.Compiled
import Runbook.Proofs.Chain.Paired
import Runbook.Proofs.Session.Secrets

namespace Runbook

open Session (resting)

mutual

/-- The same node, up to the texts of passwords. -/
inductive Node.Like : Node → Node → Prop where
  | scalar (text) : Node.Like (.scalar text) (.scalar text)
  | password (secret secret') :
      Node.Like (.block "password" (.scalar secret)) (.block "password" (.scalar secret'))
  | block (key) {value value'} (inside : Node.Like value value') :
      Node.Like (.block key value) (.block key value')
  | sequence {items items'} (inside : NodesLike items items') :
      Node.Like (.sequence items) (.sequence items')
  | other (shape) : Node.Like (.other shape) (.other shape)

/-- The nodes of both lists are the same one by one, up to the texts of passwords. -/
inductive NodesLike : List Node → List Node → Prop where
  | nil : NodesLike [] []
  | cons {n n' ns ns'} (first : Node.Like n n') (rest : NodesLike ns ns') :
      NodesLike (n :: ns) (n' :: ns')

end

mutual

theorem Node.Like.refl : ∀ n : Node, n.Like n
  | .scalar text => .scalar text
  | .block key value => .block key (Node.Like.refl value)
  | .sequence items => .sequence (NodesLike.refl items)
  | .other shape => .other shape

theorem NodesLike.refl : ∀ ns : List Node, NodesLike ns ns
  | [] => .nil
  | n :: ns => .cons (Node.Like.refl n) (NodesLike.refl ns)

end

theorem Node.Like.kind {n n' : Node} (like : n.Like n') : n.kind = n'.kind := by
  cases like <;> rfl

theorem Node.Like.scalar? {n n' : Node} (like : n.Like n') : n.scalar? = n'.scalar? := by
  cases like <;> rfl

/-! ## Settings -/

/-- An entry gives a setting other than the password the same value. -/
theorem Node.Like.setting? {n n' : Node} (like : n.Like n') {key : String}
    (other : key ≠ "password") : n.setting? key = n'.setting? key := by
  cases like with
  | scalar | sequence | other => rfl
  | password => simp [Node.setting?, other.symm]
  | block key inside => cases inside <;> rfl

/-- A setting is given on both sides or on neither. -/
theorem Node.Like.isSome_setting? {n n' : Node} (like : n.Like n') (key : String) :
    (n.setting? key).isSome = (n'.setting? key).isSome := by
  cases like with
  | scalar | sequence | other => rfl
  | password => by_cases same : "password" = key <;> simp [Node.setting?, same]
  | block key inside => cases inside <;> rfl

theorem lastSetting_cons (key : String) (n : Node) (ns : List Node) :
    lastSetting key (n :: ns) = (lastSetting key ns).or (n.setting? key) := by
  rw [← List.singleton_append, lastSetting_append, lastSetting_singleton]

theorem NodesLike.lastSetting_eq {key : String} (other : key ≠ "password") :
    ∀ {ns ns' : List Node}, NodesLike ns ns' → lastSetting key ns = lastSetting key ns'
  | _, _, .nil => rfl
  | _, _, .cons first rest => by
    rw [lastSetting_cons, lastSetting_cons, first.setting? other, rest.lastSetting_eq other]

theorem NodesLike.isSome_lastSetting (key : String) : ∀ {ns ns' : List Node}, NodesLike ns ns' →
    (lastSetting key ns).isSome = (lastSetting key ns').isSome
  | _, _, .nil => rfl
  | _, _, .cons first rest => by
    rw [lastSetting_cons, lastSetting_cons, Option.isSome_or, Option.isSome_or,
      rest.isSome_lastSetting key, first.isSome_setting? key]

/-! ## Compiling -/

/-- The session of one scope, compiled with other settings and another password. -/
def Variant (st st' : Settings) (s s' : Session) : Prop :=
  ∃ p p', s = resting st p ∧ s' = resting st' p' ∧ p.address = p'.address ∧ p.user = p'.user ∧
    SameButPasswords p.auth p'.auth

/-- How one scope finds keys, compiled with other settings. -/
def Rediscovery (st st' : Settings) (d d' : Option DiscoverySettings) : Prop :=
  d = st.discovery ∧ d' = st'.discovery

/-- Items that were read alike, with the same notices. -/
structure Reading.Alike (st st' : Settings) (r r' : Reading) : Prop where
  items : ItemsAlike (Rediscovery st st') (Variant st st') r.items r'.items
  events : r.events = r'.events

/-- Compiled chains that are alike, or none, with the same notices. -/
structure CompiledAlike (st st' : Settings) (r r' : Option Chain × List Event) : Prop where
  chain : Option.Rel (fun c c' => c.toItem.Alike (Rediscovery st st') (Variant st st') c'.toItem)
    r.1 r'.1
  events : r.2 = r'.2

variable {st st' : Settings}

/-- The scope that entries describe, compiled twice. -/
theorem scope_alike {entries entries' : List Node} (like : NodesLike entries entries')
    (name : String) :
    (Site.scope st ⟨name, entries, none⟩).Alike (Rediscovery st st') (Variant st st')
      (Site.scope st' ⟨name, entries', none⟩) where
  name := rfl
  phase := rfl
  discovery := ⟨rfl, rfl⟩
  session := by
    refine ⟨_, _, rfl, rfl, ?_, ?_, ?_⟩
    · exact congrArg (·.getD "") (like.lastSetting_eq (by decide : "addr" ≠ "password"))
    · exact congrArg (·.getD "") (like.lastSetting_eq (by decide : "user" ≠ "password"))
    · have given := like.isSome_lastSetting "password"
      unfold SameButPasswords Site.params Site.declared
      dsimp only
      generalize lastSetting "password" entries = d, lastSetting "password" entries' = d' at given ⊢
      cases d <;> cases d' <;> simp_all [hideAuth, AuthMethod.hidden]

mutual

theorem compile_alike : ∀ {n n' : Node}, n.Like n' → ∀ name,
    CompiledAlike st st' (Chain.compile st name n none) (Chain.compile st' name n' none)
  | _, _, .scalar _, _ | _, _, .password _ _, _ | _, _, .other _, _ | _, _, .block _ _, _ =>
    ⟨.none, rfl⟩
  | _, _, .sequence inside, name => by
    have read := @ofEntries_alike _ _ inside name {} {} ⟨.nil, rfl⟩
    refine ⟨?_, ?_⟩
    · rw [compile_sequence _ none, compile_sequence _ none]
      exact .some (.chain (scope_alike inside name) read.items)
    · rw [compile_events, compile_events, read.events]

theorem ofEntries_alike : ∀ {ns ns' : List Node}, NodesLike ns ns' → ∀ name {r r' : Reading},
    r.Alike st st' r' →
    (Reading.ofEntries st name ns r).Alike st st' (Reading.ofEntries st' name ns' r')
  | _, _, .nil, _, _, _, read => read
  | _, _, .cons first rest, name, _, _, read => by
    rw [Reading.ofEntries, Reading.ofEntries]
    exact ofEntries_alike rest name (addEntry_alike first name read)

theorem addEntry_alike : ∀ {n n' : Node}, n.Like n' → ∀ name {r r' : Reading},
    r.Alike st st' r' → (r.addEntry st name n).Alike st st' (r'.addEntry st' name n')
  | _, _, .scalar line, _, _, _, read => ⟨read.items.append (.cons (.command line) .nil), read.events⟩
  | _, _, .password _ _, _, _, _, read => ⟨read.items, read.events⟩
  | _, _, .sequence _, _, _, _, read | _, _, .other _, _, _, _, read =>
    ⟨read.items, congrArg (· ++ _) read.events⟩
  | .block _ value, .block _ value', .block key inside, name, r, r', read => by
    have compiled := compile_alike inside key
    have skip := inside.kind
    unfold Reading.addEntry
    rw [inside.scalar?]
    split
    · split
      · exact ⟨read.items, read.events⟩
      · rw [skip]
        exact ⟨read.items, congrArg (· ++ _) read.events⟩
    · generalize Chain.compile st key value none = x,
        Chain.compile st' key value' none = x' at compiled ⊢
      obtain ⟨x, es⟩ := x
      obtain ⟨x', es'⟩ := x'
      obtain ⟨chain, events⟩ := compiled
      obtain rfl : es = es' := events
      cases chain with
      | none =>
        rw [skip]
        exact ⟨read.items, congrArg (· ++ es ++ _) read.events⟩
      | some alike =>
        exact ⟨read.items.append (.cons alike .nil), congrArg (· ++ es) read.events⟩

end

/-- The same fault, or chains that are alike. -/
inductive LoadedAlike (st st' : Settings) : Except Fault Chain → Except Fault Chain → Prop where
  | fault (e) : LoadedAlike st st' (.error e) (.error e)
  | chain {c c'} (alike : c.toItem.Alike (Rediscovery st st') (Variant st st') c'.toItem) :
      LoadedAlike st st' (.ok c) (.ok c')

/-- **Documents that are alike compile alike**, with the same notices. -/
theorem ofDocument_alike {document document' : Node} (like : document.Like document') :
    LoadedAlike st st' (Chain.ofDocument st document).1 (Chain.ofDocument st' document').1 ∧
      (Chain.ofDocument st document).2 = (Chain.ofDocument st' document').2 := by
  cases like with
  | scalar | sequence | other => exact ⟨.fault _, rfl⟩
  | password => exact ⟨.fault _, rfl⟩
  | @block key value value' inside =>
    have compiled := @compile_alike st st' _ _ inside key
    have found := inside.kind
    dsimp only [Chain.ofDocument]
    generalize Chain.compile st key value none = x,
      Chain.compile st' key value' none = x' at compiled ⊢
    obtain ⟨x, es⟩ := x
    obtain ⟨x', es'⟩ := x'
    obtain ⟨chain, events⟩ := compiled
    obtain rfl : es = es' := events
    cases chain with
    | none =>
      dsimp only [notASequence]
      rw [found]
      exact ⟨.fault _, rfl⟩
    | some alike => exact ⟨.chain alike, rfl⟩

end Runbook
