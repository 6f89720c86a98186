/-
  Executing a chain again and again.

  * `Chain.rerun h c w j` is the chain after `j` executions, one after the other, and the
    world they lead to; `Chain.trace h c w j` are the events of the execution after those,
    and `Chain.outcome h c w j` is what it comes to;
  * `Kept st s s'`: a scope is as it was, but for its phase and for methods that were added;
  * `rerun_plays`: every execution of a chain whose sessions are at rest is a visit, and
    all its scopes are kept;
  * `rerun_failFast`: so every execution attempts the same commands, up to the first fault.
-/
import Mathlib.Data.List.Forall2
import Runbook.Proofs.Chain.FailFast

namespace Runbook

open Session (resting)

/-- The chain after some executions, one after the other, and the world they lead to. -/
def Chain.rerun {σ : Type} (h : Host σ) (c : Chain) (w : World σ) : Nat → Chain × World σ
  | 0 => (c, w)
  | j + 1 =>
    let before := c.rerun h w j
    let after := before.1.execute h none before.2
    (after.1.2.2, after.2)

/-- The events of the execution that comes after `j` others. -/
def Chain.trace {σ : Type} (h : Host σ) (c : Chain) (w : World σ) (j : Nat) : List Event :=
  (c.rerun h w (j + 1)).2.events.drop (c.rerun h w j).2.events.length

/-- What the execution comes to that comes after `j` others. -/
def Chain.outcome {σ : Type} (h : Host σ) (c : Chain) (w : World σ) (j : Nat) : Outcome :=
  ((c.rerun h w j).1.execute h none (c.rerun h w j).2).1.1

/-- A scope is as it was, but for its phase and for its methods. -/
structure Kept (st : Settings) (s s' : Scope) : Prop where
  name : s'.name = s.name
  discovery : s'.discovery = s.discovery
  session : ∃ p auth, s.session = resting st p ∧ s'.session = resting st { p with auth }

variable {σ : Type} {h : Host σ} {st : Settings} {ss ss' : List Scope}

namespace Kept

variable {s s' s'' : Scope}

theorem refl {p : Params} (rests : s.session = resting st p) : Kept st s s :=
  ⟨rfl, rfl, p, p.auth, rests, rests⟩

theorem trans (kept : Kept st s s') (kept' : Kept st s' s'') : Kept st s s'' := by
  obtain ⟨p, auth, hp, hp'⟩ := kept.session
  obtain ⟨q, auth', hq, hq'⟩ := kept'.session
  obtain rfl := resting_inj.1 (hp'.symm.trans hq)
  exact ⟨kept'.name.trans kept.name, kept'.discovery.trans kept.discovery, p, auth', hp, hq'⟩

theorem address (kept : Kept st s s') : s'.address = s.address := by
  obtain ⟨p, auth, hp, hp'⟩ := kept.session
  rw [address_of_resting hp, address_of_resting hp']

end Kept

theorem Prepares.kept {p p' : Params} {d : Option DiscoverySettings} {encl : Option Place}
    {es : List Event} (prepare : Prepares st p d encl p' es) : ∃ auth, p' = { p with auth } := by
  cases prepare <;> exact ⟨_, rfl⟩

/-- Scopes at rest are as they were. -/
theorem Rests.kept (rests : Rests st ss) : List.Forall₂ (Kept st) ss ss :=
  List.forall₂_same.2 fun s hs => (rests s hs).elim fun _ hp => Kept.refl hp

/-- Scopes that are kept are at rest. -/
theorem rests_of_kept (kept : List.Forall₂ (Kept st) ss ss') : Rests st ss' := by
  induction kept with
  | nil => intro s hs; cases hs
  | cons first _ ih =>
    obtain ⟨p, auth, -, hp⟩ := first.session
    exact rests_cons.2 ⟨⟨_, hp⟩, ih⟩

/-- Two relations between lists, item by item, one after the other. -/
theorem forall₂_comp {α β γ : Type} {R : α → β → Prop} {S : β → γ → Prop} {T : α → γ → Prop}
    {as : List α} {bs : List β} {cs : List γ} (h : List.Forall₂ R as bs)
    (h' : List.Forall₂ S bs cs) (comp : ∀ {a b c}, R a b → S b c → T a c) :
    List.Forall₂ T as cs := by
  induction h generalizing cs with
  | nil =>
    cases h'
    exact .nil
  | cons first _ ih =>
    rcases h' with _ | ⟨first', rest'⟩
    exact .cons (comp first first') (ih rest')

theorem names_of_kept (kept : List.Forall₂ (Kept st) ss ss') :
    ss'.map (·.name) = ss.map (·.name) := by
  induction kept with
  | nil => rfl
  | cons first _ ih => rw [List.map_cons, List.map_cons, first.name, ih]

mutual

/-- **A visit keeps all scopes.** -/
theorem Visit.kept : ∀ {encl i o es i'}, Visit st encl i o es i' → Rests st i.scopes →
    List.Forall₂ (Kept st) i.scopes i'.scopes
  | _, _, _, _, _, .command _, _ => .nil
  | _, _, _, _, _, .borrowed rests _ body, inner => by
    exact .cons ⟨rfl, rfl, (Kept.refl rests).session⟩ (body.kept (rests_cons.1 inner).2)
  | _, _, _, _, _, .grounded rests _ body, inner => by
    exact .cons ⟨rfl, rfl, (Kept.refl rests).session⟩ (body.kept (rests_cons.1 inner).2)
  | _, _, _, _, _, .refused rests _ prepare f, inner => by
    obtain ⟨auth, rfl⟩ := prepare.kept
    exact .cons ⟨rfl, rfl, _, auth, rests, rfl⟩ (rests_cons.1 inner).2.kept
  | _, _, _, _, _, .connected rests _ prepare body _, inner => by
    obtain ⟨auth, rfl⟩ := prepare.kept
    exact .cons ⟨rfl, rfl, _, auth, rests, rfl⟩ (body.kept (rests_cons.1 inner).2)

theorem Visits.kept : ∀ {pl is o es is'}, Visits st pl is o es is' → Rests st (scopesAll is) →
    List.Forall₂ (Kept st) (scopesAll is) (scopesAll is')
  | _, _, _, _, _, .nil, _ => .nil
  | _, _, _, _, _, .stop first, inner =>
    List.rel_append (first.kept (rests_append.1 inner).1) (rests_append.1 inner).2.kept
  | _, _, _, _, _, .next first rest, inner =>
    List.rel_append (first.kept (rests_append.1 inner).1) (rest.kept (rests_append.1 inner).2)

end

mutual

/-- **A visit keeps the commands**, and where they are run. -/
theorem Visit.leaves : ∀ {encl i o es i'}, Visit st encl i o es i' → ∀ hosts : List String,
    i'.leaves hosts = i.leaves hosts
  | _, _, _, _, _, .command _, _ => rfl
  | _, _, _, _, _, .borrowed _ _ body, hosts | _, _, _, _, _, .grounded _ _ body, hosts =>
    body.leaves (hostsWithin hosts _)
  | _, _, _, _, _, @Visit.refused _ _ s p items p' ds rests _ prepare f, hosts => by
    have kept : Scope.address { s with session := resting st p', phase := .failed } =
        s.address := by
      rw [address_of_resting rests, address_of_resting rfl, prepare.address]
    rw [Item.leaves, Item.leaves, kept]
  | _, _, _, _, _, @Visit.connected _ _ s p items p' ds serial o es items' rests _ prepare body
      answer, hosts => by
    have kept : Scope.address { s with
        session := resting st p'
        phase := finalPhase o (RemoteShell.hangUp p.address answer) } = s.address := by
      rw [address_of_resting rests, address_of_resting rfl, prepare.address]
    rw [Item.leaves, Item.leaves, kept, body.leaves]

theorem Visits.leaves : ∀ {pl is o es is'}, Visits st pl is o es is' → ∀ hosts : List String,
    leavesAll hosts is' = leavesAll hosts is
  | _, _, _, _, _, .nil, _ => rfl
  | _, _, _, _, _, .stop first, hosts => by rw [leavesAll, leavesAll, first.leaves]
  | _, _, _, _, _, .next first rest, hosts => by
    rw [leavesAll, leavesAll, first.leaves, rest.leaves]

end

section
variable {c : Chain} (w : World σ) (j : Nat)

/-- From rest, an execution is a visit, and its events lead from one world to the next. -/
theorem trace_plays (rests : Rests st (c.rerun h w j).1.scopes) :
    Plays (c.rerun h w j).2 (c.trace h w j) (c.rerun h w (j + 1)).2 ∧
    Visit st none (c.rerun h w j).1.toItem (c.outcome h w j) (c.trace h w j)
      (c.rerun h w (j + 1)).1.toItem := by
  obtain ⟨es, plays, -, visit⟩ := execute_visits (h := h) rests (c.rerun h w j).2
  have events : (c.rerun h w (j + 1)).2.events = (c.rerun h w j).2.events ++ es := plays.events
  have told : c.trace h w j = es := by
    rw [Chain.trace, events, List.drop_left]
  rw [told]
  exact ⟨plays, visit⟩

/-- All scopes are kept, however often the chain is executed. -/
theorem rerun_kept (rests : Rests st c.scopes) :
    List.Forall₂ (Kept st) c.scopes (c.rerun h w j).1.scopes := by
  induction j with
  | zero => exact rests.kept
  | succ j ih =>
    obtain ⟨-, visit⟩ := trace_plays (h := h) w j (rests_of_kept ih)
    have again := visit.kept (rests_of_kept ih)
    exact forall₂_comp ih again Kept.trans

/-- **Every execution is a visit**, however often the chain was executed before: the sessions
    are at rest again after each. -/
theorem rerun_plays (rests : Rests st c.scopes) :
    Plays (c.rerun h w j).2 (c.trace h w j) (c.rerun h w (j + 1)).2 ∧
    Visit st none (c.rerun h w j).1.toItem (c.outcome h w j) (c.trace h w j)
      (c.rerun h w (j + 1)).1.toItem :=
  trace_plays w j (rests_of_kept (rerun_kept w j rests))

/-- What every execution adds to the events is a visit. -/
theorem rerun_visits (rests : Rests st c.scopes) :
    (c.rerun h w (j + 1)).2.events = (c.rerun h w j).2.events ++ c.trace h w j ∧
    ∃ o, Visit st none (c.rerun h w j).1.toItem o (c.trace h w j)
      (c.rerun h w (j + 1)).1.toItem := by
  obtain ⟨plays, visit⟩ := rerun_plays (h := h) w j rests
  exact ⟨plays.events, _, visit⟩

/-- What every visit keeps stays the same, however often the chain is executed. -/
theorem rerun_keeps {α : Type} {f : Item → α} (rests : Rests st c.scopes)
    (keeps : ∀ {i o es i'}, Visit st none i o es i' → f i' = f i) :
    f (c.rerun h w j).1.toItem = f c.toItem := by
  induction j with
  | zero => rfl
  | succ j ih =>
    obtain ⟨-, visit⟩ := rerun_plays (h := h) w j rests
    exact (keeps visit).trans ih

theorem rerun_leaves (rests : Rests st c.scopes) : (c.rerun h w j).1.leaves = c.leaves :=
  rerun_keeps w j rests fun visit => visit.leaves []

/-- **Every execution is in order and stops at the first fault.** -/
theorem rerun_failFast (rests : Rests st c.scopes) :
    FailFast c.leaves (c.outcome h w j) (c.trace h w j) := by
  obtain ⟨-, visit⟩ := rerun_plays (h := h) w j rests
  rw [← rerun_leaves (h := h) w j rests]
  exact visit.failFast [] rfl

end

end Runbook
