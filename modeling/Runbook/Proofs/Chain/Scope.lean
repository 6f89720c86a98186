/-
  The ways in which a scope can be executed, for sessions of any kind.

  * `Conduct.Enters`: the four ways into a scope and through its body. A scope borrows the
    enclosing session, stands on its own without a connection, is refused one, or has one;
  * `Conduct.Executes`: a scope is entered, and its own session is closed afterwards;
  * `executeCommand_gives` and `executeScope_gives`: nothing else can happen. All
    statements about running chains are derived from these two;
  * `execute_plan`: whatever sessions do, only they and the phases of scopes change.
-/
import Runbook.Chain.Execute
import Runbook.Proofs.Discovery

namespace Runbook

variable {σ S ε α : Type}

namespace Conduct

variable {k : SessionKind σ S} {v : View σ ε} (b : Conduct k v)

/-- What is done about keys before a session connects. -/
inductive Searches (s : S) :
    Option DiscoverySettings → Option S → S × Option S → List ε → Prop where
  | off {encl} : Searches s none encl (s, encl) []
  | alone {d} : Searches s (some d) none (s, none) (b.note (.noDiscoverySession (k.identify s)))
  | through {d t n s' t' es} (keys : b.Enriches d s t (n, s', t') es) :
      Searches s (some d) (some t) (s', some t') es

/-- What the body of a scope can come to: the outcome, the session it ran on, and the items. -/
abbrev Through (S ε α : Type) := S → Outcome × S × α → List ε → Prop

/-- A scope is entered, up to the end of its body. -/
inductive Enters (B : Through S ε α) (s : Scope S) (items : α) :
    Option S → Outcome × Option S × S × α → List ε → Prop where
  | borrowed {t o t' items' es} (pass : k.isPassThrough s.session = true)
      (body : B t (o, t', items') es) :
      Enters B s items (some t) (o, some t', s.session, items')
        (b.note (.chainBorrows s.name (k.identify t)) ++ es)
  | grounded {o own items' es} (pass : k.isPassThrough s.session = true)
      (body : B s.session (o, own, items') es) :
      Enters B s items none (o, none, own, items') es
  | refused {encl own encl' ds e own' cs} (pass : k.isPassThrough s.session = false)
      (search : b.Searches s.session s.discovery encl (own, encl') ds)
      (connect : b.Connects own (.error e, own') cs) :
      Enters B s items encl (.error e, encl', own', items) (ds ++ cs)
  | connected {encl own encl' ds own' cs o own'' items' es}
      (pass : k.isPassThrough s.session = false)
      (search : b.Searches s.session s.discovery encl (own, encl') ds)
      (connect : b.Connects own (.ok (), own') cs) (body : B own' (o, own'', items') es) :
      Enters B s items encl (o, encl', own'', items') (ds ++ cs ++ es)

/-- A scope is entered, and its own session is closed afterwards. -/
inductive Executes (B : Through S ε α) (s : Scope S) (items : α) (encl : Option S) :
    Outcome × Option S × Scope S × α → List ε → Prop where
  | mk {o encl' own items' es closed own' cs}
      (enter : b.Enters B s items encl (o, encl', own, items') es)
      (close : b.Closes own (closed, own') cs) :
      Executes B s items encl
        (o.and closed, encl', { s with session := own', phase := finalPhase o closed }, items')
        (b.note (.chainStarted s.name) ++ es ++ (cs ++ b.noteFault (.closeFailed s.name) closed) ++
          b.note (.chainFinished s.name))

/-- A command that has a session is run on it. -/
theorem executeCommand_gives (line : String) (s : S) :
    (k.executeCommand line (some s)).Gives v fun r es => ∃ s' es', r.2 = some s' ∧
      b.Runs line s (r.1, s') es' ∧
      es = b.note (.attempt (k.identify s) line) ++ es' ++ b.noteFault .commandFailed r.1 := by
  refine Run.gives_bind (b.note_gives _) ?_
  rintro - es₀ rfl
  refine Run.gives_bind (b.run_gives line s) ?_
  rintro ⟨o, s'⟩ es' h
  rcases o with e | u
  · refine Run.gives_bind (b.note_gives _) ?_
    rintro - es₁ rfl
    exact Run.gives_pure ⟨s', es', rfl, h, by simp [noteFault]⟩
  · exact Run.gives_pure ⟨s', es', rfl, h, by simp [noteFault]⟩

/-- Connecting a session that has a target: keys are looked for, then it connects. -/
theorem connectHost_gives {s : S} (pass : k.isPassThrough s = false) (encl : Option S)
    (d : Option DiscoverySettings) :
    (k.connectHost s encl d).Gives v fun r es => ∃ own ds cs, es = ds ++ cs ∧
      b.Searches s d encl (own, r.2.2) ds ∧ b.Connects own (r.1, r.2.1) cs := by
  unfold SessionKind.connectHost
  rw [if_neg (by simp [pass])]
  have link : ∀ {own encl' ds}, b.Searches s d encl (own, encl') ds →
      Run.Gives v (k.connect own >>= fun r => pure (r.1, r.2, encl')) fun r cs =>
        ∃ own ds' cs', ds ++ cs = ds' ++ cs' ∧ b.Searches s d encl (own, r.2.2) ds' ∧
          b.Connects own (r.1, r.2.1) cs' := fun {own encl' ds} h =>
    Run.gives_map (b.connect_gives own) fun r cs hc => ⟨own, ds, cs, rfl, h, hc⟩
  rcases d with _ | d
  · exact link .off
  · rcases encl with _ | t
    · refine Run.gives_bind (b.note_gives _) ?_
      rintro - es rfl
      exact link .alone
    · refine Run.gives_bind (b.enrich_gives d s t) ?_
      rintro ⟨n, s', t'⟩ es h
      exact link (.through h)

variable {B : Through S ε α} {body : Body σ S α} (hB : ∀ t, (body t).Gives v (B t))
include hB

theorem enter_gives (s : Scope S) (encl : Option S) (items : α) :
    (k.enter s encl items body).Gives v fun r es => r.2.2.1.name = s.name ∧
      r.2.2.1.discovery = s.discovery ∧
      b.Enters B s items encl (r.1, r.2.1, r.2.2.1.session, r.2.2.2) es := by
  unfold SessionKind.enter
  cases pass : k.isPassThrough s.session with
  | true =>
    cases encl with
    | some t =>
      refine Run.gives_bind (b.note_gives _) ?_
      rintro - es₀ rfl
      exact Run.gives_map (hB t) fun r es h => ⟨rfl, rfl, .borrowed pass h⟩
    | none =>
      have idle : k.connectHost s.session none s.discovery = pure (.ok (), s.session, none) := by
        simp [SessionKind.connectHost, pass]
      simp only [idle, pure_bind]
      exact Run.gives_map (hB s.session) fun r es h => ⟨rfl, rfl, .grounded pass h⟩
  | false =>
    simp only
    refine Run.gives_bind (b.connectHost_gives pass encl s.discovery) ?_
    rintro ⟨o, own, encl'⟩ es ⟨own₀, ds, cs, rfl, search, connect⟩
    rcases o with e | u
    · exact Run.gives_pure ⟨rfl, rfl, by simpa using .refused pass search connect⟩
    · refine Run.gives_map (hB own) fun r es h => ⟨rfl, rfl, .connected pass search connect h⟩

/-- **A scope is entered, and its own session is closed afterwards**, whatever happened. -/
theorem executeScope_gives (s : Scope S) (encl : Option S) (items : α) :
    (k.executeScope s encl items body).Gives v (b.Executes B s items encl) := by
  refine Run.gives_bind (b.note_gives _) ?_
  rintro - es₀ rfl
  refine Run.gives_bind (b.enter_gives hB s encl items) ?_
  rintro ⟨o, encl', ⟨name, own, phase, discovery⟩, items'⟩ es ⟨rfl, rfl, h⟩
  refine Run.gives_bind (b.close_gives own) ?_
  rintro ⟨closed, own'⟩ cs hc
  have ends : Run.Gives v (Run.note (.chainFinished s.name) >>= fun _ => pure
      (o.and closed, encl', { s with session := own', phase := finalPhase o closed }, items'))
      fun r es' => b.Executes B s items encl r (b.note (.chainStarted s.name) ++ (es ++ (cs ++
        (b.noteFault (.closeFailed s.name) closed ++ es')))) := by
    refine Run.gives_map (b.note_gives _) ?_
    rintro - es' rfl
    simpa using Executes.mk h hc
  rcases closed with e | u
  · refine Run.gives_bind (b.note_gives _) ?_
    rintro - es' rfl
    exact ends
  · simpa [noteFault] using ends

end Conduct

/-! ## What an execution keeps -/

/-- What a scope was planned to be, apart from its session and its phase. -/
def Scope.plan (s : Scope S) : Scope Unit where
  name := s.name
  session := ()
  discovery := s.discovery

mutual

/-- What an item was planned to be, apart from sessions and phases. -/
def Item.plan : Item S → Item Unit
  | .command line => .command line
  | .chain s items => .chain s.plan (planAll items)

/-- What items were planned to be, apart from sessions and phases. -/
def planAll : List (Item S) → List (Item Unit)
  | [] => []
  | i :: is => i.plan :: planAll is

end

namespace Conduct

variable {k : SessionKind σ S} {v : View σ ε}

/-- A discovery leaves a session around if there was one. -/
theorem Searches.isSome {b : Conduct k v} {s own : S} {d : Option DiscoverySettings}
    {encl encl' : Option S} {es : List ε} (search : b.Searches s d encl (own, encl') es) :
    encl'.isSome = encl.isSome := by
  cases search <;> rfl

mutual

/-- An item that is run keeps its plan, and its session is there afterwards. -/
theorem executeItem_gives (b : Conduct k v) : ∀ (i : Item S) (t : S),
    (k.executeItem (some t) i).Gives v fun r _ => r.2.1.isSome = true ∧ r.2.2.plan = i.plan
  | .command line, t => by
    unfold SessionKind.executeItem
    refine Run.gives_map (b.executeCommand_gives line t) ?_
    rintro _ es ⟨s', es', hs, -⟩
    simp [hs]
  | .chain s items, t => by
    unfold SessionKind.executeItem
    refine Run.gives_map (b.executeScope_gives (B := fun _ r _ => planAll r.2.2 = planAll items)
      (fun t => executeAll_gives b items t) s (some t) items) ?_
    rintro _ es ⟨enter, close⟩
    cases enter with
    | borrowed _ body => exact ⟨rfl, by simp [Item.plan, Scope.plan, body]⟩
    | refused _ search => exact ⟨search.isSome, rfl⟩
    | connected _ search _ body =>
      exact ⟨search.isSome, by simp [Item.plan, Scope.plan, body]⟩

theorem executeAll_gives (b : Conduct k v) : ∀ (is : List (Item S)) (t : S),
    (k.executeAll t is).Gives v fun r _ => planAll r.2.2 = planAll is
  | [], t => Run.gives_pure rfl
  | i :: is, t => by
    unfold SessionKind.executeAll
    refine Run.gives_bind (executeItem_gives b i t) ?_
    rintro ⟨e | u, t', i'⟩ es ⟨-, first⟩
    · exact Run.gives_pure (by simpa [planAll] using first)
    · refine Run.gives_map (executeAll_gives b is _) fun r es' rest => ?_
      simp only [planAll]
      rw [rest]
      exact congrArg (· :: planAll is) first

end

/-- Whatever sessions may do. -/
def anything (k : SessionKind σ S) : Conduct k (View.blind : View σ Unit) where
  note _ := []
  Connects _ _ _ := True
  Runs _ _ _ _ := True
  Captures _ _ _ _ := True
  Closes _ _ _ := True
  note_gives _ _ := ⟨[], trivial, rfl⟩
  connect_gives _ _ := ⟨[], trivial, trivial⟩
  run_gives _ _ _ := ⟨[], trivial, trivial⟩
  capture_gives _ _ _ := ⟨[], trivial, trivial⟩
  close_gives _ _ := ⟨[], trivial, trivial⟩

end Conduct

/-- **An execution keeps the plan of its chain**, whatever its sessions do: only sessions and
    phases change. -/
theorem execute_plan (k : SessionKind σ S) (c : Chain S) (parent : Option S) (w : World σ) :
    (k.execute c parent w).1.2.2.toItem.plan = c.toItem.plan := by
  have keeps : (k.execute c parent).Gives View.blind fun r _ =>
      r.2.2.toItem.plan = c.toItem.plan := by
    refine Run.gives_map ((Conduct.anything k).executeScope_gives
      (B := fun _ r _ => planAll r.2.2 = planAll c.items)
      (fun t => (Conduct.anything k).executeAll_gives c.items t) c.scope parent c.items) ?_
    rintro _ es ⟨enter, close⟩
    cases enter with
    | borrowed _ body | grounded _ body | connected _ _ _ body =>
      simp [Chain.toItem, Item.plan, Scope.plan, body]
    | refused => rfl
  obtain ⟨_, -, plan⟩ := keeps w
  exact plan

/-- A session around a chain is there afterwards. -/
theorem execute_isSome (k : SessionKind σ S) (c : Chain S) (s : S) (w : World σ) :
    (k.execute c (some s) w).1.2.1.isSome = true := by
  obtain ⟨_, -, there, -⟩ := (Conduct.anything k).executeItem_gives c.toItem s w
  unfold Chain.toItem SessionKind.executeItem at there
  exact there

end Runbook
