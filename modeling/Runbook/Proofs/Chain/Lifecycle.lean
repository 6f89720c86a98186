/-
  How far an execution gets, and what is left behind.

  * `Conduct.Executes.block`, `executeItem_block`, `executeAll_block`: what is executed is a
    block, whatever sessions do;
  * `Lifecycle postings c c' o calls n`: the first `n` scopes of the chain were entered, and
    what that means for their phases, their sessions and the outcome;
  * `execute_lifecycle`: how far the execution of a chain gets.
-/
import Runbook.Proofs.Chain.Block
import Runbook.Proofs.Chain.Compiled

namespace Runbook

variable {σ S : Type}

/-! ## Executions -/

mutual

@[simp] theorem Item.owners_watch : ∀ (i : Item S) (p : Spot),
    owners (i.watch p).scopes = (i.spots p).map .scope
  | .command _, _ => rfl
  | .chain _ items, p => congrArg (Owner.scope p :: ·) (owners_watchAll items p 0)

@[simp] theorem owners_watchAll : ∀ (is : List (Item S)) (p : Spot) (n : Nat),
    owners (scopesAll (watchAll p n is)) = (spotsAll p n is).map .scope
  | [], _, _ => rfl
  | i :: is, p, n => by
    rw [watchAll, scopesAll, owners_append, Item.owners_watch i, owners_watchAll is, spotsAll,
      List.map_append]

end

theorem Chain.owners_watch (c : Chain S) : owners c.watch.scopes = c.spots.map .scope :=
  Item.owners_watch c.toItem []

/-- Whose the session around a scope is, if there is one. -/
inductive Around : Option Owner → Option (Watched S) → Prop where
  | nothing : Around none none
  | session {w t} (of : t.IsOf w) : Around (some w) (some t)

/-- Commands were captured on a session of `w`, and nothing else was asked. -/
def Asked (w : Owner) (calls : List Call) : Prop :=
  ∀ c ∈ calls, c.owner = w ∧ ∃ line, c.act = .capture line

section

variable {k : SessionKind σ S} {around : Option Owner} {w : Owner} {p : Spot}
  {encl encl' : Option (Watched S)} {s own : Watched S} {es : List Call}

theorem watching_keeps (w : Owner) :
    k.watching.Keeps (Watched.IsOf · w) (Asked w) fun _ _ => True where
  nil := by simp [Asked]
  append asked asked' c hc := (List.mem_append.1 hc).elim (asked c) (asked' c)
  note _ _ := by simp [Asked, SessionKind.watching]
  key _ _ := trivial
  mono _ _ := trivial
  capture of called := by
    obtain ⟨of', o, rfl⟩ := called _ of
    refine ⟨of', fun c hc => ?_⟩
    obtain rfl := List.mem_singleton.1 hc
    exact ⟨rfl, _, rfl⟩

theorem Asked.opens (asked : Asked w es) : Opens p (some w) es where
  within c hc := by
    obtain ⟨of, line, act⟩ := asked c hc
    exact ⟨.inr (congrArg some of), by simp [act]⟩
  clean := List.filterMap_eq_nil_iff.2 fun c hc => by
    obtain ⟨_, _, o⟩ := c
    obtain ⟨-, line, rfl⟩ := asked _ hc
    rfl
  silent := List.filterMap_eq_nil_iff.2 fun c hc => by
    obtain ⟨_, _, o⟩ := c
    obtain ⟨-, line, rfl⟩ := asked _ hc
    rfl

theorem Opens.nil : Opens p around [] := ⟨by simp, rfl, rfl⟩

/-- Discovery asks the session around, and leaves both sessions with their owners. -/
theorem opens_of_searches (p : Spot) {d : Option DiscoverySettings} (at_ : Around around encl)
    (of : s.IsOf w) (search : k.watching.Searches s d encl (own, encl') es) :
    Around around encl' ∧ own.IsOf w ∧ Opens p around es := by
  cases search with
  | off => exact ⟨at_, of, .nil⟩
  | alone =>
    cases at_
    exact ⟨.nothing, of, .nil⟩
  | through keys =>
    rcases at_ with _ | of'
    obtain ⟨of', asked, rfl | ⟨q, added, -, rfl, -⟩⟩ := (watching_keeps _).enriches of' keys
    · exact ⟨.session of', of, asked.opens⟩
    · exact ⟨.session of', ⟨of.owner, of.aside⟩, asked.opens⟩

/-- The session of a scope is connected, after its keys were looked for. -/
theorem Opens.connect (opens : Opens p around es) :
    Opens p around (es ++ [⟨.scope p, .connect, .ok ()⟩]) where
  within c hc := by
    rcases List.mem_append.1 hc with hc | hc
    · exact opens.within c hc
    · obtain rfl := List.mem_singleton.1 hc
      exact ⟨.inl rfl, nofun⟩
  clean := by rw [List.filterMap_append, opens.clean]; rfl
  silent := by rw [List.filterMap_append, opens.silent]; rfl

@[simp] theorem watching_note (n : Notice) : k.watching.note n = [] := rfl

@[simp] theorem watching_noteFault (n : Fault → Notice) (o : Outcome) :
    k.watching.noteFault n o = [] := by
  rcases o with e | u <;> rfl

end

section

variable {k : SessionKind σ S} {around : Option Owner} {p : Spot} {above : List Spot}
  {s : Scope S} {s' : Scope (Watched S)} {items : List (Item S)} {items' : List (Item (Watched S))}
  {encl encl' : Option (Watched S)} {o : Outcome} {es : List Call}

/-- What items that stand below `p` have to come to on a session that none of them owns. -/
abbrev BlockOf (k : SessionKind σ S) (p : Spot) (n : Nat) (is : List (Item S)) :
    Conduct.Through (Watched S) Call (List (Item (Watched S))) :=
  fun t r es => ∀ w, t.IsOf w → (∀ v ∈ owners (scopesAll (watchAll p n is)), some v ≠ some w) →
    r.2.1.IsOf w ∧ Block (downTo p) (some w) (postingsAll k p n w is)
      (scopesAll (watchAll p n is)) (scopesAll r.2.2) r.1 es

/-- **How far the execution of a scope gets**, from how far that of its items gets. -/
theorem Conduct.Executes.block (down : downTo p = above ++ [p]) (at_ : Around around encl)
    (outside : ∀ v ∈ owners (s.map (.ofOwner (.scope p)) :: scopesAll (watchAll p 0 items)),
      some v ≠ around)
    (execute : k.watching.Executes (BlockOf k p 0 items) (s.map (.ofOwner (.scope p)))
      (watchAll p 0 items) encl (o, encl', s', items') es) :
    Around around encl' ∧ Block above around (postingsAll k p 0 (s.host k p around) items)
      (s.map (.ofOwner (.scope p)) :: scopesAll (watchAll p 0 items)) (s' :: scopesAll items')
      o es := by
  obtain ⟨enter, close⟩ := execute
  have own : (Watched.ofOwner (.scope p) s.session).IsOf (.scope p) := ⟨rfl, rfl⟩
  -- no scope inside has the session of the scope itself
  have new : Owner.scope p ∉ owners (scopesAll (watchAll p 0 items)) := by
    rw [owners_watchAll]
    intro inside
    obtain ⟨_, inside, ⟨⟩⟩ := List.mem_map.1 inside
    exact notMem_spotsAll items p 0 inside
  have inside : ∀ v ∈ owners (scopesAll (watchAll p 0 items)), some v ≠ some (.scope p) := by
    rintro v hv ⟨⟩
    exact new hv
  cases enter with
  | borrowed pass body =>
    rcases at_ with _ | @⟨w, t, of⟩
    obtain ⟨of', block⟩ := body w of fun v hv => outside v (List.mem_cons_of_mem _ hv)
    obtain ⟨closed, rfl⟩ := close _ own
    have host : s.host k p (some w) = w := if_pos pass
    rw [host]
    refine ⟨.session of', ?_⟩
    simpa using block.enclose (.inr rfl) .nil down rfl closed.owner rfl outside new
  | grounded pass body =>
    cases at_
    obtain ⟨of', block⟩ := body _ own inside
    obtain ⟨closed, rfl⟩ := close _ of'
    refine ⟨.nothing, ?_⟩
    simpa [Scope.host] using block.enclose (.inl rfl) .nil down rfl closed.owner rfl outside new
  | refused pass search connect =>
    obtain ⟨at_', of, opens⟩ := opens_of_searches p at_ own search
    obtain ⟨refused, rfl⟩ := connect _ of
    obtain ⟨closed, rfl⟩ := close _ refused
    refine ⟨at_', ?_⟩
    simpa using (Block.refused p _ _).enclose (.inl rfl) opens down rfl closed.owner rfl outside new
  | connected pass search connect body =>
    obtain ⟨at_', of, opens⟩ := opens_of_searches p at_ own search
    obtain ⟨connected, rfl⟩ := connect _ of
    obtain ⟨of', block⟩ := body _ connected inside
    obtain ⟨closed, rfl⟩ := close _ of'
    have host : s.host k p around = .scope p := by
      rcases around with _ | w
      · rfl
      · have pass : k.isPassThrough s.session = false := pass
        exact if_neg (by simp [pass])
    rw [host]
    refine ⟨at_', ?_⟩
    simpa using block.enclose (.inl rfl) opens.connect down rfl closed.owner rfl outside new

end

section

variable {k : SessionKind σ S}

mutual

/-- **How far the execution of an item gets**, inside a scope that runs on a session of `w`. -/
theorem executeItem_block : ∀ (i : Item S) (p : Spot) (n : Nat) (t : Watched S),
    (k.watched.executeItem (some t) (i.watch (n :: p))).Gives logged fun r es => ∀ w, t.IsOf w →
      (∀ v ∈ owners (i.watch (n :: p)).scopes, some v ≠ some w) →
        (∃ t', r.2.1 = some t' ∧ t'.IsOf w) ∧ Block (downTo p) (some w)
          (i.postings k (n :: p) w) (i.watch (n :: p)).scopes r.2.2.scopes r.1 es
  | .command line, p, n, t => by
    unfold SessionKind.executeItem
    refine Run.gives_map (k.watching.executeCommand_gives line t) ?_
    rintro ⟨o, t'⟩ es ⟨s', es', rfl, run, rfl⟩ w of -
    obtain ⟨of', rfl⟩ := run w of
    rw [watching_note, watching_noteFault, List.nil_append, List.append_nil]
    exact ⟨⟨s', rfl, of'⟩, .command p w line o⟩
  | .chain s items, p, n, t => by
    unfold SessionKind.executeItem
    refine Run.gives_map (k.watching.executeScope_gives
      (fun t => executeAll_block items (n :: p) 0 t) _ (some t) _) ?_
    rintro ⟨o, encl', s', items'⟩ es execute w of apart
    obtain ⟨at_, block⟩ := execute.block rfl (.session of) apart
    rcases at_ with _ | of'
    exact ⟨⟨_, rfl, of'⟩, block⟩

theorem executeAll_block : ∀ (is : List (Item S)) (p : Spot) (n : Nat) (t : Watched S),
    (k.watched.executeAll t (watchAll p n is)).Gives logged (BlockOf k p n is t)
  | [], p, n, t => Run.gives_pure fun w of _ => ⟨of, .ofVerdict (by simp) (.ok rfl rfl rfl rfl)⟩
  | i :: is, p, n, t => by
    unfold watchAll SessionKind.executeAll
    refine Run.gives_bind (executeItem_block i p n t) ?_
    rintro ⟨e | ⟨⟩, t', i'⟩ es first
    · -- the items behind the fault are handed back as they were
      refine Run.gives_pure fun w of apart => ?_
      simp only [watchAll, scopesAll, owners_append, List.forall_mem_append] at apart
      obtain ⟨⟨s, rfl, of'⟩, block⟩ := first w of apart.1
      rw [List.append_nil]
      exact ⟨of', block.cut _ _⟩
    · refine Run.gives_map (executeAll_block is p (n + 1) _) ?_
      rintro ⟨o, t'', is'⟩ es' rest w of apart
      have parts := apart
      simp only [watchAll, scopesAll, owners_append, List.forall_mem_append] at parts
      obtain ⟨⟨s, rfl, of'⟩, block⟩ := first w of parts.1
      obtain ⟨of', block'⟩ := rest w of' parts.2
      refine ⟨of', block.append block' apart ?_⟩
      rw [Item.owners_watch, owners_watchAll]
      intro v hv hv'
      obtain ⟨q, hq, rfl⟩ := List.mem_map.1 hv
      obtain ⟨_, hq', ⟨⟩⟩ := List.mem_map.1 hv'
      exact disjoint_spots i is p n q hq hq'

end

end

/-! ## Whole executions -/

/-- The scopes of a chain that have failed. -/
def Chain.failed (c : Chain S) : List Spot :=
  ((c.spots.zip c.scopes).filter (·.2.phase = .failed)).map Prod.fst

/-- How far the execution of `c` got, which came to `o`: the first `n` scopes were entered.
    The chain is `c'` afterwards, and `calls` is all that was asked of sessions. -/
structure Lifecycle (postings : List Posting) (c c' : Chain S) (o : Outcome) (calls : List Call)
    (n : Nat) : Prop where
  plan : c'.toItem.plan = c.toItem.plan
  /-- The scopes that were entered are over. -/
  ended : ∀ s ∈ c'.scopes.take n, s.phase = .closed ∨ s.phase = .failed
  closed : ∀ p ∈ c.spots.take n, ClosedLast (.scope p) calls
  /-- The others are as they were. -/
  untouched : c'.scopes.drop n = c.scopes.drop n
  waiting : ∀ s ∈ c'.scopes.drop n, s.phase = .unconnected
  silent : ∀ p ∈ c.spots.drop n, ∀ call ∈ calls, call.owner ≠ .scope p
  /-- Without a fault all were entered, and none has failed. -/
  complete : o = .ok () → c.spots.length = n
  sound : o = .ok () ↔ c'.failed = []
  /-- After a fault, those have failed that it arose in, and no others. -/
  broken : ∀ e, o = .error e → ∃ q, c'.failed = downTo q ∧ FailsAt postings q e calls

theorem downTo_ne_nil : ∀ p : Spot, downTo p ≠ []
  | [] => nofun
  | n :: p => by simp [downTo]

theorem failedOwners_of_unconnected {ss : List (Scope (Watched S))}
    (fresh : ∀ s ∈ ss, s.phase = .unconnected) : failedOwners ss = [] := by
  rw [failedOwners, List.filter_eq_nil_iff.2 fun s hs => by simp [fresh s hs]]
  rfl

theorem failedOwners_zip : ∀ {ss : List (Scope (Watched S))} {ps : List Spot},
    owners ss = ps.map .scope → failedOwners ss =
      (((ps.zip (ss.map (Scope.map Watched.bare))).filter (·.2.phase = .failed)).map Prod.fst).map
        .scope
  | [], [], _ => rfl
  | s :: ss, p :: ps, same => by
    obtain ⟨own, same⟩ := List.cons.inj same
    have rest := failedOwners_zip same
    by_cases failed : s.phase = .failed
    · rw [failedOwners_cons_of_failed failed, rest]
      simp [own, Scope.map, failed]
    · rw [failedOwners_cons_of_sound failed, rest]
      simp [Scope.map, failed]

/-- What the verdict on a whole chain says of the scopes that have failed. -/
theorem Verdict.whole {postings : List Posting} {ss' rest : List (Scope (Watched S))} {o : Outcome}
    {calls : List Call} {failed : List Spot} (same : failed.map .scope = failedOwners ss')
    (verdict : Verdict [] postings ss' rest o calls) : (o = .ok () ↔ failed = []) ∧
      ∀ e, o = .error e → ∃ q, failed = downTo q ∧ FailsAt postings q e calls := by
  cases verdict with
  | ok _ sound =>
    rw [sound] at same
    exact ⟨iff_of_true rfl (List.map_eq_nil_iff.1 same), nofun⟩
  | @error q trail e _ down failed' fails =>
    have way : failed = downTo q := by
      rw [down, List.nil_append]
      exact (List.map_inj_right fun _ _ => Owner.scope.inj).1 (same.trans failed')
    refine ⟨iff_of_false nofun fun none => downTo_ne_nil q (way.symm.trans none), ?_⟩
    rintro _ ⟨⟩
    exact ⟨q, way, fails⟩

section

variable {c : Chain S} {inner rest : List (Scope (Watched S))}

/-- The scopes that were entered stand at the first spots. -/
theorem owners_inner (parts : c.watch.scopes = inner ++ rest) :
    owners inner = (c.spots.take inner.length).map .scope := by
  have own : owners inner ++ owners rest = c.spots.map .scope := by
    rw [← owners_append, ← parts, c.owners_watch]
  rw [List.map_take, ← own, List.take_left' (by simp [owners])]

theorem notMem_owners_of_mem_drop (parts : c.watch.scopes = inner ++ rest) {p : Spot}
    (behind : p ∈ c.spots.drop inner.length) : Owner.scope p ∉ owners inner := by
  rw [owners_inner parts]
  intro before
  obtain ⟨_, before, ⟨⟩⟩ := List.mem_map.1 before
  have nodup : c.spots.Nodup := Item.nodup_spots c.toItem []
  rw [← List.take_append_drop inner.length c.spots] at nodup
  exact (List.nodup_append.1 nodup).2.2 p before p behind rfl

/-- How far the whole chain got, read off the watched one. -/
theorem Block.lifecycle {c' : Chain (Watched S)} {around : Option Owner}
    {postings : List Posting} {o : Outcome} {calls : List Call}
    (block : Block [] around postings c.watch.scopes c'.scopes o calls)
    (outside : ∀ p, some (.scope p) ≠ around) (fresh : ∀ s ∈ c.scopes, s.phase = .unconnected)
    (plan : (c'.map Watched.bare).toItem.plan = c.toItem.plan) :
    ∃ n, Lifecycle postings c (c'.map Watched.bare) o calls n := by
  obtain ⟨inner, inner', rest, before, after, entered, verdict⟩ := block
  have length : inner'.length = inner.length := by
    simpa [owners] using congrArg List.length entered.same
  have scopes : c.scopes =
      inner.map (Scope.map Watched.bare) ++ rest.map (Scope.map Watched.bare) := by
    rw [← List.map_append, ← before, ← Chain.scopes_map, Chain.map_watch]
  have scopes' : (c'.map Watched.bare).scopes =
      inner'.map (Scope.map Watched.bare) ++ rest.map (Scope.map Watched.bare) := by
    rw [← List.map_append, ← after, ← Chain.scopes_map]
  have waiting : ∀ s ∈ rest, s.phase = .unconnected := fun s hs => by
    refine fresh (s.map Watched.bare) ?_
    rw [scopes]
    exact List.mem_append_right _ (List.mem_map_of_mem hs)
  have failed : (c'.map Watched.bare).failed.map .scope = failedOwners inner' := by
    have own : owners (inner' ++ rest) = c.spots.map .scope := by
      rw [owners_append, entered.same, ← owners_append, ← before, c.owners_watch]
    rw [Chain.failed, Chain.spots_of_plan plan, scopes', ← List.map_append, ← failedOwners_zip own,
      failedOwners_append, failedOwners_of_unconnected waiting, List.append_nil]
  have ended : (c'.map Watched.bare).scopes.take inner.length =
      inner'.map (Scope.map Watched.bare) := by
    rw [scopes', List.take_left' (by simp [length])]
  have others : (c'.map Watched.bare).scopes.drop inner.length =
      rest.map (Scope.map Watched.bare) := by
    rw [scopes', List.drop_left' (by simp [length])]
  obtain ⟨sound, broken⟩ := verdict.whole failed
  refine ⟨inner.length, plan, fun s hs => ?_, fun p hp => ?_, ?_, fun s hs => ?_, fun p hp => ?_,
    fun ok => ?_, sound, broken⟩
  · rw [ended] at hs
    obtain ⟨t, ht, rfl⟩ := List.mem_map.1 hs
    exact entered.ended t ht
  · refine entered.closed _ ?_
    rw [owners_inner before]
    exact List.mem_map_of_mem hp
  · rw [others, scopes, List.drop_left' (by simp)]
  · rw [others] at hs
    obtain ⟨t, ht, rfl⟩ := List.mem_map.1 hs
    exact waiting t ht
  · exact entered.idle (outside p) (notMem_owners_of_mem_drop before hp)
  · subst ok
    obtain ⟨rfl, -, -, -⟩ := verdict
    rw [List.append_nil] at before
    simpa [before, owners] using (congrArg List.length c.owners_watch).symm

end

/-- The watched execution of a chain is a block, with nothing above it. -/
theorem watch_block (k : SessionKind σ S) (c : Chain S) (parent : Option S) :
    (k.watch c parent).Gives logged fun r es =>
      Block [] (parent.map fun _ => .outside) (c.postings k parent)
        c.watch.scopes r.2.2.scopes r.1 es := by
  have at_ : Around (parent.map fun _ => .outside) (parent.map (Watched.ofOwner .outside)) := by
    rcases parent with _ | s
    · exact .nothing
    · exact .session ⟨rfl, rfl⟩
  have apart : ∀ v ∈ owners c.watch.scopes, some v ≠ parent.map fun _ => .outside := by
    rw [c.owners_watch]
    rintro v hv h
    obtain ⟨q, -, rfl⟩ := List.mem_map.1 hv
    rcases parent with _ | s <;> cases h
  refine Run.gives_map (k.watching.executeScope_gives
    (fun t => executeAll_block c.items [] 0 t) _ _ _) ?_
  rintro ⟨o, encl', s', items'⟩ es execute
  exact (execute.block rfl at_ apart).2

/-- **How far an execution gets, whatever its sessions do.** Watching it changes nothing. The
    scopes that were entered are the first ones of the chain; their sessions were closed
    once and last, and nothing was asked of the others. After a fault exactly those scopes
    have failed that it arose in. -/
theorem execute_lifecycle (k : SessionKind σ S) (c : Chain S)
    (fresh : ∀ s ∈ c.scopes, s.phase = .unconnected) (parent : Option S) (w : World σ) :
    (k.execute c parent w =
      let watched := k.watch c parent (w.mapHost fun host => (host, []))
      (bareChain Watched.bare watched.1, watched.2.mapHost Prod.fst)) ∧
    ∃ n, Lifecycle (c.postings k parent) c (k.execute c parent w).1.2.2
      (k.execute c parent w).1.1 (k.calls c parent w) n := by
  have erased := watch_erases k c parent (w.mapHost fun host => (host, []))
  refine ⟨erased, ?_⟩
  have plan := execute_plan k c parent w
  rw [show w = (w.mapHost fun host => (host, ([] : List Call))).mapHost Prod.fst from rfl, erased]
    at plan ⊢
  obtain ⟨es, leads, block⟩ := watch_block k c parent (w.mapHost fun host => (host, []))
  obtain rfl : k.calls c parent w = es := leads
  refine block.lifecycle (fun p => ?_) fresh plan
  rcases parent with _ | s <;> nofun

/-- A host that grants everything, except that it refuses to be dialed. -/
def Host.refusing : Host Unit :=
  { Host.granting with dial := fun _ => pure (.error (.of "refused")) }

/-- The sample with one more scope behind it. -/
def sampleLonger : Chain :=
  sampleChain.push
    (.chain { name := "later", session := .shell { shell := "sh" } } [.command "never"])

/-- Where the other machine refuses, its scope and the one around it fail, and the scope behind
    is never touched. -/
theorem sample_lifecycle :
    (∃ n, Lifecycle (sampleLonger.postings (Session.kind Host.refusing) none) sampleLonger
      ((Session.kind Host.refusing).execute sampleLonger none { host := () }).1.2.2
      ((Session.kind Host.refusing).execute sampleLonger none { host := () }).1.1
      ((Session.kind Host.refusing).calls sampleLonger none { host := () }) n) ∧
    ((Session.kind Host.refusing).execute sampleLonger none
      { host := () }).1.2.2.scopes.map (·.phase) = [.failed, .failed, .unconnected] := by
  obtain ⟨-, life⟩ := execute_lifecycle (Session.kind Host.refusing) sampleLonger (by decide) none
    { host := () }
  exact ⟨life, by decide +kernel⟩

end Runbook
