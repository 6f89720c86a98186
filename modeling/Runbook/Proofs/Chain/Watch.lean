/-
  Executions that are watched.

  Sessions are told apart by the scopes that own them, and every operation on a session is
  put down in a log, with what it came to.

  * `Spot`: where a scope stands in its chain; `Chain.spots` lists them, each before those
    inside it;
  * `SessionKind.watched`: sessions of a kind that know their owners, and whose operations
    are put down as `Call`s;
  * `SessionKind.watch`: a watched execution; `watch_erases`: watching changes nothing;
  * `SessionKind.watching`: what the operations put down.
-/
import Runbook.Proofs.Chain.Listing
import Runbook.Proofs.Chain.Scope
import Runbook.Proofs.Erasure

namespace Runbook

/-- Where a scope stands in a chain: its place among the items of the scope around it, then
    the place of that scope, and so on. The outermost scope stands at `[]`. -/
abbrev Spot := List Nat

/-- Whose a session is. -/
inductive Owner where
  /-- The session comes from outside the chain. -/
  | outside
  | scope (p : Spot)
  deriving DecidableEq, Repr

/-- What is done with a session. -/
inductive Act where
  | connect
  | run (line : String)
  /-- A command is run and its output is captured. -/
  | capture (line : String)
  | close
  deriving DecidableEq, Repr

/-- An operation on a session, and what it came to. -/
structure Call where
  owner : Owner
  act : Act
  outcome : Outcome

/-- A session that knows whose it is. -/
structure Watched (S : Type) where
  owner : Owner
  /-- Its output is captured. -/
  aside : Bool := false
  bare : S

variable {σ S α : Type}

/-! ## Spots -/

mutual

/-- Where the scopes of an item stand, if the item itself stands at `p`. -/
def Item.spots (p : Spot) : Item S → List Spot
  | .command _ => []
  | .chain _ items => p :: spotsAll p 0 items

/-- Where the scopes of a scope's items stand, from the item `n` on. -/
def spotsAll (p : Spot) (n : Nat) : List (Item S) → List Spot
  | [] => []
  | i :: is => i.spots (n :: p) ++ spotsAll p (n + 1) is

end

/-- Where the scopes of a chain stand, the outermost first. -/
def Chain.spots (c : Chain S) : List Spot := c.toItem.spots []

mutual

/-- The plan of an item tells where its scopes stand. -/
theorem Item.spots_plan : ∀ (i : Item S) (p : Spot), i.plan.spots p = i.spots p
  | .command _, _ => rfl
  | .chain _ items, p => congrArg (p :: ·) (spotsAll_planAll items p 0)

theorem spotsAll_planAll : ∀ (is : List (Item S)) (p : Spot) (n : Nat),
    spotsAll p n (planAll is) = spotsAll p n is
  | [], _, _ => rfl
  | i :: is, p, n => by
    rw [planAll, spotsAll, spotsAll, Item.spots_plan i, spotsAll_planAll is]

end

theorem Chain.spots_of_plan {T : Type} {c : Chain S} {c' : Chain T}
    (same : c'.toItem.plan = c.toItem.plan) : c'.spots = c.spots := by
  rw [Chain.spots, ← Item.spots_plan, same, Item.spots_plan]
  rfl

mutual

theorem Item.suffix_of_mem_spots : ∀ {i : Item S} {p q : Spot}, q ∈ i.spots p → p <:+ q
  | .command _, _, _, h => by simp [Item.spots] at h
  | .chain _ items, p, q, h => by
    rcases List.mem_cons.1 h with rfl | h
    · exact List.suffix_rfl
    · obtain ⟨m, -, h⟩ := suffix_of_mem_spotsAll h
      exact (List.suffix_cons m p).trans h

theorem suffix_of_mem_spotsAll : ∀ {is : List (Item S)} {p q : Spot} {n : Nat},
    q ∈ spotsAll p n is → ∃ m, n ≤ m ∧ m :: p <:+ q
  | [], _, _, _, h => by simp [spotsAll] at h
  | i :: is, p, q, n, h => by
    rcases List.mem_append.1 h with h | h
    · exact ⟨n, Nat.le_refl n, Item.suffix_of_mem_spots h⟩
    · obtain ⟨m, hm, h⟩ := suffix_of_mem_spotsAll h
      exact ⟨m, by omega, h⟩

end

/-- A scope stands nowhere inside itself. -/
theorem notMem_spotsAll (is : List (Item S)) (p : Spot) (n : Nat) : p ∉ spotsAll p n is := by
  intro h
  obtain ⟨m, -, h⟩ := suffix_of_mem_spotsAll h
  have := h.length_le
  simp only [List.length_cons] at this
  omega

/-- The scopes of an item stand elsewhere than those of the items after it. -/
theorem disjoint_spots (i : Item S) (is : List (Item S)) (p : Spot) (n : Nat) :
    ∀ q ∈ i.spots (n :: p), q ∉ spotsAll p (n + 1) is := fun q h h' => by
  have first := Item.suffix_of_mem_spots h
  obtain ⟨m, hm, later⟩ := suffix_of_mem_spotsAll h'
  have same : n :: p = m :: p :=
    (List.suffix_of_suffix_length_le first later (by simp)).eq_of_length (by simp)
  have : n = m := (List.cons.inj same).1
  omega

mutual

/-- No two scopes of an item stand at one spot. -/
theorem Item.nodup_spots : ∀ (i : Item S) (p : Spot), (i.spots p).Nodup
  | .command _, _ => .nil
  | .chain _ items, p => List.nodup_cons.2 ⟨notMem_spotsAll items p 0, nodup_spotsAll items p 0⟩

theorem nodup_spotsAll : ∀ (is : List (Item S)) (p : Spot) (n : Nat), (spotsAll p n is).Nodup
  | [], _, _ => .nil
  | i :: is, p, n => by
    refine List.nodup_append.2 ⟨Item.nodup_spots i _, nodup_spotsAll is p _, ?_⟩
    rintro q hq _ hq' rfl
    exact disjoint_spots i is p n q hq hq'

end

/-! ## Watched sessions -/

/-- A step taken beside a log. -/
def Run.beside (m : Run σ α) : Run (σ × List Call) α := fun w =>
  let (a, w') := m (w.mapHost Prod.fst)
  (a, w'.mapHost fun host => (host, w.host.2))

/-- Puts down a call. -/
def Run.putDown (c : Call) : Run (σ × List Call) Unit := fun w =>
  ((), { w with host := (w.host.1, w.host.2 ++ [c]) })

namespace Watched

/-- A session of an owner, as it is before anything is done with it. -/
def ofOwner (w : Owner) (s : S) : Watched S where
  owner := w
  bare := s

/-- Does something with the session, and puts down that it was done. -/
def call (s : Watched S) (act : Act) (m : Run σ (Outcome × S)) :
    Run (σ × List Call) (Outcome × Watched S) := do
  let (o, bare) ← Run.beside m
  Run.putDown ⟨s.owner, act, o⟩
  pure (o, { s with bare })

/-- What it is to run a command line on the session. -/
def running (s : Watched S) (line : String) : Act := if s.aside then .capture line else .run line

end Watched

/-- The kind of watched sessions. While the output of a session is sent elsewhere, its
    commands are captured. -/
def SessionKind.watched (k : SessionKind σ S) : SessionKind (σ × List Call) (Watched S) where
  identify s := k.identify s.bare
  isPassThrough s := k.isPassThrough s.bare
  params? s := k.params? s.bare
  changeableParams? s := k.changeableParams? s.bare
  withParams p s := { s with bare := k.withParams p s.bare }
  swapSink sink s :=
    let (previous, bare) := k.swapSink sink s.bare
    (previous, { s with aside := !s.aside, bare })
  connect s := s.call .connect (k.connect s.bare)
  run s line := s.call (s.running line) (k.run s.bare line)
  close s := s.call .close (k.close s.bare)

mutual

/-- An item that stands at `p`, with sessions that know their owners. -/
def Item.watch (p : Spot) : Item S → Item (Watched S)
  | .command line => .command line
  | .chain s items => .chain (s.map (.ofOwner (.scope p))) (watchAll p 0 items)

/-- The items of a scope from the item `n` on, with sessions that know their owners. -/
def watchAll (p : Spot) (n : Nat) : List (Item S) → List (Item (Watched S))
  | [] => []
  | i :: is => i.watch (n :: p) :: watchAll p (n + 1) is

end

/-- A chain with sessions that know their owners. -/
def Chain.watch (c : Chain S) : Chain (Watched S) where
  scope := c.scope.map (.ofOwner (.scope []))
  items := watchAll [] 0 c.items

/-- A watched execution. -/
def SessionKind.watch (k : SessionKind σ S) (c : Chain S) (parent : Option S) :
    Run (σ × List Call) (Outcome × Option (Watched S) × Chain (Watched S)) :=
  k.watched.execute c.watch (parent.map (.ofOwner .outside))

/-- The calls of an execution, in their order. -/
def SessionKind.calls (k : SessionKind σ S) (c : Chain S) (parent : Option S) (w : World σ) :
    List Call :=
  (k.watch c parent (w.mapHost fun host => (host, []))).2.host.2

/-! ## Watching changes nothing -/

mutual

@[simp] theorem Item.map_watch : ∀ (i : Item S) (p : Spot), (i.watch p).map Watched.bare = i
  | .command _, _ => rfl
  | .chain s items, p => by
    rw [Item.watch, Item.map, mapAll_watchAll items]
    rfl

@[simp] theorem mapAll_watchAll : ∀ (is : List (Item S)) (p : Spot) (n : Nat),
    mapAll Watched.bare (watchAll p n is) = is
  | [], _, _ => rfl
  | i :: is, p, n => by rw [watchAll, mapAll, Item.map_watch i, mapAll_watchAll is]

end

mutual

theorem Item.scopes_map {T : Type} (f : S → T) : ∀ i : Item S,
    (i.map f).scopes = i.scopes.map (Scope.map f)
  | .command _ => rfl
  | .chain s items => congrArg (s.map f :: ·) (scopesAll_mapAll f items)

theorem scopesAll_mapAll {T : Type} (f : S → T) : ∀ is : List (Item S),
    scopesAll (mapAll f is) = (scopesAll is).map (Scope.map f)
  | [] => rfl
  | i :: is => by
    rw [mapAll, scopesAll, scopesAll, List.map_append, Item.scopes_map f i, scopesAll_mapAll f is]

end

theorem Chain.scopes_map {T : Type} (f : S → T) (c : Chain S) :
    (c.map f).scopes = c.scopes.map (Scope.map f) := Item.scopes_map f c.toItem

@[simp] theorem Chain.map_watch (c : Chain S) : c.watch.map Watched.bare = c := by
  rw [Chain.watch, Chain.map, mapAll_watchAll]
  rfl

theorem Watched.call_erases (s : Watched S) (act : Act) (m : Run σ (Outcome × S)) :
    Run.Erases Prod.fst (bareSecond Watched.bare) (s.call act m) m := fun _ => rfl

theorem watched_covers (k : SessionKind σ S) : k.watched.Covers k Prod.fst Watched.bare where
  identify _ := rfl
  isPassThrough _ := rfl
  params? _ := rfl
  changeableParams? _ := rfl
  withParams _ _ := rfl
  swapSink _ _ := rfl
  connect s := s.call_erases .connect _
  run s line := s.call_erases (s.running line) _
  close s := s.call_erases .close _

/-- **Watching changes nothing**: the execution comes to the same outcome, the same sessions
    and the same world. -/
theorem watch_erases (k : SessionKind σ S) (c : Chain S) (parent : Option S) :
    Run.Erases Prod.fst (bareChain Watched.bare) (k.watch c parent) (k.execute c parent) := by
  have erases := (watched_covers k).execute c.watch (parent.map (.ofOwner .outside))
  rw [Chain.map_watch, Option.map_map] at erases
  simpa [SessionKind.watch, Function.comp_def, Watched.ofOwner] using erases

/-! ## What is put down -/

/-- Runs as the calls that they put down. -/
def logged : View (σ × List Call) Call where
  Leads w es w' := w'.host.2 = w.host.2 ++ es
  refl w := (List.append_nil _).symm
  trans h h' := by rw [h', h, List.append_assoc]

/-- The session is of that owner, and its output goes where it always goes. -/
structure Watched.IsOf (s : Watched S) (w : Owner) : Prop where
  owner : s.owner = w
  aside : s.aside = false

/-- One call was put down, and the session is of its owner as before. -/
def Called (act : Act) (s : Watched S) (r : Outcome × Watched S) (es : List Call) : Prop :=
  ∀ w, s.IsOf w → r.2.IsOf w ∧ es = [⟨w, act, r.1⟩]

/-- One captured command was put down, and the session is of its owner as before. -/
def CalledAside (line : String) (s s' : Watched S) (es : List Call) : Prop :=
  ∀ w, s.IsOf w → s'.IsOf w ∧ ∃ o, es = [⟨w, .capture line, o⟩]

theorem Watched.call_gives (s : Watched S) (act : Act) (m : Run σ (Outcome × S)) :
    (s.call act m).Gives logged fun r es =>
      r.2.owner = s.owner ∧ r.2.aside = s.aside ∧ es = [⟨s.owner, act, r.1⟩] := fun _ =>
  ⟨_, rfl, rfl, rfl, rfl⟩

theorem Watched.call_called (s : Watched S) (act : Act) (m : Run σ (Outcome × S)) :
    (s.call act m).Gives logged (Called act s) := by
  refine (s.call_gives act m).mono ?_
  rintro ⟨o, t⟩ es ⟨owner, aside, rfl⟩ w ⟨rfl, straight⟩
  exact ⟨⟨owner, aside.trans straight⟩, rfl⟩

variable (k : SessionKind σ S)

theorem run_called (line : String) (s : Watched S) :
    (k.watched.run s line).Gives logged (Called (.run line) s) := by
  refine (s.call_called (s.running line) _).mono fun r es called w of => ?_
  have straight : s.running line = .run line := by rw [Watched.running, of.aside]; rfl
  rw [← straight]
  exact called w of

/-- Capturing the output of a command puts down that a command was captured: the output is
    sent elsewhere before it, and back again after it. -/
theorem capture_called (line : String) (s : Watched S) :
    (k.watched.capture s line).Gives logged fun r es => CalledAside line s r.2 es := by
  have buffer : (Run.newBuffer : Run (σ × List Call) Nat).Gives logged fun _ es => es = [] :=
    fun w => ⟨[], (List.append_nil w.host.2).symm, rfl⟩
  have drop : ∀ b, (Run.dropBuffers b : Run (σ × List Call) Bytes).Gives logged
      fun _ es => es = [] := fun b w => ⟨[], (List.append_nil w.host.2).symm, rfl⟩
  refine Run.gives_bind buffer ?_
  rintro b _ rfl
  have redirected : (redirectedBy k.watched.swapSink s (.buffer b) (k.watched.run · line)).Gives
      logged fun r es => CalledAside line s r.2 es := by
    refine Run.gives_map (Watched.call_gives _ _ _) ?_
    rintro ⟨o, t⟩ es ⟨owner, aside, rfl⟩ w ⟨rfl, straight⟩
    -- the run itself cannot tell where its output goes, so it is still away
    have away : t.aside = true := by simpa [SessionKind.watched, straight] using aside
    refine ⟨⟨owner, ?_⟩, o, ?_⟩
    · simp [SessionKind.watched, away]
    · simp [Watched.running, SessionKind.watched, straight]
  refine Run.gives_bind redirected ?_
  rintro ⟨o, t⟩ es called
  refine Run.gives_bind (drop b) ?_
  rintro bytes _ rfl
  rcases o with e | u <;> exact Run.gives_pure (by simpa using called)

/-- What the operations on watched sessions put down. -/
def SessionKind.watching : Conduct k.watched logged where
  note _ := []
  Connects := Called .connect
  Runs line := Called (.run line)
  Captures line s r := CalledAside line s r.2
  Closes := Called .close
  note_gives _ w := ⟨[], (List.append_nil w.host.2).symm, rfl⟩
  connect_gives s := s.call_called .connect _
  run_gives := run_called k
  capture_gives := capture_called k
  close_gives s := s.call_called .close _

end Runbook
