/-
  What a dial presents is the scope's own.

  * `ShownIn ms k around key`: for the scope with the number `k` the key was read through
    the session around it;
  * `Learned`: a visit gives the methods of a scope only keys that were shown for it;
  * `Equipped`: what a scope has are the settings of its own entries, and such keys;
  * `rerun_presents`: so it is for all that is presented, however often a chain is executed.
-/
import Runbook.Proofs.Chain.Moments

namespace Runbook

open Session (resting)

/-- For the scope with the number `k` the key was read, through the youngest of the
    connections to the hosts around it, or on this machine, and is named after that place. -/
def ShownIn (ms : List Moment) (k : Nat) (around : Option (List String)) (key : AuthMethod) :
    Prop :=
  ∃ m ∈ ms, m.started = k ∧ around = some (m.live.map (·.address)) ∧ ∃ path pem,
    m.event.captured? = some (m.live.head?, readCommand path, pem) ∧
      key = .privateKey (Place.name m.live.head? ++ ":" ++ path) pem

theorem ShownIn.mono {ms ms' : List Moment} {k : Nat} {around : Option (List String)}
    {key : AuthMethod} (shown : ShownIn ms k around key) (sub : ms ⊆ ms') :
    ShownIn ms' k around key := by
  obtain ⟨m, hm, rest⟩ := shown
  exact ⟨m, sub hm, rest⟩

/-- What is live inside a place, with the hosts around it. -/
inductive Stands : List Connection → Option Place → Option (List String) → Prop where
  | outermost : Stands [] none none
  | within (live) : Stands live (some live.head?) (some (live.map (·.address)))

theorem Stands.top {live : List Connection} {encl : Option Place} {around : Option (List String)}
    (stands : Stands live encl around) : live.head? = encl.join := by
  cases stands <;> rfl

theorem Stands.hosts {live : List Connection} {encl : Option Place}
    {around : Option (List String)} (stands : Stands live encl around) :
    around.getD [] = live.map (·.address) := by
  cases stands <;> rfl

/-- A scope of a chain with the hosts around it and its number. -/
abbrev Placed := (Option (List String) × Scope) × Nat

/-- A scope before and after some moments: only keys that were shown for it were added to
    its methods. -/
structure Learned (st : Settings) (ms : List Moment) (x y : Placed) : Prop where
  number : y.2 = x.2
  around : y.1.1 = x.1.1
  discovery : y.1.2.discovery = x.1.2.discovery
  session : ∃ p keys, x.1.2.session = resting st p ∧
    y.1.2.session = resting st { p with auth := addKeys p.auth keys } ∧
    (x.1.2.discovery = none → keys = []) ∧ ∀ key ∈ keys, ShownIn ms x.2 x.1.1 key

variable {st : Settings}

theorem Learned.mono {ms ms' : List Moment} {x y : Placed} (learned : Learned st ms x y)
    (sub : ms ⊆ ms') : Learned st ms' x y := by
  obtain ⟨number, around, discovery, p, keys, hp, hp', off, shown⟩ := learned
  exact ⟨number, around, discovery, p, keys, hp, hp', off, fun key hk => (shown key hk).mono sub⟩

/-- Scopes at rest have learned nothing. -/
theorem learned_rest {ms : List Moment} : ∀ {xs : List (Option (List String) × Scope)} (n : Nat),
    Rests st (xs.map Prod.snd) → List.Forall₂ (Learned st ms) (xs.zipIdx n) (xs.zipIdx n)
  | [], _, _ => .nil
  | x :: xs, n, rests => by
    obtain ⟨⟨p, hp⟩, rest⟩ := rests_cons.1 rests
    exact .cons ⟨rfl, rfl, rfl, p, [], hp, hp, fun _ => rfl, by simp⟩ (learned_rest (n + 1) rest)

/-- What was read at a place was shown to the scope that was started last. -/
theorem shownIn_of_shownAt {live : List Connection} {es : List Event} {key : AuthMethod} {n : Nat}
    (quiet : Quiet st live.head? es) (shown : ShownAt live.head? es key) :
    ShownIn (moments n live es) n (some (live.map (·.address))) key := by
  obtain ⟨path, pem, rfl, hm⟩ := shown
  obtain ⟨e, he, captured⟩ := List.mem_filterMap.1 hm
  refine ⟨⟨n, live, e⟩, ?_, rfl, rfl, path, pem, captured, rfl⟩
  rw [quiet.steady.moments]
  exact List.mem_map.2 ⟨e, he, rfl⟩

/-- Before a scope connects it learns the keys that are shown for it. -/
theorem Prepares.learned {p p' : Params} {d : Option DiscoverySettings} {encl : Option Place}
    {es : List Event} {live : List Connection} {around : Option (List String)}
    (prepare : Prepares st p d encl p' es) (stands : Stands live encl around) (n : Nat) :
    ∃ keys, p' = { p with auth := addKeys p.auth keys } ∧ (d = none → keys = []) ∧
      ∀ key ∈ keys, ShownIn (moments n live es) n around key := by
  cases prepare with
  | off | alone => exact ⟨[], rfl, fun _ => rfl, by simp⟩
  | @through d pl keys es quiet shown =>
    cases stands
    exact ⟨keys, rfl, by simp, fun key hk => shownIn_of_shownAt quiet (shown key hk)⟩

theorem learned_append {ms : List Moment} {xs ys xs' ys' : List (Option (List String) × Scope)}
    {n : Nat} (h : List.Forall₂ (Learned st ms) (xs.zipIdx n) (ys.zipIdx n))
    (h' : List.Forall₂ (Learned st ms) (xs'.zipIdx (n + ys.length)) (ys'.zipIdx (n + ys.length))) :
    List.Forall₂ (Learned st ms) ((xs ++ xs').zipIdx n) ((ys ++ ys').zipIdx n) := by
  have length : xs.length = ys.length := by simpa using h.length_eq
  rw [List.zipIdx_append, List.zipIdx_append, length]
  exact List.rel_append h h'

/-- A scope that is connected is on the connection that it dialed. -/
theorem Prepares.linked {p p' : Params} {d : Option DiscoverySettings} {encl : Option Place}
    {es : List Event} {live : List Connection} (prepare : Prepares st p d encl p' es)
    (top : live.head? = encl.join) (serial : Nat) :
    liveAfter live (es ++ dialing st p' (.ok serial)) = ⟨p.address, serial⟩ :: live := by
  refine liveAfter_of_replay ?_
  rw [replay_append, prepare.replay top, ← prepare.address]
  rfl

/-- A scope has learned something, and so have the scopes inside. -/
theorem learned_scope {ms ms' : List Moment} {s s' : Scope} {items items' : List Item} {n : Nat}
    {around : Option (List String)} {hosts : List String} {p : Params} (keys : List AuthMethod)
    (hp : s.session = resting st p)
    (hp' : s'.session = resting st { p with auth := addKeys p.auth keys })
    (discovery : s'.discovery = s.discovery) (off : s.discovery = none → keys = [])
    (shown : ∀ key ∈ keys, ShownIn ms (n + 1) around key)
    (within : hostsWithin (around.getD []) p.address = hosts)
    (inside : List.Forall₂ (Learned st ms') ((placedAll hosts items).zipIdx (n + 2))
      ((placedAll hosts items').zipIdx (n + 2))) (part : ms' ⊆ ms) :
    List.Forall₂ (Learned st ms) (((Item.chain s items).placed around).zipIdx (n + 1))
      (((Item.chain s' items').placed around).zipIdx (n + 1)) := by
  rw [Item.placed, Item.placed, address_of_resting hp, address_of_resting hp', within,
    List.zipIdx_cons, List.zipIdx_cons]
  exact .cons ⟨rfl, rfl, discovery, p, keys, hp, hp', off, shown⟩
    (inside.imp fun _ _ learned => learned.mono part)

mutual

/-- **A visit lets scopes learn only what is shown for them.** -/
theorem Visit.learned : ∀ {encl i o es i'}, Visit st encl i o es i' → Rests st i.scopes →
    ∀ (n : Nat) (live : List Connection) (around : Option (List String)),
      Stands live encl around → List.Forall₂ (Learned st (moments n live es))
        ((i.placed around).zipIdx (n + 1)) ((i'.placed around).zipIdx (n + 1))
  | _, _, _, _, _, .command _, _, _, _, _, _ => .nil
  | _, _, _, _, _, @Visit.borrowed _ pl s p items o es items' hp unaddressed body, inner, n, live,
      around, stands => by
    have inside := body.learned (rests_cons.1 inner).2 (n + 1) live stands.top
    refine learned_scope [] hp hp rfl (fun _ => rfl) (by simp) ?_ inside ?_
    · rw [hostsWithin, if_pos unaddressed, stands.hosts]
    · exact moments_part [.notice (.chainStarted s.name), .notice (.chainBorrows s.name pl.name)]
        (by simp) rfl rfl
  | _, _, _, _, _, @Visit.grounded _ s p items o es items' hp unaddressed body, inner, n, live,
      around, stands => by
    have inside := body.learned (rests_cons.1 inner).2 (n + 1) live stands.top
    refine learned_scope [] hp hp rfl (fun _ => rfl) (by simp) ?_ inside ?_
    · rw [hostsWithin, if_pos unaddressed, stands.hosts]
    · exact moments_part [.notice (.chainStarted s.name)] (by simp) rfl rfl
  | _, _, _, _, _, @Visit.refused _ encl s p items p' ds hp addressed prepare f, inner, n, live,
      around, stands => by
    obtain ⟨keys, rfl, off, shown⟩ := prepare.learned stands (n + 1)
    have unvisited : List.Forall₂ (Learned st [])
        ((placedAll (hostsWithin (around.getD []) p.address) items).zipIdx (n + 2)) _ :=
      learned_rest (n + 2) (by rw [placedAll_snd]; exact (rests_cons.1 inner).2)
    refine learned_scope keys hp rfl rfl off (fun key hk => (shown key hk).mono ?_) rfl unvisited
      (List.nil_subset _)
    exact moments_part [.notice (.chainStarted s.name)] (by simp) rfl rfl
  | _, _, _, _, _, @Visit.connected _ encl s p items p' ds serial o es items' hp addressed prepare
      body answer, inner, n, live, around, stands => by
    obtain ⟨started, -⟩ := prepare.dials n (.ok serial)
    have dialed := prepare.linked stands.top serial
    obtain ⟨keys, rfl, off, shown⟩ := prepare.learned stands (n + 1)
    have inside := body.learned (rests_cons.1 inner).2 (n + 1) (⟨p.address, serial⟩ :: live) rfl
    refine learned_scope keys hp rfl rfl off (fun key hk => (shown key hk).mono ?_) ?_ inside ?_
    · exact moments_part [.notice (.chainStarted s.name)] (by simp) rfl rfl
    · rw [hostsWithin, if_neg addressed, stands.hosts, List.map_cons]
    · refine moments_part (.notice (.chainStarted s.name) :: (ds ++ dialing st _ (.ok serial)))
        (by simp) ?_ dialed
      exact congrArg (fun names => n + (s.name :: names).length) started

theorem Visits.learned : ∀ {pl is o es is'}, Visits st pl is o es is' → Rests st (scopesAll is) →
    ∀ (n : Nat) (live : List Connection), live.head? = pl →
      List.Forall₂ (Learned st (moments n live es))
        ((placedAll (live.map (·.address)) is).zipIdx (n + 1))
        ((placedAll (live.map (·.address)) is').zipIdx (n + 1))
  | _, _, _, _, _, .nil, _, _, _, _ => .nil
  | _, _, _, _, _, .stop first, inner, n, live, top => by
    subst top
    refine learned_append (first.learned (rests_append.1 inner).1 n live _ (.within live)) ?_
    exact learned_rest _ (by rw [placedAll_snd]; exact (rests_append.1 inner).2)
  | _, _, _, _, _, @Visits.next _ pl i es i' is o es' is' first rest, inner, n, live, top => by
    subst top
    have started : (i'.placed (some (live.map (·.address)))).length = (startedNames es).length := by
      rw [(first.numbered n).complete rfl, List.length_map, ← Item.placed_snd, List.length_map]
    have learned := first.learned (rests_append.1 inner).1 n live _ (.within live)
    have learned' := rest.learned (rests_append.1 inner).2 (n + (startedNames es).length) live rfl
    have before : moments n live es ⊆ moments n live (es ++ es') :=
      moments_part [] (List.prefix_append _ _) rfl rfl
    have behind : moments (n + (startedNames es).length) live es' ⊆ moments n live (es ++ es') :=
      moments_part es List.prefix_rfl rfl (liveAfter_of_replay (first.replay live rfl))
    refine learned_append (learned.imp fun _ _ l => l.mono before) ?_
    rw [started, Nat.add_right_comm]
    exact learned'.imp fun _ _ l => l.mono behind

end

/-! ## What the scopes of a document have -/

/-- A scope has the settings of its own entries, and keys that were shown for it. -/
structure Equipped (st : Settings) (shown : Nat → Option (List String) → AuthMethod → Prop)
    (x : Site × Nat) (y : Placed) : Prop where
  number : y.2 = x.2
  around : y.1.1 = x.1.around
  discovery : y.1.2.discovery = st.discovery
  session : ∃ keys, y.1.2.session =
      resting st { x.1.params with auth := x.1.params.auth ++ keys } ∧
    keys.Nodup ∧ (st.discovery = none → keys = []) ∧ ∀ key ∈ keys, shown x.2 x.1.around key

theorem Equipped.learn {shown shown' : Nat → Option (List String) → AuthMethod → Prop}
    {ms : List Moment} {x : Site × Nat} {y z : Placed}
    (before : ∀ k around key, shown k around key → shown' k around key)
    (now : ∀ k around key, ShownIn ms k around key → shown' k around key)
    (equipped : Equipped st shown x y) (learned : Learned st ms y z) : Equipped st shown' x z := by
  obtain ⟨number, around, discovery, keys, hy, nodup, off, all⟩ := equipped
  obtain ⟨number', around', discovery', p, keys', hp, hz, off', all'⟩ := learned
  obtain rfl := resting_inj.1 (hp.symm.trans hy)
  obtain ⟨added, eq, nodup', new⟩ := addKeys_eq (x.1.params.auth ++ keys) keys'
  refine ⟨number'.trans number, around'.trans around, discovery'.trans discovery, keys ++ added,
    ?_, ?_, fun none => ?_, fun key hk => ?_⟩
  · rw [hz, eq, List.append_assoc]
  · refine List.nodup_append.2 ⟨nodup, nodup', fun a ha b hb hab => ?_⟩
    exact (new b hb).2 (List.mem_append_right _ (hab ▸ ha))
  · rw [off none, List.nil_append, List.eq_nil_iff_forall_not_mem]
    intro key hk
    have := (new key hk).1
    rw [off' (discovery.trans none)] at this
    cases this
  · rcases List.mem_append.1 hk with hk | hk
    · exact before _ _ _ (all key hk)
    · have shown := all' key (new key hk).1
      rw [number, around] at shown
      exact now _ _ _ shown

variable {σ : Type} {h : Host σ} {document : Node} {c : Chain} {notices : List Event}

/-- However often a chain is executed, its scopes have what they declare, and keys that
    were shown for them. -/
theorem rerun_equipped (compiled : Chain.ofDocument st document = (.ok c, notices)) (w : World σ)
    (j : Nat) : List.Forall₂
      (Equipped st fun k around key => ∃ i < j, ShownIn (moments 0 [] (c.trace h w i)) k around key)
      (document.documentSites.zipIdx 1) (((c.rerun h w j).1.toItem.placed none).zipIdx 1) := by
  induction j with
  | zero =>
    rw [show (c.rerun h w 0).1 = c from rfl, ofDocument_placed compiled, ← List.map_zipIdx]
    refine List.forall₂_map_right_iff.2 (List.forall₂_same.2 fun x _ => ?_)
    refine ⟨rfl, rfl, rfl, [], ?_, List.nodup_nil, fun _ => rfl, by simp⟩
    rw [List.append_nil]
    rfl
  | succ j ih =>
    have rests := ofDocument_rests compiled
    obtain ⟨-, o, visit⟩ := rerun_visits (h := h) w j rests
    have learned := visit.learned (rests_of_kept (rerun_kept w j rests)) 0 [] none .outermost
    refine forall₂_comp ih learned (Equipped.learn ?_ ?_)
    · rintro k around key ⟨i, hi, shown⟩
      exact ⟨i, Nat.lt_succ_of_lt hi, shown⟩
    · intro k around key shown
      exact ⟨j, Nat.lt_succ_self j, shown⟩

/-- What is presented to the host of a scope is the scope's own: the last address, user and
    password among its entries, and keys that were shown for it. -/
structure Presents (st : Settings) (x : Site) (shown : AuthMethod → Prop) (d : Dial) : Prop where
  address : lastSetting "addr" x.entries = some d.address
  user : d.user = (lastSetting "user" x.entries).getD ""
  auth : ∃ keys,
    d.auth = ((lastSetting "password" x.entries).map AuthMethod.password).toList ++ keys ∧
      keys.Nodup ∧ (∀ key ∈ keys, shown key) ∧
      (x.around = none ∨ st.discovery = none → keys = [])

theorem exists_of_mem_requests {n k : Nat} {d : Dial} {xs : List (Option (List String) × Scope)}
    (hd : (k, d) ∈ requests st n (xs.map Prod.snd)) :
    ∃ y ∈ xs.zipIdx n, y.2 = k ∧ y.1.2.request? st = some d := by
  rw [requests, ← List.map_zipIdx, List.filterMap_map] at hd
  obtain ⟨⟨⟨around, s⟩, i⟩, hy, asked⟩ := List.mem_filterMap.1 hd
  obtain ⟨d', hd', eq⟩ := Option.map_eq_some_iff.1 asked
  obtain ⟨rfl, rfl⟩ := Prod.mk.inj eq
  exact ⟨_, hy, rfl, hd'⟩

theorem exists_of_forall₂ {α β : Type} {R : α → β → Prop} {as : List α} {bs : List β}
    (h : List.Forall₂ R as bs) {b : β} (hb : b ∈ bs) : ∃ a ∈ as, R a b := by
  induction h with
  | nil => cases hb
  | cons first _ ih =>
    rcases List.mem_cons.1 hb with rfl | hb
    · exact ⟨_, List.mem_cons_self, first⟩
    · obtain ⟨a, ha, hab⟩ := ih hb
      exact ⟨a, List.mem_cons_of_mem _ ha, hab⟩

/-- A scope presents what it has. -/
theorem Equipped.presents {shown : Nat → Option (List String) → AuthMethod → Prop}
    {x : Site × Nat} {y : Placed} {d : Dial} (equipped : Equipped st shown x y)
    (asked : y.1.2.request? st = some d)
    (outermost : ∀ k key, ¬ shown k none key) :
    Presents st x.1 (shown x.2 x.1.around) d := by
  obtain ⟨-, -, -, keys, session, nodup, off, all⟩ := equipped
  rw [Scope.request?, session] at asked
  obtain ⟨addressed, rfl⟩ : x.1.params.address ≠ "" ∧
      Params.dial st { x.1.params with auth := x.1.params.auth ++ keys } = d := by
    simpa [Session.params?, resting] using asked
  refine ⟨?_, rfl, keys, rfl, nodup, all, ?_⟩
  · rcases last : lastSetting "addr" x.1.entries with _ | address
    · simp [Site.params, Site.declared, last] at addressed
    · simp [Params.dial, Site.params, Site.declared, last]
  · rintro (outer | none)
    · refine List.eq_nil_iff_forall_not_mem.2 fun key hk => ?_
      have shown := all key hk
      rw [outer] at shown
      exact outermost _ _ shown
    · exact off none

/-- **Whatever is presented to a host belongs to the scope that dials it**, on every host of
    the chain and however often it is executed. -/
theorem rerun_presents (h : Host σ) (compiled : Chain.ofDocument st document = (.ok c, notices))
    (w : World σ) (j : Nat) :
    startedNames (c.trace h w j) <+: document.documentSites.map (·.name) ∧
    ∀ k d, (k, d) ∈ dials 0 (c.trace h w j) → ∃ x, (x, k) ∈ document.documentSites.zipIdx 1 ∧
      Presents st x
        (fun key => ∃ i ≤ j, ShownIn (moments 0 [] (c.trace h w i)) k x.around key) d := by
  have rests := ofDocument_rests compiled
  obtain ⟨-, o, visit⟩ := rerun_visits (h := h) w j rests
  have numbered := visit.numbered 0
  refine ⟨?_, fun k d hd => ?_⟩
  · have names := names_of_kept (rerun_kept (h := h) w (j + 1) rests)
    rw [ofDocument_scopes compiled, List.map_map] at names
    exact names ▸ numbered.started
  · have asked := numbered.dials.subset hd
    rw [← Item.placed_snd _ none] at asked
    obtain ⟨y, hy, rfl, request⟩ := exists_of_mem_requests asked
    obtain ⟨x, hx, equipped⟩ := exists_of_forall₂ (rerun_equipped (h := h) compiled w (j + 1)) hy
    have presents := equipped.presents request (by
      rintro k key ⟨i, -, m, -, -, around, -⟩
      cases around)
    rw [equipped.number]
    refine ⟨x.1, hx, ?_⟩
    simpa only [Nat.lt_succ_iff] using presents

/-- The sample presents its password and the key that was read for it on this machine. -/
theorem sample_presents : ∃ x, (x, 2) ∈ sampleDocument.documentSites.zipIdx 1 ∧
    Presents sampleSettings x
      (fun key => ∃ i ≤ 0, ShownIn
        (moments 0 [] (sampleChain.trace Host.granting { host := () } i)) 2 x.around key)
      { address := "web:22", user := "ops", timeoutMs := 5000, policy := .acceptAny
        auth := [.password "s3cret", .privateKey "localhost:/root/.ssh/id_rsa" "PRIVATE KEY"] } :=
  (rerun_presents Host.granting sample_compiles { host := () } 0).2 2 _ (by decide +kernel)

end Runbook
