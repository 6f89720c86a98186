/-
  Scopes without an address are transparent.

  * `Inlined`: some scopes without an address are replaced by their own entries, settings left
    out;
  * `Flat`: the items that are compiled from such entries;
  * `Flat.executeAll`: both lists of items are executed alike, as far as requests to the host
    go (`Event.request?`);
  * `inline_unaddressed`: so are whole documents.
-/
import Runbook.Proofs.Chain.Compiled
import Runbook.Proofs.Chain.Paired
import Runbook.Proofs.Session.Likeness

namespace Runbook

open Session (resting)

variable {σ S : Type}

/-! ## Documents -/

/-- An entry that configures its scope. -/
def Node.isSetting : Node → Bool
  | .block key _ => Declarations.isReserved key
  | _ => false

/-- The entries of a scope that are no settings. -/
def withoutSettings (entries : List Node) : List Node := entries.filter fun e => !e.isSetting

/-- Some entries with some of the scopes in them inlined, at any depth: these have no address,
    and their entries stand in their place, settings left out. -/
inductive Inlined : List Node → List Node → Prop where
  | nil : Inlined [] []
  | keep (entry) {rest rest'} (after : Inlined rest rest') :
      Inlined (entry :: rest) (entry :: rest')
  | inside {key entries entries' rest rest'} (scope : Declarations.isReserved key = false)
      (within : Inlined entries entries') (after : Inlined rest rest') :
      Inlined (.block key (.sequence entries) :: rest) (.block key (.sequence entries') :: rest')
  | here {key entries entries' rest rest'} (scope : Declarations.isReserved key = false)
      (unaddressed : (lastSetting "addr" entries).getD "" = "")
      (within : Inlined (withoutSettings entries) entries') (after : Inlined rest rest') :
      Inlined (.block key (.sequence entries) :: rest) (entries' ++ rest')

/-- A document with some of the scopes below its outermost one inlined. -/
inductive Node.Inlines : Node → Node → Prop where
  | below (key) {entries entries'} (inlined : Inlined entries entries') :
      Node.Inlines (.block key (.sequence entries)) (.block key (.sequence entries'))

theorem Inlined.refl : ∀ entries : List Node, Inlined entries entries
  | [] => .nil
  | entry :: rest => .keep entry (Inlined.refl rest)

/-- One scope alone is inlined. -/
theorem Inlined.one {key : String} {entries : List Node}
    (scope : Declarations.isReserved key = false)
    (unaddressed : (lastSetting "addr" entries).getD "" = "") (after : List Node) :
    ∀ before : List Node, Inlined (before ++ .block key (.sequence entries) :: after)
      (before ++ (withoutSettings entries ++ after))
  | [] => by
    rw [List.nil_append, List.nil_append]
    exact .here scope unaddressed (Inlined.refl _) (Inlined.refl _)
  | entry :: before => .keep entry (Inlined.one scope unaddressed after before)

/-! ## Settings stay -/

theorem setting?_eq_none {key : String} (reserved : Declarations.isReserved key = true) {e : Node}
    (other : e.isSetting = false) : e.setting? key = none := by
  cases e with
  | scalar _ | sequence _ | other _ => rfl
  | block key' value =>
    have apart : key' ≠ key := by
      rintro rfl
      exact Bool.false_ne_true (other.symm.trans reserved)
    cases value <;> simp [Node.setting?, apart]

theorem settings_withoutSettings {key : String} (reserved : Declarations.isReserved key = true)
    (entries : List Node) : (withoutSettings entries).filterMap (Node.setting? key) = [] := by
  refine List.filterMap_eq_nil_iff.2 fun e he => ?_
  exact setting?_eq_none reserved (by simpa using (List.mem_filter.1 he).2)

/-- Inlining keeps the settings of the scope around. -/
theorem Inlined.settings {key : String} (reserved : Declarations.isReserved key = true)
    {entries entries' : List Node} (inlined : Inlined entries entries') :
    entries.filterMap (Node.setting? key) = entries'.filterMap (Node.setting? key) := by
  induction inlined with
  | nil => rfl
  | keep entry _ ih => rw [List.filterMap_cons, List.filterMap_cons, ih]
  | inside _ _ _ _ ih => exact ih
  | here _ _ _ _ within after =>
    rw [settings_withoutSettings reserved] at within
    rw [List.filterMap_append, ← within, List.nil_append]
    exact after

theorem Inlined.scope {entries entries' : List Node} (inlined : Inlined entries entries')
    (st : Settings) (name : String) (around : Option (List String)) :
    Site.scope st ⟨name, entries, around⟩ = Site.scope st ⟨name, entries', around⟩ := by
  unfold Site.scope Site.params Site.declared lastSetting
  dsimp only
  rw [inlined.settings (by decide : Declarations.isReserved "addr" = true),
    inlined.settings (by decide : Declarations.isReserved "user" = true),
    inlined.settings (by decide : Declarations.isReserved "password" = true)]

/-! ## Compiled items -/

variable {st : Settings}

/-- Settings are no items. -/
theorem items_withoutSettings (entries : List Node) :
    (withoutSettings entries).filterMap (Node.item? st) = entries.filterMap (Node.item? st) := by
  induction entries with
  | nil => rfl
  | cons e es ih =>
    unfold withoutSettings at ih ⊢
    rw [List.filter_cons]
    rcases setting : e.isSetting with _ | _
    · rw [Bool.not_false, if_pos rfl, List.filterMap_cons, List.filterMap_cons, ih]
    · have none : e.item? st = none := by
        cases e with
        | scalar _ | sequence _ | other _ => cases setting
        | block key value => exact if_pos setting
      rw [Bool.not_true, if_neg nofun, List.filterMap_cons, none, ih]

/-- Items with some of the scopes in them inlined, at any depth: these are at rest and have no
    address. -/
inductive Flat (st : Settings) : List Item → List Item → Prop where
  | nil : Flat st [] []
  | keep {i is is'} (rests : Rests st i.scopes) (after : Flat st is is') :
      Flat st (i :: is) (i :: is')
  | inside {s items items' is is'} (rests : ∃ p, s.session = resting st p)
      (within : Flat st items items') (after : Flat st is is') :
      Flat st (.chain s items :: is) (.chain s items' :: is')
  | here {s p items items' is is'} (rests : s.session = resting st p)
      (unaddressed : p.address = "") (within : Flat st items items') (after : Flat st is is') :
      Flat st (.chain s items :: is) (items' ++ is')

/-- The scopes of a compiled item are at rest. -/
theorem item?_rests {entry : Node} {i : Item} (compiled : entry.item? st = some i) :
    Rests st i.scopes := by
  have placed := @addEntry_placed st entry "" [] {}
  rw [addEntry_items, compiled] at placed
  have scopes := congrArg (List.map Prod.snd) placed
  simp only [placedAll_append, List.map_append, placedAll_snd] at scopes
  intro s hs
  have listed : s ∈ scopesAll ([] ++ (some i).toList) := by simpa [scopesAll] using hs
  rw [← placedAll_snd _ [], placedAll_append, List.map_append, placedAll_snd, placedAll_snd,
    scopes] at listed
  obtain ⟨x, -, rfl⟩ : ∃ x ∈ entry.sitesOfEntry [], x.scope st = s := by
    simpa [scopesAll] using listed
  exact ⟨x.params, rfl⟩

/-- **Inlined entries are compiled to inlined items.** -/
theorem Inlined.flat {entries entries' : List Node} (inlined : Inlined entries entries') :
    Flat st (entries.filterMap (Node.item? st)) (entries'.filterMap (Node.item? st)) := by
  induction inlined with
  | nil => exact .nil
  | keep entry _ ih =>
    rw [List.filterMap_cons, List.filterMap_cons]
    rcases compiled : entry.item? st with _ | i
    · exact ih
    · exact .keep (item?_rests compiled) ih
  | inside scope within _ ih ih' =>
    rw [List.filterMap_cons, List.filterMap_cons, item?_scope scope, item?_scope scope,
      within.scope]
    exact .inside ⟨_, rfl⟩ ih ih'
  | here scope unaddressed _ _ ih ih' =>
    rw [items_withoutSettings] at ih
    rw [List.filterMap_cons, item?_scope scope, List.filterMap_append]
    exact .here rfl unaddressed ih ih'

/-! ## Executions -/

/-- A request to the host, with its answer; notices are none. -/
def Event.request? : Event → Option Event
  | .notice _ => none
  | e => some e

/-- On one host, runs differ in their notices only. -/
def Likeness.ofRequests (h : Host σ) : Likeness h :=
  .ofAuths Eq Event.request?
    (fun {d d'} like => by
      obtain ⟨address, user, auth, timeoutMs, policy⟩ := d
      obtain ⟨rfl, rfl, rfl, rfl, rfl⟩ := like
      rfl)
    (fun {d d'} like _ => by
      obtain ⟨address, user, auth, timeoutMs, policy⟩ := d
      obtain ⟨rfl, rfl, rfl, rfl, rfl⟩ := like
      rfl)

namespace SessionKind

variable (k : SessionKind σ S)

/-- Items that follow others are executed after them. -/
theorem executeAll_append : ∀ (t : S) (is js : List (Item S)), k.executeAll t (is ++ js) =
    k.executeAll t is >>= fun (o, t, is) => match o with
      | .error e => pure (.error e, t, is ++ js)
      | .ok () => do
        let (o, t, js) ← k.executeAll t js
        pure (o, t, is ++ js)
  | t, [], js => by simp [executeAll]
  | t, i :: is, js => by
    rw [List.cons_append, executeAll, executeAll, bind_assoc]
    refine bind_congr ?_
    rintro ⟨e | u, t', i'⟩
    · simp
    · simp only [executeAll_append, bind_assoc]
      refine bind_congr ?_
      rintro ⟨e | u, t', is'⟩ <;> simp

end SessionKind

section

variable {h : Host σ}

/-- A scope without an address does nothing but run its items where the scope around it runs,
    between notices. -/
theorem executeItem_borrowed {s : Scope} {p : Params} (rests : s.session = resting st p)
    (unaddressed : p.address = "") (t : Session) (items : List Item) :
    (Session.kind h).executeItem (some t) (.chain s items) = (do
      Run.note (.chainStarted s.name)
      Run.note (.chainBorrows s.name t.identify)
      let (o, t, items) ← (Session.kind h).executeAll t items
      Run.note (.chainFinished s.name)
      pure (o.and (.ok ()), some t, .chain { s with phase := finalPhase o (.ok ()) } items)) := by
  obtain ⟨name, session, phase, d⟩ := s
  dsimp only at rests
  subst rests
  have pass : (Session.kind h).isPassThrough (resting st p) = true :=
    isPassThrough_resting.2 unaddressed
  have close : (Session.kind h).close (resting st p) = pure (.ok (), resting st p) := rfl
  simp only [SessionKind.executeItem, SessionKind.executeScope, SessionKind.enter, pass, close,
    bind_assoc, pure_bind, Session.kind_identify]

/-- The outcome and the session of a body. -/
abbrev SameBody (T : Session → Session → Prop) :
    Outcome × Session × List Item → Outcome × Session × List Item → Prop :=
  BodyAlike T fun _ _ => True

/-- The twins of executions that differ in their notices only. -/
theorem requestTwins (h : Host σ) : (Session.kind h).Twins (Session.kind h)
    (Likeness.ofRequests h).pairing (Session.Like (Likeness.ofRequests h)) :=
  Likeness.twins (fun _ _ => .rfl) fun alike _ => by obtain rfl := alike; exact ⟨rfl, rfl⟩

theorem like_resting (p : Params) :
    (resting st p).Like (Likeness.ofRequests h) (resting st p) :=
  .remote ⟨rfl, rfl, rfl, rfl, rfl, .none, rfl, rfl⟩

mutual

theorem Item.alike_self : ∀ {i : Item}, Rests st i.scopes →
    i.Alike Eq (Session.Like (Likeness.ofRequests h)) i
  | .command line, _ => .command line
  | .chain s items, rests => by
    obtain ⟨⟨p, hp⟩, rests⟩ := rests_cons.1 rests
    exact .chain ⟨rfl, rfl, rfl, hp ▸ like_resting p⟩ (itemsAlike_self rests)

theorem itemsAlike_self : ∀ {is : List Item}, Rests st (scopesAll is) →
    ItemsAlike Eq (Session.Like (Likeness.ofRequests h)) is is
  | [], _ => .nil
  | i :: is, rests => by
    obtain ⟨rests, rests'⟩ := rests_append.1 rests
    exact .cons (Item.alike_self rests) (itemsAlike_self rests')

end

variable {T : Session → Session → Prop} {v : Pairing σ σ} {k : SessionKind σ Session}

/-- First items that are executed alike are followed by the rest. -/
theorem alike_cons {i i' : Item} {is is' : List Item} {t t' : Session} (related : T t t')
    (first : (k.executeItem (some t) i).Alike v
      (fun r r' => r.1 = r'.1 ∧ Option.Rel T r.2.1 r'.2.1) (k.executeItem (some t') i'))
    (rest : ∀ {u u'}, T u u' → (k.executeAll u is).Alike v (SameBody T) (k.executeAll u' is')) :
    (k.executeAll t (i :: is)).Alike v (SameBody T) (k.executeAll t' (i' :: is')) := by
  unfold SessionKind.executeAll
  refine Run.alike_bind first ?_
  rintro ⟨o, u, i⟩ ⟨_, u', i'⟩ ⟨rfl, between⟩
  have next : T (u.getD t) (u'.getD t') := by
    cases between with
    | none => exact related
    | some between => exact between
  rcases o with e | done
  · exact Run.alike_pure ⟨rfl, next, trivial⟩
  · refine Run.alike_bind (rest next) ?_
    rintro ⟨o, t, is⟩ ⟨_, t', is'⟩ ⟨rfl, after, -⟩
    exact Run.alike_pure ⟨rfl, after, trivial⟩

/-- **Inlined items are executed alike**: the same requests are made, and they come to the
    same. -/
theorem Flat.executeAll {is is' : List Item} (flat : Flat st is is') :
    ∀ {t t' : Session}, t.Like (Likeness.ofRequests h) t' →
    ((Session.kind h).executeAll t is).Alike (Likeness.ofRequests h).pairing
      (SameBody (Session.Like (Likeness.ofRequests h))) ((Session.kind h).executeAll t' is') := by
  have paired := (requestTwins h).paired
  induction flat with
  | nil => exact fun like => Run.alike_pure ⟨rfl, like, trivial⟩
  | keep rests _ rest =>
    intro t t' like
    refine alike_cons like ?_ rest
    exact (paired.executeItem (Item.alike_self rests) like).mono fun r r' same =>
      ⟨same.1, same.2.1⟩
  | inside rests within after body rest =>
    intro t t' like
    refine alike_cons like ?_ rest
    obtain ⟨p, hp⟩ := rests
    unfold SessionKind.executeItem
    refine Run.alike_bind (paired.executeScope (fun t t' => body)
      ⟨rfl, rfl, rfl, hp ▸ like_resting p⟩ (.some like) trivial) ?_
    rintro ⟨o, t, s, items⟩ ⟨_, t', s', items'⟩ ⟨rfl, after, -, -⟩
    exact Run.alike_pure ⟨rfl, after⟩
  | here rests unaddressed _ _ body rest =>
    intro t t' like
    rw [SessionKind.executeAll, executeItem_borrowed rests unaddressed,
      SessionKind.executeAll_append]
    simp only [bind_assoc, pure_bind]
    refine Likeness.noteLeft _ rfl (Likeness.noteLeft _ rfl ?_)
    refine Run.alike_bind (body like) ?_
    rintro ⟨o, u, items⟩ ⟨_, u', items'⟩ ⟨rfl, after, -⟩
    refine Likeness.noteLeft _ rfl ?_
    rcases o with e | done
    · exact Run.alike_pure ⟨rfl, after, trivial⟩
    · refine Run.alike_bind (rest after) ?_
      rintro ⟨o, t, is⟩ ⟨_, t', is'⟩ ⟨rfl, after, -⟩
      exact Run.alike_pure ⟨rfl, after, trivial⟩

end

/-! ## Documents, executed -/

/-- A block with a sequence is compiled to the scope and the items of its entries. -/
theorem ofDocument_sequence (key : String) (entries : List Node) :
    (Chain.ofDocument st (.block key (.sequence entries))).1 = .ok
      { scope := Site.scope st ⟨key, entries, none⟩, items := entries.filterMap (Node.item? st) } := by
  have compiled := @compile_sequence st key entries none
  rw [ofEntries_items] at compiled
  rw [Chain.ofDocument]
  generalize Chain.compile st key (.sequence entries) none = x at compiled ⊢
  obtain ⟨c, es⟩ := x
  obtain rfl : c = _ := compiled
  rfl

/-- **Scopes without an address are transparent**: with any number of them inlined, at any
    depth, a document compiles again, and on every host its execution comes to the same, with
    the same requests, answers and output in the same order. -/
theorem inline_unaddressed (h : Host σ) {document document' : Node}
    (inlines : document.Inlines document') {c : Chain} {notices : List Event}
    (compiled : Chain.ofDocument st document = (.ok c, notices)) (w : World σ) :
    ∃ c' notices', Chain.ofDocument st document' = (.ok c', notices') ∧
      (c.execute h none w).1.1 = (c'.execute h none w).1.1 ∧
      (c.execute h none w).2.events.filterMap Event.request? =
        (c'.execute h none w).2.events.filterMap Event.request? ∧
      (c.execute h none w).2.stdout = (c'.execute h none w).2.stdout := by
  obtain @⟨key, entries, entries', inlined⟩ := inlines
  obtain rfl : _ = c :=
    Except.ok.inj ((ofDocument_sequence key entries).symm.trans (congrArg Prod.fst compiled))
  have scope : (Site.scope st ⟨key, entries, none⟩).Alike Eq (Session.Like (Likeness.ofRequests h))
      (Site.scope st ⟨key, entries', none⟩) :=
    inlined.scope st key none ▸ ⟨rfl, rfl, rfl, like_resting _⟩
  refine ⟨_, _, Prod.ext (ofDocument_sequence key entries') rfl, ?_⟩
  have executed : (Chain.execute h ⟨Site.scope st ⟨key, entries, none⟩,
        entries.filterMap (Node.item? st)⟩ none).Alike (Likeness.ofRequests h).pairing
      (fun r r' => r.1 = r'.1) (Chain.execute h ⟨Site.scope st ⟨key, entries', none⟩,
        entries'.filterMap (Node.item? st)⟩ none) := by
    refine Run.alike_bind ((requestTwins h).paired.executeScope
      (fun t t' => inlined.flat.executeAll) scope .none trivial) ?_
    rintro ⟨o, t, s, items⟩ ⟨_, t', s', items'⟩ ⟨rfl, -, -, -⟩
    exact Run.alike_pure rfl
  obtain ⟨outcome, worlds⟩ := executed w w ⟨rfl, rfl, rfl, rfl⟩
  exact ⟨outcome, worlds.events, worlds.stdout⟩

/-- The entries of a scope on another machine. -/
def webEntries : List Node :=
  [.block "addr" (.scalar "web:22"), .scalar "restart", .block "password" (.scalar "s3cret")]

/-- A scope on another machine inside one without an address, which has settings of its own. -/
def nestedDocument : Node :=
  .block "deploy" (.sequence
    [.scalar "make",
      .block "prepare" (.sequence
        [.block "user" (.scalar "nobody"), .scalar "fetch", .block "web" (.sequence webEntries),
          .block "addr" (.scalar "")]),
      .scalar "report"])

/-- The same document with the scope without an address inlined. -/
def inlinedDocument : Node :=
  .block "deploy" (.sequence
    [.scalar "make", .scalar "fetch", .block "web" (.sequence webEntries), .scalar "report"])

/-- The scope without an address makes no difference to a host that grants everything. -/
theorem nested_inlined : nestedDocument.Inlines inlinedDocument ∧ ∃ c notices c' notices',
    Chain.ofDocument sampleSettings nestedDocument = (.ok c, notices) ∧
      Chain.ofDocument sampleSettings inlinedDocument = (.ok c', notices') ∧
      (c.execute Host.granting none { host := () }).1.1 =
        (c'.execute Host.granting none { host := () }).1.1 ∧
      (c.execute Host.granting none { host := () }).2.events.filterMap Event.request? =
        (c'.execute Host.granting none { host := () }).2.events.filterMap Event.request? := by
  have inlines : nestedDocument.Inlines inlinedDocument :=
    .below _ (Inlined.one (by decide) (by decide) [.scalar "report"] [.scalar "make"])
  have compiled := @ofDocument_sequence sampleSettings "deploy"
    [.scalar "make", .block "prepare" (.sequence
      [.block "user" (.scalar "nobody"), .scalar "fetch", .block "web" (.sequence webEntries),
        .block "addr" (.scalar "")]), .scalar "report"]
  obtain ⟨c', notices', compiled', outcome, requests, -⟩ :=
    inline_unaddressed Host.granting inlines (Prod.ext compiled rfl) { host := () }
  exact ⟨inlines, _, _, c', notices', Prod.ext compiled rfl, compiled', outcome, requests⟩

end Runbook
