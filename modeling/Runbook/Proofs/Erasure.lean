/-
  Kinds of sessions that do the same as others, and know more about it.

  * `Run.Erases host bare m' m`: the run `m'` does what `m` does, once what it knows more is
    taken off its host and its answer;
  * `SessionKind.Covers`: so does every operation of a kind. Such kinds are twins
    (`Covers.twins`);
  * `SessionKind.Covers.execute`: then so does every execution of a chain.
-/
import Runbook.Proofs.Chain.Paired

namespace Runbook

/-- The world with another host. -/
def World.mapHost {σ τ : Type} (f : σ → τ) (w : World σ) : World τ where
  host := f w.host
  stdout := w.stdout
  writer := w.writer
  buffers := w.buffers
  events := w.events

/-- A scope with its session seen otherwise. -/
def Scope.map {S T : Type} (f : S → T) (s : Scope S) : Scope T where
  name := s.name
  session := f s.session
  phase := s.phase
  discovery := s.discovery

mutual

/-- An item with its sessions seen otherwise. -/
def Item.map {S T : Type} (f : S → T) : Item S → Item T
  | .command line => .command line
  | .chain s items => .chain (s.map f) (mapAll f items)

/-- Items with their sessions seen otherwise. -/
def mapAll {S T : Type} (f : S → T) : List (Item S) → List (Item T)
  | [] => []
  | i :: is => i.map f :: mapAll f is

end

/-- A chain with its sessions seen otherwise. -/
def Chain.map {S T : Type} (f : S → T) (c : Chain S) : Chain T where
  scope := c.scope.map f
  items := mapAll f c.items

variable {σ σ' S S' α α' β β' : Type}

mutual

@[simp] theorem Item.map_id : ∀ i : Item S, i.map id = i
  | .command _ => rfl
  | .chain _ items => by
    rw [Item.map, mapAll_id items]
    rfl

@[simp] theorem mapAll_id : ∀ is : List (Item S), mapAll id is = is
  | [] => rfl
  | i :: is => by rw [mapAll, Item.map_id i, mapAll_id is]

end

@[simp] theorem Chain.map_id (c : Chain S) : c.map id = c := by
  rw [Chain.map, mapAll_id]
  rfl

/-- A run does what another does, once more is known about it. -/
def Run.Erases (host : σ' → σ) (bare : α' → α) (m' : Run σ' α') (m : Run σ α) : Prop :=
  ∀ w, m (w.mapHost host) = (bare (m' w).1, (m' w).2.mapHost host)

/-- The answer to an operation, with its session seen otherwise. -/
def bareSecond {α : Type} (bare : S' → S) (r : α × S') : α × S := (r.1, bare r.2)

/-- The answer to an execution, with its sessions seen otherwise. -/
def bareChain (bare : S' → S) (r : Outcome × Option S' × Chain S') :
    Outcome × Option S × Chain S :=
  (r.1, r.2.1.map bare, r.2.2.map bare)

namespace SessionKind

/-- A kind of sessions does the same as another, and knows more. -/
structure Covers (k' : SessionKind σ' S') (k : SessionKind σ S) (host : σ' → σ) (bare : S' → S) :
    Prop where
  identify : ∀ s, k.identify (bare s) = k'.identify s
  isPassThrough : ∀ s, k.isPassThrough (bare s) = k'.isPassThrough s
  params? : ∀ s, k.params? (bare s) = k'.params? s
  changeableParams? : ∀ s, k.changeableParams? (bare s) = k'.changeableParams? s
  withParams : ∀ p s, k.withParams p (bare s) = bare (k'.withParams p s)
  swapSink : ∀ sink s, k.swapSink sink (bare s) = bareSecond bare (k'.swapSink sink s)
  connect : ∀ s, Run.Erases host (bareSecond bare) (k'.connect s) (k.connect (bare s))
  run : ∀ s line, Run.Erases host (bareSecond bare) (k'.run s line) (k.run (bare s) line)
  close : ∀ s, Run.Erases host (bareSecond bare) (k'.close s) (k.close (bare s))

end SessionKind

/-! ## Runs side by side -/

/-- Worlds of which one is the other, with more known of its host. -/
def erasing (host : σ' → σ) : Pairing σ' σ where
  Worlds w' w := w = w'.mapHost host
  note := by
    rintro w' _ rfl n
    rfl

theorem erasing_buffered (host : σ' → σ) : (erasing host).Buffered where
  buffers := by
    rintro w' _ rfl
    rfl
  withBuffers := by
    rintro w' _ rfl bs
    rfl

/-- One is the other, with more known of it. -/
def Bares (bare : α' → α) (a' : α') (a : α) : Prop := a = bare a'

theorem Bares.of_rel {bare : α' → α} {t : Option α'} {t' : Option α}
    (related : Option.Rel (Bares bare) t t') : t' = t.map bare := by
  cases related with
  | none => rfl
  | some same => exact congrArg some same

/-- To erase what is known more is to do the same side by side. -/
theorem Run.erases_iff_alike {host : σ' → σ} {bare : α' → α} {m' : Run σ' α'} {m : Run σ α} :
    Run.Erases host bare m' m ↔ m'.Alike (erasing host) (Bares bare) m := by
  constructor
  · rintro erases w' _ rfl
    exact ⟨congrArg Prod.fst (erases w'), congrArg Prod.snd (erases w')⟩
  · intro alike w'
    obtain ⟨answers, worlds⟩ := alike w' _ rfl
    exact Prod.ext answers worlds

variable {D : Option DiscoverySettings → Option DiscoverySettings → Prop} {bare : S' → S}

mutual

theorem Item.alike_map : ∀ i : Item S', i.Alike Eq (Bares bare) (i.map bare)
  | .command line => .command line
  | .chain _ items => .chain ⟨rfl, rfl, rfl, rfl⟩ (alike_mapAll items)

theorem alike_mapAll : ∀ is : List (Item S'), ItemsAlike Eq (Bares bare) is (mapAll bare is)
  | [] => .nil
  | i :: is => .cons i.alike_map (alike_mapAll is)

end

theorem Scope.Alike.eq_map {s : Scope S'} {t : Scope S} (alike : s.Alike Eq (Bares bare) t) :
    t = s.map bare := by
  obtain ⟨name, session, phase, d⟩ := t
  obtain ⟨rfl, rfl, rfl, rfl⟩ := alike
  rfl

mutual

theorem Item.Alike.eq_map : ∀ {i : Item S'} {j : Item S}, i.Alike Eq (Bares bare) j →
    j = i.map bare
  | _, _, .command _ => rfl
  | _, _, .chain scope inside => by rw [Item.map, scope.eq_map, inside.eq_mapAll]

theorem ItemsAlike.eq_mapAll : ∀ {is : List (Item S')} {js : List (Item S)},
    ItemsAlike Eq (Bares bare) is js → js = mapAll bare is
  | _, _, .nil => rfl
  | _, _, .cons first rest => by rw [mapAll, first.eq_map, rest.eq_mapAll]

end

theorem Chain.alike_map (c : Chain S') : c.toItem.Alike Eq (Bares bare) (c.map bare).toItem :=
  c.toItem.alike_map

theorem Chain.eq_map {c : Chain S'} {c' : Chain S}
    (alike : c.toItem.Alike Eq (Bares bare) c'.toItem) : c' = c.map bare := by
  obtain ⟨scope, items⟩ := c'
  obtain ⟨rfl, rfl⟩ := Item.chain.inj alike.eq_map
  rfl

namespace SessionKind.Covers

variable {k' : SessionKind σ' S'} {k : SessionKind σ S} {host : σ' → σ}
  (cover : Covers k' k host bare)
include cover

/-- **Kinds of which one knows more do the same.** -/
theorem twins : k'.Twins k (erasing host) (Bares bare) where
  buffered := erasing_buffered host
  identify := by
    rintro s _ rfl
    exact (cover.identify s).symm
  isPassThrough := by
    rintro s _ rfl
    exact (cover.isPassThrough s).symm
  address := by
    rintro s _ rfl
    rw [cover.params?]
  changeable := by
    rintro s _ rfl
    rw [cover.changeableParams?]
  learn := by
    rintro s _ p p' rfl hp hp' keys -
    rw [cover.changeableParams?, hp] at hp'
    obtain rfl := Option.some.inj hp'
    exact ⟨rfl, cover.withParams _ s⟩
  swapSink := by
    rintro s _ rfl sink
    rw [cover.swapSink]
    exact ⟨rfl, rfl⟩
  connect := by
    rintro s _ rfl
    exact (Run.erases_iff_alike.1 (cover.connect s)).mono fun r _ same => same ▸ ⟨rfl, rfl⟩
  run := by
    rintro s _ rfl line
    exact (Run.erases_iff_alike.1 (cover.run s line)).mono fun r _ same => same ▸ ⟨rfl, rfl⟩
  close := by
    rintro s _ rfl
    exact (Run.erases_iff_alike.1 (cover.close s)).mono fun r _ same => same ▸ ⟨rfl, rfl⟩

/-- **Knowing more changes nothing**: an execution does the same on both kinds. -/
theorem execute (c : Chain S') (parent : Option S') :
    Run.Erases host (bareChain bare) (k'.execute c parent)
      (k.execute (c.map bare) (parent.map bare)) := by
  have around : Option.Rel (Bares bare) parent (parent.map bare) := by
    cases parent with
    | none => exact .none
    | some s => exact .some rfl
  refine Run.erases_iff_alike.2 ((cover.twins.paired.execute c.alike_map around).mono ?_)
  rintro ⟨o, t, c⟩ ⟨_, t', c'⟩ ⟨rfl, after, items⟩
  exact Prod.ext rfl (Prod.ext (Bares.of_rel after) (Chain.eq_map items))

end SessionKind.Covers

end Runbook
