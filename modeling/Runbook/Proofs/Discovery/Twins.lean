/-
  Two kinds of sessions that do the same, side by side.

  `k.Twins k' v T`: on sessions that `T` relates, every operation of the kind `k` does what
  that of `k'` does, as far as `v` can tell, and leaves related sessions.

  * `redirectedBy_alike` and `capture_alike`: then so does what is done while output goes
    elsewhere, and so do captured commands;
  * `k.Sources k' v T`: the commands of a discovery can be captured alike on sessions that `T`
    relates. `Sources.discoverKeys`: then the same keys are found;
  * `Twins.enrich`: then so does a whole discovery.
-/
import Runbook.Proofs.Alike

namespace Runbook

variable {σ σ' S S' α : Type}

/-- The same answer, and related sessions. -/
def Both (T : S → S' → Prop) (r : α × S) (r' : α × S') : Prop := r.1 = r'.1 ∧ T r.2 r'.2

/-- The method is a key. -/
def AuthMethod.IsKey (a : AuthMethod) : Prop := ∃ source pem, a = .privateKey source pem

/-- The number of methods that some keys add to others. -/
def addedCount (auth keys : List AuthMethod) : Nat := (addKeys auth keys).length - auth.length

/-- Two kinds do the same on related sessions. -/
structure SessionKind.Twins (k : SessionKind σ S) (k' : SessionKind σ' S') (v : Pairing σ σ')
    (T : S → S' → Prop) : Prop where
  buffered : v.Buffered
  identify : ∀ {s s'}, T s s' → k.identify s = k'.identify s'
  isPassThrough : ∀ {s s'}, T s s' → k.isPassThrough s = k'.isPassThrough s'
  address : ∀ {s s'}, T s s' →
    (k.params? s).map Params.address = (k'.params? s').map Params.address
  changeable : ∀ {s s'}, T s s' →
    (k.changeableParams? s).map Params.address = (k'.changeableParams? s').map Params.address
  /-- The same keys are new to both, and with them they are related again. -/
  learn : ∀ {s s' p p'}, T s s' → k.changeableParams? s = some p →
    k'.changeableParams? s' = some p' → ∀ keys : List AuthMethod, (∀ key ∈ keys, key.IsKey) →
    addedCount p.auth keys = addedCount p'.auth keys ∧
      T (k.withParams { p with auth := addKeys p.auth keys } s)
        (k'.withParams { p' with auth := addKeys p'.auth keys } s')
  swapSink : ∀ {s s'}, T s s' → ∀ sink, Both T (k.swapSink sink s) (k'.swapSink sink s')
  connect : ∀ {s s'}, T s s' → (k.connect s).Alike v (Both T) (k'.connect s')
  run : ∀ {s s'}, T s s' → ∀ line, (k.run s line).Alike v (Both T) (k'.run s' line)
  close : ∀ {s s'}, T s s' → (k.close s).Alike v (Both T) (k'.close s')

/-! ## Sending output elsewhere -/

/-- What is done alike while output goes elsewhere is done alike. -/
theorem redirectedBy_alike {v : Pairing σ σ'} {T : S → S' → Prop} {swap : Sink → S → Sink × S}
    {swap' : Sink → S' → Sink × S'}
    (swapped : ∀ {s s'}, T s s' → ∀ sink, Both T (swap sink s) (swap' sink s'))
    {step : S → Run σ (α × S)} {step' : S' → Run σ' (α × S')}
    (steps : ∀ {s s'}, T s s' → (step s).Alike v (Both T) (step' s')) {s : S} {s' : S'}
    (related : T s s') (sink : Sink) :
    (redirectedBy swap s sink step).Alike v (Both T) (redirectedBy swap' s' sink step') := by
  unfold redirectedBy
  obtain ⟨previous, away⟩ := swapped related sink
  refine Run.alike_bind (steps away) ?_
  rintro ⟨a, t⟩ ⟨_, t'⟩ ⟨rfl, after⟩
  rw [previous]
  exact Run.alike_pure ⟨rfl, (swapped after _).2⟩

/-- A command that is run alike is captured alike. -/
theorem capture_alike {k : SessionKind σ S} {k' : SessionKind σ' S'} {v : Pairing σ σ'}
    {T : S → S' → Prop} (buffered : v.Buffered)
    (swapped : ∀ {s s'}, T s s' → ∀ sink, Both T (k.swapSink sink s) (k'.swapSink sink s'))
    {line : String} (ran : ∀ {s s'}, T s s' → (k.run s line).Alike v (Both T) (k'.run s' line))
    {s : S} {s' : S'} (related : T s s') :
    (k.capture s line).Alike v (Both T) (k'.capture s' line) := by
  unfold SessionKind.capture
  refine Run.alike_bind (Run.alike_newBuffer buffered) ?_
  rintro b _ rfl
  refine Run.alike_bind (redirectedBy_alike swapped ran related (.buffer b)) ?_
  rintro ⟨o, t⟩ ⟨_, t'⟩ ⟨rfl, after⟩
  refine Run.alike_bind (Run.alike_dropBuffers buffered b) ?_
  rintro bytes _ rfl
  rcases o with e | u <;> exact Run.alike_pure ⟨rfl, after⟩

/-! ## Sources of keys -/

/-- A command that a discovery runs. -/
inductive KeyCommand : String → Prop where
  | home : KeyCommand homeCommand
  | list (dir : String) : KeyCommand (listCommand dir)
  | read (path : String) : KeyCommand (readCommand path)

/-- Keys can be discovered alike through sessions that `T` relates. -/
structure SessionKind.Sources (k : SessionKind σ S) (k' : SessionKind σ' S') (v : Pairing σ σ')
    (T : S → S' → Prop) : Prop where
  identify : ∀ {s s'}, T s s' → k.identify s = k'.identify s'
  capture : ∀ {s s'}, T s s' → ∀ {line}, KeyCommand line →
    (k.capture s line).Alike v (Both T) (k'.capture s' line)

/-- Kinds that do the same are sources of the same keys. -/
theorem SessionKind.Twins.sources {k : SessionKind σ S} {k' : SessionKind σ' S'}
    {v : Pairing σ σ'} {T : S → S' → Prop} (twins : k.Twins k' v T) : k.Sources k' v T where
  identify := twins.identify
  capture related line _ := capture_alike twins.buffered twins.swapSink (twins.run · line) related

namespace SessionKind.Sources

variable {k : SessionKind σ S} {k' : SessionKind σ' S'} {v : Pairing σ σ'} {T : S → S' → Prop}
  (sources : k.Sources k' v T) {s : S} {s' : S'}
include sources

theorem findKeyDirectory (related : T s s') (d : DiscoverySettings) :
    (k.findKeyDirectory s d).Alike v (Both T) (k'.findKeyDirectory s' d) := by
  unfold SessionKind.findKeyDirectory
  refine Run.alike_bind (sources.capture related .home) ?_
  rintro ⟨e | out, t⟩ ⟨_, t'⟩ ⟨rfl, after⟩
  · exact Run.alike_pure ⟨rfl, after⟩
  · dsimp only
    split
    · rw [sources.identify after]
      exact Run.alike_pure ⟨rfl, after⟩
    · exact Run.alike_pure ⟨rfl, after⟩

/-- Both sessions show the same, a key if anything. -/
theorem readKey (related : T s s') (path : String) :
    (k.readKey s path).Alike v (fun r r' => Both T r r' ∧ ∀ key ∈ r.1, key.IsKey)
      (k'.readKey s' path) := by
  unfold SessionKind.readKey
  refine Run.alike_bind (sources.capture related (.read path)) ?_
  rintro ⟨e | pem, t⟩ ⟨_, t'⟩ ⟨rfl, after⟩
  · refine Run.alike_bind (Run.alike_note v _) fun _ _ _ => ?_
    exact Run.alike_pure ⟨⟨rfl, after⟩, by simp⟩
  · dsimp only
    rw [sources.identify after]
    split
    · refine Run.alike_bind (Run.alike_note v _) fun _ _ _ => ?_
      refine Run.alike_pure ⟨⟨rfl, after⟩, ?_⟩
      rintro key ⟨⟩
      exact ⟨_, _, rfl⟩
    · refine Run.alike_bind (Run.alike_note v _) fun _ _ _ => ?_
      exact Run.alike_pure ⟨⟨rfl, after⟩, by simp⟩

theorem readKeys (dir : String) : ∀ {s : S} {s' : S'} (names : List String), T s s' →
    (k.readKeys dir s names).Alike v (fun r r' => Both T r r' ∧ ∀ key ∈ r.1, key.IsKey)
      (k'.readKeys dir s' names)
  | s, s', [], related => Run.alike_pure ⟨⟨rfl, related⟩, by simp⟩
  | s, s', name :: names, related => by
    unfold SessionKind.readKeys
    refine Run.alike_bind (sources.readKey related _) ?_
    rintro ⟨key, t⟩ ⟨_, t'⟩ ⟨⟨rfl, between⟩, isKey⟩
    refine Run.alike_bind (readKeys dir names between) ?_
    rintro ⟨keys, u⟩ ⟨_, u'⟩ ⟨⟨rfl, after⟩, areKeys⟩
    refine Run.alike_pure ⟨⟨rfl, after⟩, fun key' hk => ?_⟩
    rcases List.mem_append.1 hk with hk | hk
    · exact isKey key' (by simpa using hk)
    · exact areKeys key' hk

/-- The same keys are found through both. -/
theorem discoverKeys (related : T s s') (d : DiscoverySettings) :
    (k.discoverKeys s d).Alike v (fun r r' => Both T r r' ∧ ∀ key ∈ r.1, key.IsKey)
      (k'.discoverKeys s' d) := by
  unfold SessionKind.discoverKeys
  refine Run.alike_bind (sources.findKeyDirectory related d) ?_
  rintro ⟨e | dir, t⟩ ⟨_, t'⟩ ⟨rfl, between⟩
  · refine Run.alike_bind (Run.alike_note v _) fun _ _ _ => ?_
    exact Run.alike_pure ⟨⟨rfl, between⟩, by simp⟩
  · refine Run.alike_bind (sources.capture between (.list dir)) ?_
    rintro ⟨e | listing, u⟩ ⟨_, u'⟩ ⟨rfl, after⟩
    · refine Run.alike_bind (Run.alike_note v _) fun _ _ _ => ?_
      exact Run.alike_pure ⟨⟨rfl, after⟩, by simp⟩
    · refine Run.alike_bind (Run.alike_readPatterns v _) ?_
      rintro patterns _ rfl
      exact sources.readKeys dir _ after

end SessionKind.Sources

/-- **A discovery does the same on both sides**: as many keys are added, to related
    sessions, through sessions that are sources of the same keys. -/
theorem SessionKind.Twins.enrich {k : SessionKind σ S} {k' : SessionKind σ' S'}
    {v : Pairing σ σ'} {T B : S → S' → Prop} (twins : k.Twins k' v T) (sources : k.Sources k' v B)
    {s t : S} {s' t' : S'} (related : T s s') (via : B t t') (d : DiscoverySettings) :
    (k.enrich s t d).Alike v (fun r r' => r.1 = r'.1 ∧ T r.2.1 r'.2.1 ∧ B r.2.2 r'.2.2)
      (k'.enrich s' t' d) := by
  have nothing : (pure (0, s, t) : Run σ (Nat × S × S)).Alike v
      (fun r r' => r.1 = r'.1 ∧ T r.2.1 r'.2.1 ∧ B r.2.2 r'.2.2) (pure (0, s', t')) :=
    Run.alike_pure ⟨rfl, related, via⟩
  unfold SessionKind.enrich
  have same := twins.address related
  rcases hp : k.params? s with _ | p <;> rcases hp' : k'.params? s' with _ | p' <;>
    rw [hp, hp'] at same
  · exact nothing
  · cases same
  · cases same
  · replace same : p.address = p'.address := Option.some.inj same
    dsimp only
    rw [same]
    split
    · exact nothing
    · refine Run.alike_bind (sources.discoverKeys via d) ?_
      rintro ⟨keys, u⟩ ⟨_, u'⟩ ⟨⟨rfl, after⟩, areKeys⟩
      have same := twins.changeable related
      rcases hq : k.changeableParams? s with _ | q <;>
        rcases hq' : k'.changeableParams? s' with _ | q' <;> rw [hq, hq'] at same
      · exact Run.alike_pure ⟨rfl, related, after⟩
      · cases same
      · cases same
      · replace same : q.address = q'.address := Option.some.inj same
        obtain ⟨count, learned⟩ := twins.learn related hq hq' keys areKeys
        unfold addedCount at count
        rw [same] at learned
        dsimp only
        rw [count, same]
        split
        · refine Run.alike_bind (Run.alike_note v _) fun _ _ _ => ?_
          exact Run.alike_pure ⟨rfl, learned, after⟩
        · exact Run.alike_pure ⟨rfl, learned, after⟩

end Runbook
