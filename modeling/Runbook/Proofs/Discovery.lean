/-
  The ways in which keys can be discovered, through a session of any kind.

  Each relation follows one function of the discovery, from a session and its answers to
  what is found, the session afterwards and the marks that are left:

  * `FindsDirectory`, `ReadsKey`, `ReadsKeys`, `Discovers`, `Enriches`;
  * `enrich_gives`: nothing else can happen;
  * `Keeps.enriches`: what every captured command keeps, a discovery keeps.
-/
import Runbook.Discovery
import Runbook.Proofs.View

namespace Runbook.Conduct

variable {σ S ε : Type} {k : SessionKind σ S} {v : View σ ε} (b : Conduct k v)

/-! ## Patterns -/

/-- The patterns of a list that can be read. -/
def readable (ps : List String) : List Pattern :=
  ps.filterMap fun p => (Pattern.parse p).toOption

/-- The notices about the patterns of a list that cannot be read. -/
def noteUnreadable : List String → List ε
  | [] => []
  | p :: ps =>
    (match Pattern.parse p with
      | .ok _ => []
      | .error e => b.note (.patternIgnored p e.message)) ++ noteUnreadable ps

theorem readPatterns_gives : ∀ ps : List String, (readPatterns ps : Run σ _).Gives v fun r es =>
    r = readable ps ∧ es = b.noteUnreadable ps
  | [] => Run.gives_pure ⟨rfl, rfl⟩
  | p :: ps => by
    unfold readPatterns
    rcases hp : Pattern.parse p with e | pattern
    · refine Run.gives_bind (b.note_gives _) ?_
      rintro - es rfl
      refine (readPatterns_gives ps).mono ?_
      rintro r es ⟨rfl, rfl⟩
      simp [readable, noteUnreadable, hp, Except.toOption]
    · refine Run.gives_map (readPatterns_gives ps) ?_
      rintro r es ⟨rfl, rfl⟩
      simp [readable, noteUnreadable, hp, Except.toOption]

/-! ## Keys -/

/-- A session is asked for its key directory. -/
inductive FindsDirectory (d : DiscoverySettings) (s : S) :
    Except Fault String × S → List ε → Prop where
  | failed {e s' es} (home : b.Captures homeCommand s (.error e, s') es) :
      FindsDirectory d s (.error e, s') es
  | blank {out s' es} (home : b.Captures homeCommand s (.ok out, s') es)
      (empty : (Text.trim out).isEmpty = true) :
      FindsDirectory d s
        (.error (.failed (k.identify s') homeCommand "empty home directory"), s') es
  | found {out s' es} (home : b.Captures homeCommand s (.ok out, s') es)
      (filled : (Text.trim out).isEmpty = false) :
      FindsDirectory d s (.ok (keyDirectory (Text.trim out) d.keyDir), s') es

/-- One key file is read. -/
inductive ReadsKey (path : String) (s : S) : Option AuthMethod × S → List ε → Prop where
  | unreadable {e s' es} (text : b.Captures (readCommand path) s (.error e, s') es) :
      ReadsKey path s (none, s') (es ++ b.note (.keyUnreadable path e))
  | key {pem s' es} (text : b.Captures (readCommand path) s (.ok pem, s') es)
      (key : isPrivateKey pem = true) :
      ReadsKey path s (some (.privateKey (k.identify s' ++ ":" ++ path) pem), s')
        (es ++ b.note (.keyFound path (k.identify s')))
  | other {pem s' es} (text : b.Captures (readCommand path) s (.ok pem, s') es)
      (other : isPrivateKey pem = false) :
      ReadsKey path s (none, s') (es ++ b.note (.notAKey path))

/-- The key files of a directory are read, in the order of their names. -/
inductive ReadsKeys (dir : String) :
    S → List String → List AuthMethod × S → List ε → Prop where
  | nil {s} : ReadsKeys dir s [] ([], s) []
  | cons {s name names key s' es keys s'' es'}
      (first : b.ReadsKey (dir ++ "/" ++ name) s (key, s') es)
      (rest : ReadsKeys dir s' names (keys, s'') es') :
      ReadsKeys dir s (name :: names) (key.toList ++ keys, s'') (es ++ es')

/-- A session is asked for all its keys. -/
inductive Discovers (d : DiscoverySettings) (s : S) : List AuthMethod × S → List ε → Prop where
  | homeless {e s' es} (directory : b.FindsDirectory d s (.error e, s') es) :
      Discovers d s ([], s') (es ++ b.note (.discoverySkipped e))
  | unlisted {dir s' es e s'' es'} (directory : b.FindsDirectory d s (.ok dir, s') es)
      (listing : b.Captures (listCommand dir) s' (.error e, s'') es') :
      Discovers d s ([], s'') (es ++ (es' ++ b.note (.listingFailed dir e)))
  | listed {dir s' es out s'' es' keys s''' es''}
      (directory : b.FindsDirectory d s (.ok dir, s') es)
      (listing : b.Captures (listCommand dir) s' (.ok out, s'') es')
      (read : b.ReadsKeys dir s'' (keyNames (readable d.keyPatterns) out) (keys, s''') es'') :
      Discovers d s (keys, s''') (es ++ (es' ++ (b.noteUnreadable d.keyPatterns ++ es'')))

/-- The methods that a list of methods has more than another. -/
def added (auth keys : List AuthMethod) : Nat := (addKeys auth keys).length - auth.length

/-- Keys for `target` are discovered through `via`. The result is how many were added, and
    both sessions. -/
inductive Enriches (d : DiscoverySettings) (target via : S) :
    Nat × S × S → List ε → Prop where
  | unaddressed (idle : ∀ p, k.params? target = some p → p.address = "") :
      Enriches d target via (0, target, via) []
  | unchangeable {p keys via' es} (addressed : k.params? target = some p ∧ p.address ≠ "")
      (found : b.Discovers d via (keys, via') es) (fixed : k.changeableParams? target = none) :
      Enriches d target via (0, target, via') es
  | enriched {p keys via' es q} (addressed : k.params? target = some p ∧ p.address ≠ "")
      (found : b.Discovers d via (keys, via') es)
      (changeable : k.changeableParams? target = some q) :
      Enriches d target via
        (added q.auth keys, k.withParams { q with auth := addKeys q.auth keys } target, via')
        (es ++ if 0 < added q.auth keys then b.note (.keysAdded (added q.auth keys) q.address)
          else [])

/-! ## Nothing else can happen -/

theorem findKeyDirectory_gives (d : DiscoverySettings) (s : S) :
    (k.findKeyDirectory s d).Gives v (b.FindsDirectory d s) := by
  unfold SessionKind.findKeyDirectory
  refine Run.gives_bind (b.capture_gives homeCommand s) ?_
  rintro ⟨e | out, s'⟩ es home
  · exact Run.gives_pure (by simpa using .failed home)
  · dsimp only
    split
    · next empty => exact Run.gives_pure (by simpa using .blank home empty)
    · next filled => exact Run.gives_pure (by simpa using .found home (by simpa using filled))

theorem readKey_gives (path : String) (s : S) :
    (k.readKey s path).Gives v (b.ReadsKey path s) := by
  unfold SessionKind.readKey
  refine Run.gives_bind (b.capture_gives (readCommand path) s) ?_
  rintro ⟨e | pem, s'⟩ es text
  · refine Run.gives_map (b.note_gives _) ?_
    rintro - es' rfl
    exact .unreadable text
  · dsimp only
    split
    · next key =>
      refine Run.gives_map (b.note_gives _) ?_
      rintro - es' rfl
      exact .key text key
    · next other =>
      refine Run.gives_map (b.note_gives _) ?_
      rintro - es' rfl
      exact .other text (by simpa using other)

theorem readKeys_gives (dir : String) : ∀ (names : List String) (s : S),
    (k.readKeys dir s names).Gives v (b.ReadsKeys dir s names)
  | [], s => Run.gives_pure .nil
  | name :: names, s => by
    unfold SessionKind.readKeys
    refine Run.gives_bind (b.readKey_gives _ s) ?_
    rintro ⟨key, s'⟩ es first
    exact Run.gives_map (readKeys_gives dir names s') fun r es' rest => .cons first rest

theorem discoverKeys_gives (d : DiscoverySettings) (s : S) :
    (k.discoverKeys s d).Gives v (b.Discovers d s) := by
  unfold SessionKind.discoverKeys
  refine Run.gives_bind (b.findKeyDirectory_gives d s) ?_
  rintro ⟨e | dir, s'⟩ es directory
  · refine Run.gives_map (b.note_gives _) ?_
    rintro - es' rfl
    exact .homeless directory
  · refine Run.gives_bind (b.capture_gives (listCommand dir) s') ?_
    rintro ⟨e | out, s''⟩ es' listing
    · refine Run.gives_map (b.note_gives _) ?_
      rintro - es'' rfl
      exact .unlisted directory listing
    · refine Run.gives_bind (b.readPatterns_gives d.keyPatterns) ?_
      rintro _ _ ⟨rfl, rfl⟩
      exact (b.readKeys_gives dir _ s'').mono fun r es'' read => .listed directory listing read

/-- **Discovery**: the keys that `via` can show are added to the methods of `target`. -/
theorem enrich_gives (d : DiscoverySettings) (target via : S) :
    (k.enrich target via d).Gives v (b.Enriches d target via) := by
  unfold SessionKind.enrich
  rcases hp : k.params? target with _ | p
  · exact Run.gives_pure (.unaddressed fun p h => by simp [hp] at h)
  · dsimp only
    split
    · next empty =>
      refine Run.gives_pure (.unaddressed fun q h => ?_)
      obtain rfl : p = q := by simpa [hp] using h
      simpa using empty
    · next filled =>
      have addressed : k.params? target = some p ∧ p.address ≠ "" := ⟨hp, by simpa using filled⟩
      refine Run.gives_bind (b.discoverKeys_gives d via) ?_
      rintro ⟨keys, via'⟩ es found
      rcases hq : k.changeableParams? target with _ | q
      · exact Run.gives_pure (by simpa using .unchangeable addressed found hq)
      · have done := Enriches.enriched addressed found hq
        dsimp only
        split
        · next new =>
          refine Run.gives_map (b.note_gives _) ?_
          rintro - es' rfl
          rw [added, if_pos new] at done
          exact done
        · next known =>
          rw [added, if_neg known] at done
          exact Run.gives_pure done

/-! ## What a discovery keeps -/

/-- Captured commands keep `I` of the session that they run on, all marks are as `M` says, and
    so are keys that are read as `K` says. -/
structure Keeps (I : S → Prop) (M : List ε → Prop) (K : List ε → AuthMethod → Prop) : Prop where
  nil : M []
  append : ∀ {es es'}, M es → M es' → M (es ++ es')
  /-- The notices of a discovery are about credentials. -/
  note : ∀ n, n.origin = .credentials → M (b.note n)
  capture : ∀ {line s r s' es}, I s → b.Captures line s (r, s') es → I s' ∧ M es
  key : ∀ {path s pem s' es}, I s → b.Captures (readCommand path) s (.ok pem, s') es →
    K es (.privateKey (k.identify s' ++ ":" ++ path) pem)
  mono : ∀ {es es' key}, K es key → es.Sublist es' → K es' key

section

variable {b} {I : S → Prop} {M : List ε → Prop} {K : List ε → AuthMethod → Prop}
  (keeps : b.Keeps I M K) {s s' : S} {es : List ε}
include keeps

theorem Keeps.noteUnreadable : ∀ ps : List String, M (b.noteUnreadable ps)
  | [] => keeps.nil
  | p :: ps => by
    unfold Conduct.noteUnreadable
    refine keeps.append ?_ (Keeps.noteUnreadable ps)
    rcases Pattern.parse p with e | pattern
    · exact keeps.note _ rfl
    · exact keeps.nil

theorem Keeps.findsDirectory {d : DiscoverySettings} {r : Except Fault String} (before : I s)
    (find : b.FindsDirectory d s (r, s') es) : I s' ∧ M es := by
  cases find with
  | failed home | blank home | found home => exact keeps.capture before home

theorem Keeps.readsKey {path : String} {key : Option AuthMethod} (before : I s)
    (read : b.ReadsKey path s (key, s') es) : I s' ∧ M es ∧ ∀ key' ∈ key, K es key' := by
  cases read with
  | unreadable text | other text =>
    obtain ⟨after, marks⟩ := keeps.capture before text
    exact ⟨after, keeps.append marks (keeps.note _ rfl), nofun⟩
  | key text =>
    obtain ⟨after, marks⟩ := keeps.capture before text
    refine ⟨after, keeps.append marks (keeps.note _ rfl), fun key' hk => ?_⟩
    obtain rfl := Option.some.inj hk
    exact keeps.mono (keeps.key before text) (List.sublist_append_left _ _)

theorem Keeps.readsKeys {dir : String} {names : List String} {keys : List AuthMethod}
    (before : I s) (read : b.ReadsKeys dir s names (keys, s') es) :
    I s' ∧ M es ∧ ∀ key ∈ keys, K es key := by
  generalize hr : (keys, s') = r at read
  induction read generalizing keys with
  | nil =>
    obtain ⟨rfl, rfl⟩ := Prod.mk.inj hr
    exact ⟨before, keeps.nil, nofun⟩
  | cons first _ ih =>
    obtain ⟨rfl, rfl⟩ := Prod.mk.inj hr
    obtain ⟨between, marks, found⟩ := keeps.readsKey before first
    obtain ⟨after, marks', found'⟩ := ih between rfl
    refine ⟨after, keeps.append marks marks', fun key hk => ?_⟩
    rcases List.mem_append.1 hk with hk | hk
    · exact keeps.mono (found key (by simpa using hk)) (List.sublist_append_left _ _)
    · exact keeps.mono (found' key hk) (List.sublist_append_right _ _)

theorem Keeps.discovers {d : DiscoverySettings} {keys : List AuthMethod} (before : I s)
    (discover : b.Discovers d s (keys, s') es) : I s' ∧ M es ∧ ∀ key ∈ keys, K es key := by
  cases discover with
  | homeless directory =>
    obtain ⟨after, marks⟩ := keeps.findsDirectory before directory
    exact ⟨after, keeps.append marks (keeps.note _ rfl), nofun⟩
  | unlisted directory listing =>
    obtain ⟨between, marks⟩ := keeps.findsDirectory before directory
    obtain ⟨after, marks'⟩ := keeps.capture between listing
    exact ⟨after, keeps.append marks (keeps.append marks' (keeps.note _ rfl)), nofun⟩
  | listed directory listing read =>
    obtain ⟨between, marks⟩ := keeps.findsDirectory before directory
    obtain ⟨between, marks'⟩ := keeps.capture between listing
    obtain ⟨after, marks'', found⟩ := keeps.readsKeys between read
    refine ⟨after, keeps.append marks
      (keeps.append marks' (keeps.append (keeps.noteUnreadable _) marks'')), fun key hk => ?_⟩
    exact keeps.mono (found key hk) (((List.sublist_append_right _ _).trans
      (List.sublist_append_right _ _)).trans (List.sublist_append_right _ _))

/-- **What every captured command keeps, a discovery keeps** of the session that is asked; the
    other session has keys added to its methods at most. -/
theorem Keeps.enriches {d : DiscoverySettings} {target target' : S} {n : Nat} (before : I s)
    (enrich : b.Enriches d target s (n, target', s') es) :
    I s' ∧ M es ∧ (target' = target ∨ ∃ p keys, k.changeableParams? target = some p ∧
      target' = k.withParams { p with auth := addKeys p.auth keys } target ∧
      ∀ key ∈ keys, K es key) := by
  cases enrich with
  | unaddressed => exact ⟨before, keeps.nil, .inl rfl⟩
  | unchangeable _ found =>
    obtain ⟨after, marks, -⟩ := keeps.discovers before found
    exact ⟨after, marks, .inl rfl⟩
  | enriched _ found changeable =>
    obtain ⟨after, marks, keys⟩ := keeps.discovers before found
    refine ⟨after, keeps.append marks ?_, .inr ⟨_, _, changeable, rfl, fun key hk =>
      keeps.mono (keys key hk) (List.sublist_append_left _ _)⟩⟩
    split
    · exact keeps.note _ rfl
    · exact keeps.nil

end

end Runbook.Conduct
