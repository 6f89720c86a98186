/-
  Passwords hidden.

  `AuthMethod.hidden` blanks a password and keeps a key. A host is `Blind` to passwords if
  requests that differ only in them are answered alike.

  * `addKeys_hidden`: the keys that are new do not depend on passwords;
  * `Host.Blind.likeness`: on a blind host, sessions that differ only in passwords do the same.
-/
import Runbook.Chain.Debug
import Runbook.Proofs.Session.Likeness

namespace Runbook

variable {σ : Type}

/-- The method with its password blanked. -/
def AuthMethod.hidden : AuthMethod → AuthMethod
  | .password _ => .password ""
  | .privateKey source pem => .privateKey source pem

/-- Methods with their passwords blanked. -/
def hideAuth (auth : List AuthMethod) : List AuthMethod := auth.map AuthMethod.hidden

/-- A request with its passwords blanked. -/
def Dial.hidden (d : Dial) : Dial := { d with auth := hideAuth d.auth }

/-- An event with the passwords in it blanked. -/
def Event.hidden : Event → Event
  | .dialed d answer => .dialed d.hidden answer
  | e => e

/-- The host answers requests alike that differ only in passwords. A host that does not look
    at the methods at all is one of these. -/
def Host.Blind (h : Host σ) : Prop := ∀ d d' : Dial, d.hidden = d'.hidden → h.dial d = h.dial d'

/-! ## Keys -/

theorem AuthMethod.IsKey.hidden {key : AuthMethod} (isKey : key.IsKey) : key.hidden = key := by
  obtain ⟨source, pem, rfl⟩ := isKey
  rfl

/-- A key that is there is still there when passwords are blanked, and no other appears. -/
theorem mem_hideAuth {auth : List AuthMethod} {key : AuthMethod} (isKey : key.IsKey) :
    key ∈ hideAuth auth ↔ key ∈ auth := by
  refine ⟨fun hk => ?_, fun hk => List.mem_map.2 ⟨key, hk, isKey.hidden⟩⟩
  obtain ⟨a, ha, same⟩ := List.mem_map.1 hk
  obtain ⟨source, pem, rfl⟩ := isKey
  cases a with
  | password secret => cases same
  | privateKey => exact same ▸ ha

/-- **Keys are added alike**, whatever the passwords are. -/
theorem addKeys_hidden {keys : List AuthMethod} (areKeys : ∀ key ∈ keys, key.IsKey)
    (auth : List AuthMethod) : hideAuth (addKeys auth keys) = addKeys (hideAuth auth) keys := by
  induction keys generalizing auth with
  | nil => rfl
  | cons key keys ih =>
    have isKey := areKeys key List.mem_cons_self
    have same : (hideAuth auth).contains key = auth.contains key := by
      rw [Bool.eq_iff_iff, List.contains_iff_mem, List.contains_iff_mem, mem_hideAuth isKey]
    have rest := ih fun key' hk => areKeys key' (List.mem_cons_of_mem _ hk)
    unfold addKeys at rest ⊢
    rw [List.foldl_cons, List.foldl_cons, rest, same]
    split
    · rfl
    · rw [hideAuth, List.map_append, List.map_singleton, isKey.hidden, ← hideAuth]

theorem addedCount_hidden {keys : List AuthMethod} (areKeys : ∀ key ∈ keys, key.IsKey)
    (auth : List AuthMethod) : addedCount (hideAuth auth) keys = addedCount auth keys := by
  rw [addedCount, ← addKeys_hidden areKeys, hideAuth, hideAuth, List.length_map, List.length_map,
    addedCount]

/-! ## Sessions -/

/-- The same methods, up to passwords. -/
def SameButPasswords (auth auth' : List AuthMethod) : Prop := hideAuth auth = hideAuth auth'

theorem Dial.Like.hidden {d d' : Dial} (like : d.Like SameButPasswords d') :
    d.hidden = d'.hidden := by
  obtain ⟨address, user, auth, timeoutMs, policy⟩ := d
  obtain ⟨rfl, rfl, auth, rfl, rfl⟩ := like
  exact congrArg (Dial.mk _ _ · _ _) auth

/-- A blind host tells no two sessions apart that differ only in passwords. -/
def Host.Blind.likeness {h : Host σ} (blind : h.Blind) : Likeness h :=
  .ofAuths SameButPasswords (fun e => some e.hidden) (fun like => blind _ _ like.hidden)
    fun like answer => by rw [Event.hidden, Event.hidden, like.hidden]

theorem Host.Blind.learns {h : Host σ} (blind : h.Blind) : blind.likeness.Learns := by
  intro auth auth' keys alike areKeys
  replace alike : hideAuth auth = hideAuth auth' := alike
  refine ⟨?_, ?_⟩
  · rw [← addedCount_hidden areKeys, alike, addedCount_hidden areKeys]
  · exact (addKeys_hidden areKeys auth).trans (alike ▸ (addKeys_hidden areKeys auth').symm)

/-! ## Debug output -/

theorem AuthMethod.debug_hidden (a : AuthMethod) : a.hidden.debug = a.debug := by
  cases a <;> rfl

/-- Debug output of parameters shows no password. -/
theorem Params.structured_congr {p p' : Params} (address : p.address = p'.address)
    (user : p.user = p'.user) (auth : SameButPasswords p.auth p'.auth) :
    p.structured = p'.structured := by
  have methods : p.auth.map AuthMethod.debug = p'.auth.map AuthMethod.debug := by
    have shown := congrArg (List.map AuthMethod.debug) auth
    simpa only [hideAuth, List.map_map, Function.comp_def, AuthMethod.debug_hidden] using shown
  have atoms := congrArg (List.map Text.Structured.atom) methods
  rw [List.map_map, List.map_map] at atoms
  rw [Function.comp_def] at atoms
  rw [Params.structured, Params.structured, address, user, atoms]

end Runbook
