/-
  Discovery through sessions of which all answer the same.

  * `Steadily At m`: on all sessions of which `At` holds the run answers the same, leaves the
    same imprint, and leaves the session as it was;
  * `SessionKind.Steady k At`: captured commands do so;
  * `Steady.discoverKeys`: then the same keys are found through all of them;
  * `addKeys_addKeys`: keys that were added once are not added again.
-/
import Runbook.Discovery
import Runbook.Proofs.Session.Answers

namespace Runbook

variable {σ S α β : Type}

/-- On all sessions of `At` the run answers the same, leaves the same imprint, and leaves the
    session as it was. -/
def Steadily (At : S → Prop) (m : S → Run σ (α × S)) : Prop :=
  ∃ a ms, ∀ s, At s → (m s).Settles (a, s) ms

namespace Steadily

variable {At : S → Prop} {m : S → Run σ (α × S)}

theorem pure {g : S → α} {a : α} (same : ∀ s, At s → g s = a) :
    Steadily At fun s => (Pure.pure (g s, s) : Run σ (α × S)) :=
  ⟨a, [], fun s at_ => same s at_ ▸ Run.settles_pure⟩

/-- **The rule for sequences.** -/
theorem bind {f : S → α × S → Run σ (β × S)} (hm : Steadily At m)
    (hf : ∀ a, Steadily At fun s => f s (a, s)) : Steadily At fun s => m s >>= f s := by
  obtain ⟨a, ms, first⟩ := hm
  obtain ⟨b, ms', rest⟩ := hf a
  exact ⟨b, ms ++ ms', fun s at_ => Run.settles_bind (first s at_) (rest s at_)⟩

theorem noted {n : S → Notice} {f : S → Unit → Run σ (β × S)} (hf : Steadily At fun s => f s ()) :
    Steadily At fun s => Run.note (n s) >>= f s := by
  obtain ⟨b, ms, rest⟩ := hf
  exact ⟨b, ms, fun s at_ => Run.settles_noted (rest s at_)⟩

end Steadily

theorem readPatterns_settles : ∀ ps : List String,
    ∃ patterns, (readPatterns ps : Run σ _).Settles patterns []
  | [] => ⟨[], Run.settles_pure⟩
  | p :: ps => by
    obtain ⟨patterns, rest⟩ := @readPatterns_settles ps
    unfold readPatterns
    rcases Pattern.parse p with e | pattern
    · exact ⟨patterns, Run.settles_noted rest⟩
    · exact ⟨pattern :: patterns, Run.settles_map rest⟩

/-- All these sessions have one name, and captured commands answer the same on them. -/
structure SessionKind.Steady (k : SessionKind σ S) (At : S → Prop) : Prop where
  identify : ∃ name, ∀ s, At s → k.identify s = name
  capture : ∀ command, Steadily At (k.capture · command)

namespace SessionKind.Steady

variable {k : SessionKind σ S} {At : S → Prop} (steady : k.Steady At)
include steady

theorem findKeyDirectory (d : DiscoverySettings) : Steadily At (k.findKeyDirectory · d) := by
  obtain ⟨name, named⟩ := steady.identify
  unfold SessionKind.findKeyDirectory
  refine (steady.capture homeCommand).bind ?_
  rintro (e | out)
  · exact .pure fun _ _ => rfl
  · dsimp only
    split
    · exact .pure fun s at_ => by rw [named s at_]
    · exact .pure fun _ _ => rfl

theorem readKey (path : String) : Steadily At (k.readKey · path) := by
  obtain ⟨name, named⟩ := steady.identify
  unfold SessionKind.readKey
  refine (steady.capture (readCommand path)).bind ?_
  rintro (e | pem)
  · exact .noted (.pure fun _ _ => rfl)
  · dsimp only
    split
    · exact .noted (.pure fun s at_ => by rw [named s at_])
    · exact .noted (.pure fun _ _ => rfl)

theorem readKeys (dir : String) : ∀ names : List String, Steadily At (k.readKeys dir · names)
  | [] => .pure fun _ _ => rfl
  | name :: names => by
    unfold SessionKind.readKeys
    refine (steady.readKey _).bind fun key => ?_
    exact (readKeys dir names).bind fun keys => .pure fun _ _ => rfl

/-- **The same keys are found through all these sessions.** -/
theorem discoverKeys (d : DiscoverySettings) : Steadily At (k.discoverKeys · d) := by
  unfold SessionKind.discoverKeys
  refine (steady.findKeyDirectory d).bind ?_
  rintro (e | dir)
  · exact .noted (.pure fun _ _ => rfl)
  · refine (steady.capture (listCommand dir)).bind ?_
    rintro (e | listing)
    · exact .noted (.pure fun _ _ => rfl)
    · obtain ⟨patterns, read⟩ := @readPatterns_settles σ d.keyPatterns
      obtain ⟨keys, ms, found⟩ := steady.readKeys dir (keyNames patterns listing)
      exact ⟨keys, ms, fun s at_ => Run.settles_bind read (found s at_)⟩

end SessionKind.Steady

/-! ## Adding keys -/

theorem addKeys_of_known {auth keys : List AuthMethod} (known : ∀ key ∈ keys, key ∈ auth) :
    addKeys auth keys = auth := by
  induction keys with
  | nil => rfl
  | cons key keys ih =>
    obtain ⟨first, rest⟩ := List.forall_mem_cons.1 known
    rw [addKeys, List.foldl_cons, if_pos (List.contains_iff_mem.2 first)]
    exact ih rest

/-- Every key is there after it was added. -/
theorem mem_addKeys {auth keys : List AuthMethod} : ∀ key ∈ keys, key ∈ addKeys auth keys := by
  induction keys generalizing auth with
  | nil => exact nofun
  | cons key keys ih =>
    rw [addKeys, List.foldl_cons]
    refine List.forall_mem_cons.2 ⟨?_, ih⟩
    -- the key is there after the first step, and stays
    have first : key ∈ if auth.contains key then auth else auth ++ [key] := by
      split
      · next known => exact List.contains_iff_mem.1 known
      · simp
    obtain ⟨added, grown, -⟩ := addKeys_eq (if auth.contains key then auth else auth ++ [key]) keys
    exact (congrArg (key ∈ ·) grown).mpr (List.mem_append_left added first)

/-- Keys that were added once are not added again. -/
theorem addKeys_addKeys (auth keys : List AuthMethod) :
    addKeys (addKeys auth keys) keys = addKeys auth keys := addKeys_of_known mem_addKeys

end Runbook
