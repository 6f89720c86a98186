/-
  Two runs side by side.

  A `Pairing` relates the worlds of two runs. `Run.Alike v Q m m'`: from worlds that `v`
  relates, the runs `m` and `m'` lead to worlds that it relates again, with answers that `Q`
  relates.

  * `alike_pure`, `alike_bind` and `Alike.mono` are the rules for programs, and `alike_left` is
    that for steps which only one of them makes;
  * `Alike.and_gives`: what one run gives on its own can be added.
-/
import Runbook.Discovery
import Runbook.Proofs.View

namespace Runbook

variable {σ σ' α α' β β' ε : Type}

/-- A relation between the worlds of two runs. The same notices can be given in both. -/
structure Pairing (σ σ' : Type) where
  Worlds : World σ → World σ' → Prop
  note : ∀ {w w'}, Worlds w w' → ∀ n, Worlds (w.record (.notice n)) (w'.record (.notice n))

/-- Related worlds have the same buffers, whatever these are. -/
structure Pairing.Buffered (v : Pairing σ σ') : Prop where
  buffers : ∀ {w w'}, v.Worlds w w' → w.buffers = w'.buffers
  withBuffers : ∀ {w w'}, v.Worlds w w' → ∀ bs,
    v.Worlds { w with buffers := bs } { w' with buffers := bs }

/-- From worlds that are related the runs lead to worlds that are related, and answer as `Q`
    says. -/
def Run.Alike (v : Pairing σ σ') (Q : α → α' → Prop) (m : Run σ α) (m' : Run σ' α') : Prop :=
  ∀ w w', v.Worlds w w' → Q (m w).1 (m' w').1 ∧ v.Worlds (m w).2 (m' w').2

namespace Run

variable {v : Pairing σ σ'} {m : Run σ α} {m' : Run σ' α'} {f : α → Run σ β} {f' : α' → Run σ' β'}

theorem Alike.mono {P Q : α → α' → Prop} (h : m.Alike v P m') (hPQ : ∀ a a', P a a' → Q a a') :
    m.Alike v Q m' := fun w w' related =>
  ⟨hPQ _ _ (h w w' related).1, (h w w' related).2⟩

theorem alike_pure {Q : α → α' → Prop} {a : α} {a' : α'} (h : Q a a') :
    Alike v Q (pure a) (pure a') := fun _ _ related => ⟨h, related⟩

/-- **The rule for sequences**: the second runs are alike after answers of the first. -/
theorem alike_bind {P : α → α' → Prop} {Q : β → β' → Prop} (hm : m.Alike v P m')
    (hf : ∀ a a', P a a' → (f a).Alike v Q (f' a')) : Alike v Q (m >>= f) (m' >>= f') := by
  intro w w' related
  obtain ⟨answers, related'⟩ := hm w w' related
  exact hf _ _ answers _ _ related'

/-- A step that only one of the runs makes, and that the other does not notice. -/
theorem alike_left {P : α → Prop} {f : α → Run σ β} {m' : Run σ' β'} {Q : β → β' → Prop}
    (hm : ∀ w w', v.Worlds w w' → P (m w).1 ∧ v.Worlds (m w).2 w')
    (hf : ∀ a, P a → (f a).Alike v Q m') : Alike v Q (m >>= f) m' := by
  intro w w' related
  obtain ⟨answer, related'⟩ := hm w w' related
  exact hf _ answer _ _ related'

/-- What one of two runs gives on its own. -/
theorem Alike.and_gives {u : View σ ε} {P : α → List ε → Prop} {Q : α → α' → Prop}
    (h : m.Alike v Q m') (hm : m.Gives u P) :
    m.Alike v (fun a a' => Q a a' ∧ ∃ es, P a es) m' := by
  intro w w' related
  obtain ⟨es, -, hP⟩ := hm w
  obtain ⟨answers, related'⟩ := h w w' related
  exact ⟨⟨answers, es, hP⟩, related'⟩

theorem alike_note (v : Pairing σ σ') (n : Notice) :
    Alike v Eq (note n) (note n) := fun _ _ related => ⟨rfl, v.note related n⟩

theorem alike_newBuffer (buffered : v.Buffered) : Alike v Eq newBuffer newBuffer :=
  fun w w' related => by
    have grown := buffered.withBuffers related (w.buffers ++ [[]])
    refine ⟨congrArg List.length (buffered.buffers related), ?_⟩
    rw [newBuffer, newBuffer, ← buffered.buffers related]
    exact grown

theorem alike_dropBuffers (buffered : v.Buffered) (id : Nat) :
    Alike v Eq (dropBuffers id) (dropBuffers id) := fun w w' related => by
  have cut := buffered.withBuffers related (w.buffers.take id)
  refine ⟨congrArg (·.getD id []) (buffered.buffers related), ?_⟩
  rw [dropBuffers, dropBuffers, ← buffered.buffers related]
  exact cut

theorem alike_readPatterns (v : Pairing σ σ') : ∀ ps : List String,
    Alike v Eq (readPatterns ps) (readPatterns ps)
  | [] => alike_pure rfl
  | p :: ps => by
    unfold readPatterns
    rcases Pattern.parse p with e | pattern
    · exact alike_bind (alike_note v _) fun _ _ _ => alike_readPatterns v ps
    · refine alike_bind (alike_readPatterns v ps) ?_
      rintro _ patterns rfl
      exact alike_pure rfl

end Run

end Runbook
