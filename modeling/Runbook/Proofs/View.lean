/-
  What can be said of a run without its worlds: what it answers, and the marks that it
  leaves.

  A `View` tells which marks lead from one world to another. `Run.Gives v m Q`: in every
  world the run `m` answers some `a` and leaves some marks `es` with `Q a es`. As a run
  always ends, this is total correctness.

  * `gives_pure`, `gives_bind` and `Gives.mono` are the rules for programs; every operation
    of a host has a rule of its own;
  * a `Conduct` says for each operation of a kind of sessions how a session can answer, as a
    view shows it, and carries the proof that nothing else can happen. What a chain or a
    discovery can do follows from it, for every kind of session at once.
-/
import Runbook.Session.Capture

namespace Runbook

variable {σ S ε α β : Type}

/-- A way to look at runs: the marks that lead from one world to another. -/
structure View (σ ε : Type) where
  Leads : World σ → List ε → World σ → Prop
  refl : ∀ w, Leads w [] w
  trans : ∀ {w₀ w₁ w₂ es es'}, Leads w₀ es w₁ → Leads w₁ es' w₂ → Leads w₀ (es ++ es') w₂

/-- The view that sees no marks. -/
def View.blind : View σ Unit where
  Leads _ _ _ := True
  refl _ := trivial
  trans _ _ := trivial

/-- In every world, the run answers and leaves marks as `Q` says. -/
def Run.Gives (v : View σ ε) (m : Run σ α) (Q : α → List ε → Prop) : Prop :=
  ∀ w, ∃ es, v.Leads w es (m w).2 ∧ Q (m w).1 es

namespace Run

variable {v : View σ ε} {m : Run σ α} {f : α → Run σ β}

theorem Gives.mono {P Q : α → List ε → Prop} (h : m.Gives v P) (hPQ : ∀ a es, P a es → Q a es) :
    m.Gives v Q := fun w => by
  obtain ⟨es, hes, hP⟩ := h w
  exact ⟨es, hes, hPQ _ _ hP⟩

theorem gives_pure {a : α} {Q : α → List ε → Prop} (h : Q a []) :
    Gives v (pure a : Run σ α) Q := fun w => ⟨[], v.refl w, h⟩

/-- **The rule for sequences**: the marks of the second run follow those of the first. -/
theorem gives_bind {P : α → List ε → Prop} {Q : β → List ε → Prop} (hm : m.Gives v P)
    (hf : ∀ a es, P a es → (f a).Gives v fun b es' => Q b (es ++ es')) :
    Gives v (m >>= f) Q := fun w => by
  obtain ⟨es, hes, hP⟩ := hm w
  obtain ⟨es', hes', hQ⟩ := hf _ _ hP (m w).2
  exact ⟨es ++ es', v.trans hes hes', hQ⟩

/-- A last step that leaves no marks. -/
theorem gives_map {P : α → List ε → Prop} {Q : β → List ε → Prop} {g : α → β}
    (hm : m.Gives v P) (h : ∀ a es, P a es → Q (g a) es) :
    Gives v (m >>= fun a => pure (g a)) Q :=
  gives_bind hm fun a es hP => gives_pure (by simpa using h a es hP)

end Run

/-- What can happen when sessions of a kind are used, with the proof that nothing else can.
    A session is related to what it answers, the session afterwards, and the marks. -/
structure Conduct (k : SessionKind σ S) (v : View σ ε) where
  note : Notice → List ε
  Connects : S → Outcome × S → List ε → Prop
  Runs : String → S → Outcome × S → List ε → Prop
  Captures : String → S → Except Fault String × S → List ε → Prop
  Closes : S → Outcome × S → List ε → Prop
  note_gives : ∀ n, (Run.note n).Gives v fun _ es => es = note n
  connect_gives : ∀ s, (k.connect s).Gives v (Connects s)
  run_gives : ∀ line s, (k.run s line).Gives v (Runs line s)
  capture_gives : ∀ line s, (k.capture s line).Gives v (Captures line s)
  close_gives : ∀ s, (k.close s).Gives v (Closes s)

/-- The notice about a fault, if there is one. -/
def Conduct.noteFault {k : SessionKind σ S} {v : View σ ε} (b : Conduct k v) (n : Fault → Notice) :
    Outcome → List ε
  | .ok () => []
  | .error e => b.note (n e)

end Runbook
