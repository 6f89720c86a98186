/-
  What can go wrong while a chain is loaded or run.

  * `Failure` is a cause with the contexts it was reported through, outermost first;
  * `Fault` is what a chain answers, and `Fault.message` its wording.
-/
import Runbook.Text.Blank

namespace Runbook

/-- A failure of the outside world: contexts, outermost first, and last the cause. -/
structure Failure where
  causes : List String
  deriving DecidableEq, Repr

namespace Failure

/-- A failure with one cause. -/
def of (cause : String) : Failure := ⟨[cause]⟩

/-- A failure reported through one more context. -/
def within (context : String) (f : Failure) : Failure := ⟨context :: f.causes⟩

/-- All contexts and the cause in one line. -/
def text (f : Failure) : String := Text.joinWith ": " f.causes

/-- The outermost context alone. -/
def outermost (f : Failure) : String := f.causes.headD ""

end Failure

/-- Everything that can go wrong while a chain is loaded or run. -/
inductive Fault where
  /-- The document has a shape that no chain can be built from. -/
  | malformed (reason : String)
  /-- The document is not well-formed text of its language. -/
  | unparsable
  | unreachable (address reason : String)
  | failed (target command reason : String)
  /-- A command was reached without a session to run it. -/
  | unbound (command : String)
  | io (reason : String)
  deriving DecidableEq, Repr

/-- The wording of a fault. The details of a document that cannot be read are not part
    of it. -/
def Fault.message : Fault → String
  | .malformed reason => "malformed chain document: " ++ reason
  | .unparsable => "failed to parse chain document: "
  | .unreachable address reason => "failed to connect to " ++ address ++ ": " ++ reason
  | .failed target command reason =>
    "command '" ++ command ++ "' failed on " ++ target ++ ": " ++ reason
  | .unbound command => "command '" ++ command ++ "' has no session bound"
  | .io reason => "IO error: " ++ reason

/-- What a step that answers nothing else comes to. -/
abbrev Outcome := Except Fault Unit

/-- The first of two outcomes that is a fault. -/
def Outcome.and (first second : Outcome) : Outcome :=
  match first with
  | .ok () => second
  | .error e => .error e

@[simp] theorem Outcome.and_ok (o : Outcome) : o.and (.ok ()) = o := by
  rcases o with e | u <;> rfl

@[simp] theorem Outcome.error_and (e : Fault) (o : Outcome) :
    Outcome.and (.error e) o = .error e := rfl

@[simp] theorem Outcome.ok_and (o : Outcome) : Outcome.and (.ok ()) o = o := rfl

theorem Outcome.and_eq_ok {o o' : Outcome} : o.and o' = .ok () ↔ o = .ok () ∧ o' = .ok () := by
  rcases o with e | u
  · simp
  · exact ⟨fun h => ⟨rfl, h⟩, fun h => h.2⟩

/-- The fault that something came to, if it did. -/
def Outcome.fault? : Outcome → Option Fault
  | .ok () => none
  | .error e => some e

/-- Nothing went wrong. -/
def Outcome.isOk (o : Outcome) : Bool :=
  match o with
  | .ok () => true
  | .error _ => false

theorem Outcome.isOk_iff {o : Outcome} : o.isOk = true ↔ o = .ok () := by
  rcases o with e | u <;> simp [Outcome.isOk]

end Runbook
