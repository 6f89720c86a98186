/-
  Discovery for the sessions of a document.

  * `Quiet st pl es`: nothing happened but captured commands at the place `pl`, and notices
    about credentials;
  * `ShownAt pl es key`: the key was read at the place by one of the captured commands;
  * `enriches_resting`: a discovery is quiet, leaves the session it asks as it was, and adds
    to the methods of the other session only keys that it was shown.
-/
import Runbook.Proofs.Discovery
import Runbook.Proofs.Session.Place

namespace Runbook

open Session (resting)

/-- The name of the scope that starts to be executed. -/
def Event.start? : Event → Option String
  | .notice (.chainStarted name) => some name
  | _ => none

/-- What a captured command that succeeded has shown: where it ran, the command, and the
    text. -/
def Event.captured? : Event → Option (Place × String × String)
  | .executed c command (.buffer _) ⟨stdout, .ok 0⟩ =>
    some (some c, command, Bytes.decodeLossy stdout)
  | .spawned p (.buffer _) (.ok ⟨stdout, _, .exited 0⟩) =>
    some (none, p.command, Bytes.decodeLossy stdout)
  | _ => none

/-- Nothing happens but captured commands at a place, and notices about credentials. -/
inductive Quiet (st : Settings) (pl : Place) : List Event → Prop where
  | nil : Quiet st pl []
  | notice {n es} (own : n.origin = .credentials) (rest : Quiet st pl es) :
      Quiet st pl (.notice n :: es)
  | exchange {id command o es es'} (exchange : Exchanges st (.buffer id) command pl o es)
      (rest : Quiet st pl es') : Quiet st pl (es ++ es')

/-- The key was read at the place, under the name of the place and its path. -/
def ShownAt (pl : Place) (es : List Event) (key : AuthMethod) : Prop :=
  ∃ path pem, key = .privateKey (pl.name ++ ":" ++ path) pem ∧
    (pl, readCommand path, pem) ∈ es.filterMap Event.captured?

variable {σ : Type} {h : Host σ} {st : Settings} {pl : Place} {s t : Session}

theorem Quiet.append {es es' : List Event} (quiet : Quiet st pl es) (quiet' : Quiet st pl es') :
    Quiet st pl (es ++ es') := by
  induction quiet with
  | nil => exact quiet'
  | notice own _ ih => exact .notice own ih
  | exchange exchange _ ih =>
    rw [List.append_assoc]
    exact .exchange exchange ih

/-- No notice about credentials is that a scope starts. -/
theorem start?_of_credentials {n : Notice} (own : n.origin = .credentials) :
    (Event.notice n).start? = none := by
  cases n <;> first | rfl | cases own

theorem ShownAt.mono {es es' : List Event} {key : AuthMethod} (shown : ShownAt pl es key)
    (sub : es.Sublist es') : ShownAt pl es' key := by
  obtain ⟨path, pem, hk, hm⟩ := shown
  exact ⟨path, pem, hk, (sub.filterMap _).subset hm⟩

/-- A captured command that succeeded has shown what it wrote. -/
theorem Exchanges.captured {id : Nat} {command : String} {es : List Event}
    (exchange : Exchanges st (.buffer id) command pl (.ok ()) es) :
    (pl, command, Bytes.decodeLossy (outputTo (.buffer id) es)) ∈
      es.filterMap Event.captured? := by
  generalize ho : (.ok () : Outcome) = o at exchange
  rcases exchange with ⟨⟨answer⟩⟩ | ⟨f | ⟨⟨stdout, status⟩, flushed, closed⟩⟩
  · rcases answer with e | ⟨stdout, stderr, ending⟩
    · cases ho
    · by_cases he : ending = .exited 0
      · subst he
        simp [Event.captured?, LocalShell.process, outputTo, Event.outputTo, Event.output?]
      · simp [LocalShell.outcome, Except.map, he] at ho
  · cases ho
  · rcases status with f | n
    · cases ho
    · by_cases hn : n = 0
      · subst hn
        rcases flushed with e | u <;> rcases closed with f | u <;>
          simp [Event.captured?, outputTo, Event.outputTo, Event.output?,
            RemoteShell.noteUnflushed, RemoteShell.noteUnclosed]
      · simp [RemoteShell.outcome, hn] at ho

/-- A captured command is quiet. -/
theorem quiet_captures {command : String} {r : Except Fault String} {es : List Event}
    (at_ : RunsAt st pl s) (capture : (Session.conduct h).Captures command s (r, t) es) :
    t = s ∧ Quiet st pl es ∧
      ∀ text, r = .ok text → (pl, command, text) ∈ es.filterMap Event.captured? := by
  obtain ⟨rfl, id, o, exchange, rfl⟩ := at_.captures capture
  refine ⟨rfl, by simpa using Quiet.exchange exchange .nil, fun text ht => ?_⟩
  rcases o with e | u
  · cases ht
  · obtain rfl := Except.ok.inj ht
    exact exchange.captured

/-- Captured commands are quiet, and keys that are read were shown. -/
theorem quiet_keeps (at_ : RunsAt st pl s) :
    (Session.conduct h).Keeps (· = s) (Quiet st pl) (ShownAt pl) where
  nil := .nil
  append := Quiet.append
  note _ own := .notice own .nil
  capture := by
    rintro line _ r s' es rfl capture
    obtain ⟨rfl, quiet, -⟩ := quiet_captures at_ capture
    exact ⟨rfl, quiet⟩
  key := by
    rintro path _ pem s' es rfl capture
    obtain ⟨rfl, -, shown⟩ := quiet_captures at_ capture
    refine ⟨path, pem, ?_, shown _ rfl⟩
    rw [Session.kind_identify, at_.identify]
  mono := ShownAt.mono

/-- **A discovery is quiet** and adds only keys that it was shown. -/
theorem enriches_resting {d : DiscoverySettings} {p : Params} {n : Nat} {s' t' : Session}
    {es : List Event} (at_ : RunsAt st pl t)
    (enrich : (Session.conduct h).Enriches d (resting st p) t (n, s', t') es) :
    t' = t ∧ Quiet st pl es ∧ ∃ keys, s' = resting st { p with auth := addKeys p.auth keys } ∧
      ∀ key ∈ keys, ShownAt pl es key := by
  obtain ⟨rfl, quiet, rfl | ⟨q, keys, changeable, rfl, shown⟩⟩ :=
    (quiet_keeps at_).enriches rfl enrich
  · exact ⟨rfl, quiet, [], rfl, nofun⟩
  · obtain rfl := Option.some.inj changeable
    exact ⟨rfl, quiet, keys, rfl, shown⟩

end Runbook
