/-
  When something happened: how many scopes had been started by then, and which connections
  were live.
-/
import Runbook.Proofs.Chain.Connections

namespace Runbook

/-- An event, the number of scopes that had been started, and the connections that were
    live, the youngest first. -/
structure Moment where
  started : Nat
  live : List Connection
  event : Event

/-- The moments of some events; `n` scopes were started before. -/
def moments (n : Nat) (live : List Connection) : List Event → List Moment
  | [] => []
  | e :: es =>
    let n := n + e.start?.toList.length
    ⟨n, live, e⟩ :: moments n (e.live live) es

/-- The live connections after some events. -/
def liveAfter (live : List Connection) (es : List Event) : List Connection :=
  es.foldl Event.live live

theorem liveAfter_of_replay {live live' : List Connection} {es : List Event}
    (h : replay live es = some live') : liveAfter live es = live' := by
  induction es generalizing live with
  | nil => exact Option.some.inj h
  | cons e es ih =>
    rw [replay] at h
    split at h
    · exact ih h
    · cases h

theorem moments_append (n : Nat) (live : List Connection) (es es' : List Event) :
    moments n live (es ++ es') =
      moments n live es ++ moments (n + (startedNames es).length) (liveAfter live es) es' := by
  induction es generalizing n live with
  | nil => rfl
  | cons e es ih =>
    have count : (startedNames (e :: es)).length =
        e.start?.toList.length + (startedNames es).length := by
      rw [startedNames, List.filterMap_cons]
      rcases e.start? with _ | name
      · simp [startedNames]
      · simp [startedNames, Nat.add_comm]
    rw [List.cons_append, moments, moments, ih, count, ← Nat.add_assoc]
    rfl

/-- The moments of a part are moments of the whole. -/
theorem moments_part {n n' : Nat} {live live' : List Connection} (pre : List Event)
    {es all : List Event} (whole : pre ++ es <+: all) (started : n + (startedNames pre).length = n')
    (reached : liveAfter live pre = live') : moments n' live' es ⊆ moments n live all := by
  obtain ⟨post, rfl⟩ := whole
  rw [moments_append, moments_append, started, reached]
  exact List.Subset.trans (List.subset_append_right _ _) (List.subset_append_left _ _)

/-- No scope is started, and no connection comes or goes. -/
def Steady (es : List Event) : Prop := ∀ e ∈ es, e.start? = none ∧ ∀ live, e.live live = live

/-- In the meantime nothing changes. -/
theorem Steady.moments {es : List Event} (steady : Steady es) (n : Nat) (live : List Connection) :
    moments n live es = es.map (Moment.mk n live) := by
  induction es with
  | nil => rfl
  | cons e es ih =>
    obtain ⟨first, rest⟩ := List.forall_mem_cons.1 steady
    rw [Runbook.moments, first.1, first.2, List.map_cons]
    exact congrArg _ (ih rest)

variable {st : Settings} {pl : Place} {es : List Event}

theorem Exchanges.steady {sink : Sink} {line : String} {o : Outcome}
    (exchange : Exchanges st sink line pl o es) : Steady es := by
  rcases exchange with ⟨⟨answer⟩⟩ | ⟨f | ⟨answer, flushed, closed⟩⟩
  · simp [Steady, Event.start?, Event.live]
  · simp [Steady, Event.start?, Event.live]
  · rcases flushed with e | u <;> rcases closed with f | u <;>
      simp [Steady, Event.start?, Event.live, RemoteShell.noteUnflushed, RemoteShell.noteUnclosed]

theorem Quiet.steady (quiet : Quiet st pl es) : Steady es := by
  induction quiet with
  | nil => intro e he; cases he
  | notice own _ ih =>
    exact List.forall_mem_cons.2 ⟨⟨start?_of_credentials own, fun _ => rfl⟩, ih⟩
  | exchange exchange _ ih => exact List.forall_mem_append.2 ⟨exchange.steady, ih⟩

end Runbook
