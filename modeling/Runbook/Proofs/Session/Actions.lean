/-
  What can be done with one session, in any order.

  * `Action`: a session is connected, used, closed, configured, asked about itself, and its
    output is sent elsewhere, for good or for a while. What is done in the meantime is given
    with it, and can be cut off by the first fault;
  * `Action.perform` and `performAll` perform actions, and tell what each of them answers;
  * `Action.parts` and `partsOf` list the actions, those in the meantime included;
  * `Keeping.perform` and `Keeping.performAll`: what every operation of a session keeps, and
    sending its output elsewhere for a while, all actions keep.
-/
import Runbook.Proofs.Session.Conduct

namespace Runbook

variable {σ : Type}

/-- Something that is done with a session. -/
inductive Action where
  | connect
  | run (command : String)
  | close
  | configure (d : Declarations)
  /-- Output is sent to another sink. -/
  | redirect (sink : Sink)
  /-- The session is asked for its name, and where its output goes. -/
  | inspect
  /-- A command is run and its output is captured. -/
  | capture (command : String)
  /-- Output is sent to another sink for a while. If `strict`, the first fault in the meantime
      ends it. -/
  | within (sink : Sink) (strict : Bool) (inside : List Action)

/-- What an action answers. -/
inductive Answer where
  | outcome (o : Outcome)
  | configured
  /-- Where output went before. -/
  | previous (sink : Sink)
  | inspected (name : String) (sink : Sink)
  | captured (text : Except Fault String)
  /-- What was answered in the meantime, and what that came to. -/
  | inside (answers : List Answer) (o : Outcome)

/-- What an action comes to, given its answer. -/
def Answer.toOutcome : Answer → Outcome
  | .outcome o | .inside _ o => o
  | .captured (.error e) => .error e
  | .captured (.ok _) | .configured | .previous _ | .inspected _ _ => .ok ()

/-- Puts down what happened. -/
def Run.report (es : List Event) : Run σ Unit := fun w =>
  ((), { w with events := w.events ++ es })

mutual

/-- Performs an action. -/
def Action.perform (h : Host σ) : Action → Session → Run σ (Answer × Session)
  | .connect, s => do
    let (o, s) ← s.connect h
    pure (.outcome o, s)
  | .run command, s => do
    let (o, s) ← s.run h command
    pure (.outcome o, s)
  | .close, s => do
    let (o, s) ← s.close h
    pure (.outcome o, s)
  | .configure d, s => do
    let (s, es) := s.configure d
    Run.report es
    pure (.configured, s)
  | .redirect sink, s => do
    let (previous, s) := s.swapSink sink
    pure (.previous previous, s)
  | .inspect, s => pure (.inspected s.identify s.sink, s)
  | .capture command, s => do
    let (text, s) ← s.capture h command
    pure (.captured text, s)
  | .within sink strict inside, s => do
    let ((answers, o), s) ← s.redirected sink fun s => performAll h strict inside s
    pure (.inside answers o, s)

/-- Performs actions in order; if `strict`, up to the first fault. It answers what they answer,
    and what they come to. -/
def performAll (h : Host σ) (strict : Bool) :
    List Action → Session → Run σ ((List Answer × Outcome) × Session)
  | [], s => pure (([], .ok ()), s)
  | a :: as, s => do
    let (answer, s) ← a.perform h s
    if strict && !answer.toOutcome.isOk then pure (([answer], answer.toOutcome), s)
    else do
      let ((answers, o), s) ← performAll h strict as s
      pure ((answer :: answers, o), s)

end

mutual

/-- An action, and those in the meantime. -/
def Action.parts : Action → List Action
  | .within sink strict inside => .within sink strict inside :: partsOf inside
  | a => [a]

/-- Actions, and those in the meantime. -/
def partsOf : List Action → List Action
  | [] => []
  | a :: as => a.parts ++ partsOf as

end

theorem Action.mem_parts_self (a : Action) : a ∈ a.parts := by
  cases a <;> simp [parts]

/-! ## What actions keep -/

theorem Run.report_plays {es : List Event} (silent : ∀ e ∈ es, e.output? = none) :
    (Run.report es : Run σ Unit).Gives played fun _ es' => es' = es :=
  fun w => ⟨es, Plays.told w w.host silent, rfl⟩

theorem Session.configure_silent (d : Declarations) (s : Session) :
    ∀ e ∈ (s.configure d).2, e.output? = none := by
  cases s with
  | shell l => simp [Session.configure]
  | remote r => simp [Session.configure]
  | custom c => simp [Session.configure, Event.output?]

/-- `I` relates a session before and after, with what happens in between, for everything that can
    be done with a session. Output is sent to sinks that are `Allowed` for good, and to any
    for a while. -/
structure Keeping (Allowed : Sink → Prop) (I : Session → List Event → Session → Prop) : Prop where
  refl : ∀ s, I s [] s
  trans : ∀ {s es t es' u}, I s es t → I t es' u → I s (es ++ es') u
  connect : ∀ {s o t es}, s.Connects (o, t) es → I s es t
  run : ∀ {s command o t es}, Session.Runs command s (o, t) es → I s es t
  close : ∀ {s o t es}, s.Closes (o, t) es → I s es t
  configure : ∀ s d, I s (s.configure d).2 (s.configure d).1
  redirect : ∀ s {k}, Allowed k → I s [] (s.setSink k)
  within : ∀ {s k es t}, I (s.setSink k) es t → I s es (t.setSink s.sink)

namespace Keeping

variable {Allowed : Sink → Prop} {I : Session → List Event → Session → Prop}

mutual

/-- **What every operation keeps, an action keeps.** -/
theorem perform (keeping : Keeping Allowed I) (h : Host σ) : ∀ (a : Action) (s : Session),
    (∀ k, .redirect k ∈ a.parts → Allowed k) →
    (a.perform h s).Gives played fun r es => I s es r.2
  | .connect, s, _ => by
    unfold Action.perform
    exact Run.gives_map (s.connect_plays h) fun _ _ => keeping.connect
  | .run command, s, _ => by
    unfold Action.perform
    exact Run.gives_map (Session.run_plays h command s) fun _ _ => keeping.run
  | .close, s, _ => by
    unfold Action.perform
    exact Run.gives_map (s.close_plays h) fun _ _ => keeping.close
  | .configure d, s, _ => by
    unfold Action.perform
    refine Run.gives_map (Run.report_plays (s.configure_silent d)) ?_
    rintro _ _ rfl
    exact keeping.configure s d
  | .redirect sink, s, allowed => by
    unfold Action.perform
    exact Run.gives_pure (keeping.redirect s (allowed sink (Action.mem_parts_self _)))
  | .inspect, s, _ => by
    unfold Action.perform
    exact Run.gives_pure (keeping.refl s)
  | .capture command, s, _ => by
    unfold Action.perform
    refine Run.gives_map ((Session.conduct h).capture_gives command s) ?_
    rintro ⟨text, t⟩ es ⟨run⟩
    exact keeping.within (keeping.run run)
  | .within sink strict inside, s, allowed => by
    unfold Action.perform
    have meantime : ∀ k, .redirect k ∈ partsOf inside → Allowed k := fun k hk =>
      allowed k (by rw [Action.parts]; exact List.mem_cons_of_mem _ hk)
    refine Run.gives_map (Run.gives_map
      (performAll keeping h strict inside (s.setSink sink) meantime) ?_) fun _ _ => id
    exact fun r es kept => keeping.within kept

/-- What every operation keeps, all actions keep. -/
theorem performAll (keeping : Keeping Allowed I) (h : Host σ) (strict : Bool) :
    ∀ (as : List Action) (s : Session), (∀ k, .redirect k ∈ partsOf as → Allowed k) →
    (performAll h strict as s).Gives played fun r es => I s es r.2
  | [], s, _ => Run.gives_pure (keeping.refl s)
  | a :: as, s, allowed => by
    rw [partsOf] at allowed
    unfold Runbook.performAll
    refine Run.gives_bind (perform keeping h a s fun k hk =>
      allowed k (List.mem_append_left _ hk)) ?_
    rintro ⟨answer, t⟩ es first
    dsimp only
    split
    · exact Run.gives_pure (by simpa using first)
    · exact Run.gives_map (performAll keeping h strict as t fun k hk =>
        allowed k (List.mem_append_right _ hk)) fun _ _ rest => keeping.trans first rest

end

end Keeping

end Runbook
