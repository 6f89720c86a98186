/-
  Where the output of a session goes.

  * `Session.sinks`: every sink that a session holds, also that of its shell on this machine;
    `Session.InStep`: they are one;
  * `World.Has`: a sink is there; `Plays.contents`: what events write is added to it, if the
    writer of standard output held nothing back before;
  * `Point`: an action on a session; `Action.points` and `pointsAll` list those that are come to
    while actions are performed, the ones in the meantime and captured commands included;
  * `Point.Disciplined`: output goes where the session says, and is sent back where it went
    before;
  * `sinks_disciplined`: whatever is done with a session, every point is disciplined.
-/
import Runbook.Discovery
import Runbook.Proofs.Session.Grammar

namespace Runbook

variable {σ : Type}

/-! ## What is written -/

/-- The sink is there. -/
def World.Has (w : World σ) : Sink → Prop
  | .stdout => True
  | .buffer id => id < w.buffers.length

/-- All that was written, wherever it went. -/
def printed (es : List Event) : Bytes := es.flatMap fun e => (e.output?.map Prod.snd).getD []

/-- Nothing was written elsewhere. -/
def WritesTo (k : Sink) (es : List Event) : Prop :=
  ∀ e ∈ es, ∀ out, e.output? = some out → out.1 = k

section

variable {w w' : World σ} {es es' : List Event} {k : Sink}

theorem Plays.has (plays : Plays w es w') (k : Sink) : w'.Has k ↔ w.Has k := by
  cases k with
  | stdout => exact Iff.rfl
  | buffer id => rw [World.Has, World.Has, plays.buffers, List.length_mapIdx]

/-- What events write is added to the sinks that are there. -/
theorem Plays.contents (plays : Plays w es w') (idle : w.writer = {}) (there : w.Has k) :
    w'.contents k = w.contents k ++ outputTo k es := by
  cases k with
  | stdout => exact (plays.idle idle).2
  | buffer id =>
    have there : id < w.buffers.length := there
    rw [World.contents, World.contents, plays.buffers]
    simp [there]

theorem WritesTo.append (first : WritesTo k es) (second : WritesTo k es') :
    WritesTo k (es ++ es') :=
  fun e he => (List.mem_append.1 he).elim (first e) (second e)

theorem WritesTo.outputTo (writes : WritesTo k es) (k' : Sink) :
    outputTo k' es = if k' = k then printed es else [] := by
  have each : ∀ e ∈ es, e.outputTo k' =
      if k' = k then (e.output?.map Prod.snd).getD [] else [] := fun e he => by
    rcases output : e.output? with _ | ⟨own, bytes⟩
    · simp [Event.outputTo, output]
    · obtain rfl : own = k := writes e he _ output
      simp [Event.outputTo, output, eq_comm]
  rw [Runbook.outputTo, List.flatMap_congr each]
  split
  · rfl
  · simp

end

/-! ## Sessions in step -/

/-- Every sink that a session holds. -/
def Session.sinks : Session → List Sink
  | .shell l => [l.sink]
  | .remote r => [r.sink, r.fallback.sink]
  | .custom c => [c.sink]

/-- The session sends all its output to the sink that it names. -/
def Session.InStep (s : Session) : Prop := ∀ k ∈ s.sinks, k = s.sink

namespace Session

variable {s t : Session} {o : Outcome} {es : List Event} {command : String}

@[simp] theorem mem_sinks_setSink {k k' : Sink} : k' ∈ (s.setSink k).sinks ↔ k' = k := by
  cases s <;> simp [setSink, sinks, RemoteShell.setSink]

theorem inStep_setSink (s : Session) (k : Sink) : (s.setSink k).InStep := by
  intro k' hk
  rw [sink_setSink]
  exact mem_sinks_setSink.1 hk

theorem Connects.sinks (connect : s.Connects (o, t) es) : t.sinks = s.sinks ∧ t.sink = s.sink := by
  cases connect with
  | shell | custom => exact ⟨rfl, rfl⟩
  | remote link =>
    obtain ⟨sink, fallback⟩ := link.orderly.sinks
    simp [Session.sinks, Session.sink, sink, fallback]

theorem Runs.sinks (run : Runs command s (o, t) es) : t.sinks = s.sinks ∧ t.sink = s.sink := by
  cases run with
  | shell | custom => exact ⟨rfl, rfl⟩
  | remote run =>
    obtain ⟨sink, fallback⟩ := run.orderly.sinks
    simp [Session.sinks, Session.sink, sink, fallback]

theorem Closes.sinks (close : s.Closes (o, t) es) : t.sinks = s.sinks ∧ t.sink = s.sink := by
  cases close with
  | shell | custom => exact ⟨rfl, rfl⟩
  | remote close => cases close <;> exact ⟨rfl, rfl⟩

theorem configure_sinks (s : Session) (d : Declarations) :
    (s.configure d).1.sinks = s.sinks ∧ (s.configure d).1.sink = s.sink := by
  cases s <;> exact ⟨rfl, rfl⟩

theorem inStep_congr (same : t.sinks = s.sinks ∧ t.sink = s.sink) (inStep : s.InStep) :
    t.InStep := by
  rw [InStep, same.1, same.2]
  exact inStep

end Session

theorem RemoteShell.Links.writesTo {r r' : RemoteShell} {o : Outcome} {es : List Event}
    (link : r.Links (o, r') es) (k : Sink) : WritesTo k es := by
  cases link <;> simp [WritesTo, Event.output?]

/-- **A command writes to the sink of its session**, on this machine as on another. -/
theorem Session.Runs.writesTo {s t : Session} {command : String} {o : Outcome} {es : List Event}
    (inStep : s.InStep) (run : Session.Runs command s (o, t) es) : WritesTo s.sink es := by
  cases run with
  | shell run =>
    obtain ⟨e | f⟩ := run <;> simp [WritesTo, Event.output?, Session.sink]
  | custom c answer => simp [WritesTo, Event.output?, Session.sink]
  | @remote r _ _ _ run =>
    have same : r.fallback.sink = r.sink := inStep _ (by simp [Session.sinks])
    cases run with
    | here _ run =>
      obtain ⟨e | f⟩ := run <;> simp [WritesTo, Event.output?, Session.sink, same]
    | unlinked _ link => exact link.writesTo _
    | there _ link _ speak =>
      refine (link.writesTo _).append ?_
      rw [link.orderly.sinks.1] at speak
      rcases speak with f | ⟨answer, e | u, f | u⟩ <;>
        simp [WritesTo, Event.output?, Session.sink, RemoteShell.noteUnflushed,
          RemoteShell.noteUnclosed]

/-- **Actions keep a session in step.** Afterwards its output goes where it went before, or to a sink
    that it was sent to. -/
theorem inStep_keeping (Allowed : Sink → Prop) : Keeping Allowed fun s _ t => s.InStep →
    t.InStep ∧ (t.sink = s.sink ∨ Allowed t.sink) where
  refl s inStep := ⟨inStep, .inl rfl⟩
  trans first second inStep := by
    obtain ⟨inStep, sink⟩ := first inStep
    obtain ⟨inStep, sink'⟩ := second inStep
    refine ⟨inStep, sink'.elim (fun same => ?_) .inr⟩
    rw [same]
    exact sink
  connect connect inStep := ⟨Session.inStep_congr connect.sinks inStep, .inl connect.sinks.2⟩
  run run inStep := ⟨Session.inStep_congr run.sinks inStep, .inl run.sinks.2⟩
  close close inStep := ⟨Session.inStep_congr close.sinks inStep, .inl close.sinks.2⟩
  configure s d inStep :=
    ⟨Session.inStep_congr (s.configure_sinks d) inStep, .inl (s.configure_sinks d).2⟩
  redirect s k allowed _ := ⟨s.inStep_setSink k, .inr (by simpa using allowed)⟩
  within {s k es t} _ _ := ⟨t.inStep_setSink s.sink, .inl (Session.sink_setSink _ _)⟩

/-! ## Points -/

/-- A sink that an action sends output to. -/
def Action.sink? : Action → Option Sink
  | .redirect k | .within k _ _ => some k
  | _ => none

/-- An action on a session, in a world. -/
structure Point (σ : Type) where
  session : Session
  action : Action
  world : World σ

namespace Point

variable (h : Host σ) (p : Point σ)

/-- What the action answers. -/
def answer : Answer := (p.action.perform h p.session p.world).1.1

/-- The session after the action. -/
def next : Session := (p.action.perform h p.session p.world).1.2

/-- The world after the action. -/
def after : World σ := (p.action.perform h p.session p.world).2

/-- What happens in the action. -/
def events : List Event := (p.after h).events.drop p.world.events.length

/-- Output goes where the session says, and is sent back where it went before. -/
structure Disciplined : Prop where
  /-- Nothing that was written before is held back. -/
  idle : p.world.writer = {}
  inStep : p.session.InStep
  there : p.world.Has p.session.sink
  /-- What a command writes is added to the sink of the session, and to no other. -/
  run : ∀ command, p.action = .run command → ∀ k, p.world.Has k →
    (p.after h).contents k =
      p.world.contents k ++ if k = p.session.sink then printed (p.events h) else []
  /-- The sink of the session is handed back when it is replaced. -/
  redirect : ∀ k, p.action = .redirect k →
    p.answer h = .previous p.session.sink ∧ ∀ k' ∈ (p.next h).sinks, k' = k
  within : ∀ k strict inside, p.action = .within k strict inside →
    ∀ k' ∈ (p.next h).sinks, k' = p.session.sink
  /-- A captured command answers all that it writes if it succeeds, and nothing of it goes anywhere
      else in any case. -/
  capture : ∀ command, p.action = .capture command →
    (∀ k' ∈ (p.next h).sinks, k' = p.session.sink) ∧
    (∀ text, p.answer h = .captured (.ok text) → text = Bytes.decodeLossy (printed (p.events h))) ∧
    ∀ k, p.world.Has k → (p.after h).contents k = p.world.contents k

end Point

mutual

/-- The points that an action comes to. -/
def Action.points (h : Host σ) : Action → Session → World σ → List (Point σ)
  | .within k strict inside, s, w =>
    ⟨s, .within k strict inside, w⟩ :: pointsAll h strict inside (s.setSink k) w
  | .capture command, s, w =>
    [⟨s, .capture command, w⟩,
      ⟨s.setSink (.buffer w.buffers.length), .run command, (Run.newBuffer w).2⟩]
  | a, s, w => [⟨s, a, w⟩]

/-- The points that actions come to; if `strict`, up to the first fault. -/
def pointsAll (h : Host σ) (strict : Bool) : List Action → Session → World σ → List (Point σ)
  | [], _, _ => []
  | a :: as, s, w =>
    let ((answer, s'), w') := a.perform h s w
    a.points h s w ++
      if strict && !answer.toOutcome.isOk then [] else pointsAll h strict as s' w'

end

section

variable {h : Host σ} {s : Session} {w : World σ}

theorem Point.events_of_plays {p : Point σ} {es : List Event}
    (plays : Plays p.world es (p.after h)) : p.events h = es := by
  rw [Point.events, plays.events, List.drop_left]

/-- What a command writes is added to the sink of its session, and to no other. -/
theorem written_by_run (idle : w.writer = {}) (inStep : s.InStep) (command : String) {k : Sink}
    (there : w.Has k) :
    (Point.after h ⟨s, .run command, w⟩).contents k =
      w.contents k ++ if k = s.sink then printed (Point.events h ⟨s, .run command, w⟩) else [] := by
  obtain ⟨es, plays, run⟩ := Session.run_plays h command s w
  have after : Point.after h ⟨s, .run command, w⟩ = (s.run h command w).2 := by
    simp only [Point.after, Action.perform, Run.bind_apply, Run.pure_apply]
  have happened : Point.events h ⟨s, .run command, w⟩ = es := Point.events_of_plays (after ▸ plays)
  rw [happened, after, plays.contents idle there, (run.writesTo inStep).outputTo]

/-- Where output went before, it goes again afterwards. -/
theorem sinks_after_within (k : Sink) (strict : Bool) (inside : List Action) :
    ∀ k' ∈ (Point.next h ⟨s, .within k strict inside, w⟩).sinks, k' = s.sink := by
  intro k' hk
  simp only [Point.next, Action.perform, Session.redirected, redirectedBy, Session.swapSink,
    Run.bind_apply, Run.pure_apply] at hk
  exact Session.mem_sinks_setSink.1 hk

/-- What a captured command writes is what it answers, and goes nowhere else. -/
theorem captured_alone (idle : w.writer = {}) (command : String) :
    (∀ k' ∈ (Point.next h ⟨s, .capture command, w⟩).sinks, k' = s.sink) ∧
    (∀ text, Point.answer h ⟨s, .capture command, w⟩ = .captured (.ok text) →
      text = Bytes.decodeLossy (printed (Point.events h ⟨s, .capture command, w⟩))) ∧
    ∀ k, w.Has k → (Point.after h ⟨s, .capture command, w⟩).contents k = w.contents k := by
  obtain ⟨es, o, t, plays, run, answer⟩ := capture_leads (k := Session.kind h) (s := s) w
    (Session.run_plays h command (s.setSink (.buffer w.buffers.length)))
  have writes := run.writesTo (s.inStep_setSink _)
  rw [Session.sink_setSink] at writes
  have result : (Action.capture command).perform h s w =
      ((.captured ((Session.kind h).capture s command w).1.1,
        ((Session.kind h).capture s command w).1.2), ((Session.kind h).capture s command w).2) := by
    simp only [Action.perform, Session.capture, Run.bind_apply, Run.pure_apply]
  have happened : Point.events h ⟨s, .capture command, w⟩ = es :=
    Point.events_of_plays (by rw [Point.after, result]; exact plays)
  refine ⟨fun k' hk => ?_, fun text ok => ?_, fun k there => ?_⟩
  · rw [Point.next, result, answer] at hk
    exact Session.mem_sinks_setSink.1 hk
  · rw [Point.answer, result, answer] at ok
    rw [happened]
    rcases o with e | u
    · cases ok
    · obtain rfl : _ = text := Except.ok.inj (Answer.captured.inj ok)
      rw [writes.outputTo, if_pos rfl]
  · -- the buffer of the capture was not there before
    have other : k ≠ .buffer w.buffers.length := by
      rintro rfl
      exact Nat.lt_irrefl _ there
    rw [Point.after, result, plays.contents idle there, writes.outputTo, if_neg other,
      List.append_nil]

/-- **An action on a session in step is disciplined.** -/
theorem Session.InStep.disciplined (idle : w.writer = {}) (inStep : s.InStep)
    (there : w.Has s.sink) (a : Action) : (Point.mk s a w).Disciplined h where
  idle := idle
  inStep := inStep
  there := there
  run command action k there := by
    obtain rfl : a = .run command := action
    exact written_by_run idle inStep command there
  redirect k action := by
    obtain rfl : a = .redirect k := action
    exact ⟨rfl, fun k' => Session.mem_sinks_setSink.1⟩
  within k strict inside action := by
    obtain rfl : a = .within k strict inside := action
    exact sinks_after_within k strict inside
  capture command action := by
    obtain rfl : a = .capture command := action
    exact captured_alone idle command

mutual

/-- All points that an action comes to are disciplined. -/
theorem Action.points_disciplined : ∀ (a : Action) {s : Session} {w : World σ},
    w.writer = {} → s.InStep → w.Has s.sink → (∀ b ∈ a.parts, ∀ k, b.sink? = some k → w.Has k) →
    ∀ p ∈ a.points h s w, p.Disciplined h
  | .within k strict inside, s, w, idle, inStep, there, sinks => by
    rw [Action.parts] at sinks
    obtain ⟨here, meantime⟩ := List.forall_mem_cons.1 sinks
    refine List.forall_mem_cons.2 ⟨inStep.disciplined idle there _, ?_⟩
    exact pointsAll_disciplined inside idle (s.inStep_setSink k) (by simpa using here k rfl)
      meantime
  | .capture command, s, w, idle, inStep, there, _ => by
    refine List.forall_mem_cons.2 ⟨inStep.disciplined idle there _, ?_⟩
    have drained : (Run.newBuffer w).2.writer = {} := idle
    refine List.forall_mem_singleton.2 ((s.inStep_setSink _).disciplined drained ?_ _)
    simp [World.Has, Run.newBuffer]
  | .connect, _, _, idle, inStep, there, _ | .run _, _, _, idle, inStep, there, _
  | .close, _, _, idle, inStep, there, _ | .configure _, _, _, idle, inStep, there, _
  | .redirect _, _, _, idle, inStep, there, _ | .inspect, _, _, idle, inStep, there, _ =>
    List.forall_mem_singleton.2 (inStep.disciplined idle there _)

theorem pointsAll_disciplined {strict : Bool} : ∀ (as : List Action) {s : Session} {w : World σ},
    w.writer = {} → s.InStep → w.Has s.sink →
    (∀ b ∈ partsOf as, ∀ k, b.sink? = some k → w.Has k) →
    ∀ p ∈ pointsAll h strict as s w, p.Disciplined h
  | [], _, _, _, _, _, _ => List.forall_mem_nil _
  | a :: as, s, w, idle, inStep, there, sinks => by
    obtain ⟨first, rest⟩ := List.forall_mem_append.1 sinks
    refine List.forall_mem_append.2 ⟨Action.points_disciplined a idle inStep there first, ?_⟩
    obtain ⟨es, plays, kept⟩ := (inStep_keeping w.Has).perform h a s
      (fun k hk => first _ hk k rfl) w
    obtain ⟨inStep', sink⟩ := kept inStep
    split
    · exact List.forall_mem_nil _
    · have drained := (plays.idle idle).1
      refine pointsAll_disciplined as drained inStep' ((plays.has _).2 ?_) fun b hb k hk =>
        (plays.has k).2 (rest b hb k hk)
      exact sink.elim (fun same => same ▸ there) id

end

end

/-- **The discipline of sinks.** A new session on this or another machine is used in any way, with
    sinks that are there, and with nothing held back at first. At every point its output goes
    where it says, what sends it elsewhere for a while sends it back, and still nothing that was
    written before is held back. -/
theorem sinks_disciplined (h : Host σ) {st : Settings} {s : Session}
    (fresh : s = .shell (.ofSettings st) ∨ s = .remote (.ofSettings st)) (strict : Bool)
    (as : List Action) {w : World σ} (idle : w.writer = {})
    (sinks : ∀ a ∈ partsOf as, ∀ k, a.sink? = some k → w.Has k) :
    ∀ p ∈ pointsAll h strict as s w, p.Disciplined h := by
  have stdout : s.sink = .stdout := by rcases fresh with rfl | rfl <;> rfl
  have inStep : s.InStep := by
    rcases fresh with rfl | rfl <;> simp [Session.InStep, Session.sinks, Session.sink,
      LocalShell.ofSettings, RemoteShell.ofSettings]
  refine pointsAll_disciplined as idle inStep ?_ sinks
  rw [stdout]
  trivial

/-- A host whose commands on other machines print their own line and fail. -/
def Host.echoing : Host Unit :=
  { Host.granting with execute := fun _ command => pure ⟨Bytes.ofUnits command, .ok 1⟩ }

/-- The output of a session goes to one buffer for a while, on another machine first and then on
    this one, and is sent on to another buffer in the meantime. -/
def detours : List Action :=
  [.configure { addr := some "web:22" }, .run "far",
    .within (.buffer 0) false [.run "away", .capture "lost", .configure { addr := some "" },
      .run homeCommand, .redirect (.buffer 1), .capture homeCommand],
    .run homeCommand]

/-- The text of a captured command that succeeded. -/
def Answer.text? : Answer → Option String
  | .captured (.ok text) => some text
  | _ => none

/-- The detours are disciplined. The captured command that succeeds answers what it wrote, and the
    buffer that was not used at the end stays empty. -/
theorem detours_disciplined :
    (∀ a ∈ partsOf detours, ∀ k, a.sink? = some k →
      World.Has (σ := Unit) { host := (), buffers := [[], []] } k) ∧
    (∀ p ∈ pointsAll Host.echoing false detours (.remote (.ofSettings {}))
      { host := (), buffers := [[], []] }, p.Disciplined Host.echoing) ∧
    ((pointsAll Host.echoing false detours (.remote (.ofSettings {}))
      { host := (), buffers := [[], []] }).filterMap fun p =>
        (p.answer Host.echoing).text?) = ["/root\n"] ∧
    ((performAll Host.echoing false detours (.remote (.ofSettings {}))
      { host := (), buffers := [[], []] }).2.stdout = Bytes.ofUnits "far/root\n" ∧
    (performAll Host.echoing false detours (.remote (.ofSettings {}))
      { host := (), buffers := [[], []] }).2.buffers = [Bytes.ofUnits "away/root\n", []]) := by
  have sinks : ∀ a ∈ partsOf detours, ∀ k, a.sink? = some k →
      World.Has (σ := Unit) { host := (), buffers := [[], []] } k := by
    simp [detours, partsOf, Action.parts, Action.sink?, World.Has]
  refine ⟨sinks, sinks_disciplined Host.echoing (.inr rfl) false detours rfl sinks, ?_⟩
  decide +kernel

end Runbook
