/-
  What executions write to standard output.

  A command of the document is announced before it is run; a captured command is not. Which
  is which can be told without looking at where their output goes.

  * `leafOutputs none es`: the commands that ended after they were announced, and all that
    each of them wrote;
  * `SessionKind.insisting`: sessions that refuse a command while anything is held back by the
    writer of standard output; `execute_insisting`: they are never brought to refuse one;
  * `rerun_output`: an execution writes what its commands wrote, one after the other, and
    nothing else, leaves no sink redirected and nothing held back.
-/
import Runbook.Proofs.Chain.Rerun
import Runbook.Proofs.Erasure
import Runbook.Proofs.Session.Sinks

namespace Runbook

/-- The command of the document that is announced: the name of its target, and its line. -/
def Event.announced? : Event → Option (String × String)
  | .notice (.attempt target line) => some (target, line)
  | _ => none

/-- The command that an event ends, and all that it wrote, wherever that went. -/
def Event.ended? : Event → Option (String × Bytes)
  | .opened _ errand (.error _) => some (errand.command, [])
  | .executed _ command _ answer => some (command, answer.stdout)
  | .spawned p _ (.ok finished) => some (p.command, finished.stdout)
  | .spawned p _ (.error _) => some (p.command, [])
  | .customRan _ command _ answer => some (command, answer.stdout)
  | _ => none

/-- The commands among some events that end after they were announced, with all that each of
    them wrote. -/
def leafOutputs : Option String → List Event → List (String × Bytes)
  | _, [] => []
  | announced, e :: es =>
    match e.announced?, e.ended? with
    | some (_, line), _ => leafOutputs (some line) es
    | none, some (command, bytes) =>
      if announced = some command then (command, bytes) :: leafOutputs none es
      else leafOutputs announced es
    | none, none => leafOutputs announced es

/-- The commands that are announced, each with the name of its target. -/
def announcements (es : List Event) : List (String × String) := es.filterMap Event.announced?

/-- A command with the name of the place that it is run at. -/
def named (leaf : Option String × String) : String × String := (leaf.1.getD localName, leaf.2)

/-! ## Commands and what they wrote -/

/-- What the events wrote to standard output is what these commands wrote, which are those
    that were attempted, each announced by the name of its place. -/
structure Reports (es : List Event) (outs : List (String × Bytes)) : Prop where
  leaves : ∀ es', leafOutputs none (es ++ es') = outs ++ leafOutputs none es'
  written : outputTo .stdout es = outs.flatMap Prod.snd
  attempted : outs.map Prod.fst = (attempts es).map Prod.snd
  announced : announcements es = (attempts es).map named

/-- No command is announced or attempted, and nothing is written to standard output. -/
def Hushed (es : List Event) : Prop :=
  ∀ e ∈ es, e.announced? = none ∧ e.attempt? = none ∧ e.outputTo .stdout = []

theorem Hushed.append {es es' : List Event} (hushed : Hushed es) (hushed' : Hushed es') :
    Hushed (es ++ es') := List.forall_mem_append.2 ⟨hushed, hushed'⟩

/-- A command that ends without being announced is no command of the document. -/
theorem leafOutputs_unannounced {e : Event} (es : List Event) (h : e.announced? = none) :
    leafOutputs none (e :: es) = leafOutputs none es := by
  rw [leafOutputs, h]
  rcases e.ended? with _ | ⟨command, bytes⟩ <;> rfl

namespace Reports

variable {es es' : List Event} {outs outs' : List (String × Bytes)}

theorem append (h : Reports es outs) (h' : Reports es' outs') :
    Reports (es ++ es') (outs ++ outs') where
  leaves rest := by rw [List.append_assoc, h.leaves, h'.leaves, List.append_assoc]
  written := by rw [outputTo_append, h.written, h'.written, List.flatMap_append]
  attempted := by
    rw [List.map_append, h.attempted, h'.attempted, attempts_append, List.map_append]
  announced := by
    rw [announcements, List.filterMap_append, attempts_append, List.map_append]
    exact congrArg₂ _ h.announced h'.announced

theorem hushed (hushed : Hushed es) : Reports es [] := by
  induction es with
  | nil => exact ⟨fun _ => rfl, rfl, rfl, rfl⟩
  | cons e es ih =>
    obtain ⟨⟨unannounced, unattempted, silent⟩, hushed⟩ := List.forall_mem_cons.1 hushed
    obtain ⟨leaves, written, attempted, announced⟩ := ih hushed
    refine ⟨fun rest => ?_, ?_, ?_, ?_⟩
    · rw [List.cons_append, leafOutputs_unannounced _ unannounced, leaves]
    · rw [outputTo, List.flatMap_cons, silent]
      exact written
    · rw [attempts, List.filterMap_cons_none unattempted]
      exact attempted
    · rw [attempts, announcements, List.filterMap_cons_none unattempted,
        List.filterMap_cons_none unannounced]
      exact announced

/-- Events before that report nothing. -/
theorem after (before : Hushed es) (h : Reports es' outs) : Reports (es ++ es') outs :=
  (Reports.hushed before).append h

/-- Events behind that report nothing. -/
theorem followed (h : Reports es outs) (behind : Hushed es') : Reports (es ++ es') outs := by
  have all := h.append (Reports.hushed behind)
  rwa [List.append_nil] at all

/-- All that was written. -/
theorem leafOutputs (h : Reports es outs) : Runbook.leafOutputs none es = outs := by
  have all := h.leaves []
  rwa [List.append_nil, Runbook.leafOutputs, List.append_nil] at all

end Reports

/-! ## What happens at a place -/

variable {st : Settings} {pl : Place} {line : String} {o : Outcome} {es : List Event}

/-- A command of the document writes to standard output what it writes. -/
theorem Exchanges.reports (exchange : Exchanges st .stdout line pl o es) :
    ∃ bytes, Reports (.notice (.attempt pl.name line) :: es) [(line, bytes)] := by
  rcases exchange with ⟨⟨_ | finished⟩⟩ | ⟨f | ⟨answer, flushed, closed⟩⟩
  · exact ⟨[], fun _ => if_pos rfl, rfl, rfl, rfl⟩
  · exact ⟨finished.stdout, fun _ => if_pos rfl, rfl, rfl, rfl⟩
  · exact ⟨[], fun _ => if_pos rfl, rfl, rfl, rfl⟩
  · -- notices are left to the end, whether they are given or not
    refine ⟨answer.stdout, ?_⟩
    rcases flushed with e | u <;> rcases closed with f | u <;>
      exact ⟨fun _ => if_pos rfl, rfl, rfl, rfl⟩

/-- A captured command is not announced and writes nothing to standard output. -/
theorem Exchanges.hushed {id : Nat} (exchange : Exchanges st (.buffer id) line pl o es) :
    Hushed es := by
  rcases exchange with ⟨⟨_ | finished⟩⟩ | ⟨f | ⟨answer, _ | _, _ | _⟩⟩ <;>
    simp [Hushed, Event.announced?, Event.attempt?, Event.outputTo, Event.output?,
      RemoteShell.noteUnflushed, RemoteShell.noteUnclosed]

theorem hushed_notice {n : Notice} (unannounced : (Event.notice n).announced? = none) :
    Hushed [.notice n] :=
  List.forall_mem_singleton.2 ⟨unannounced, rfl, rfl⟩

theorem announced?_of_credentials {n : Notice} (own : n.origin = .credentials) :
    (Event.notice n).announced? = none := by
  cases n <;> first | rfl | cases own

theorem Quiet.hushed (quiet : Quiet st pl es) : Hushed es := by
  induction quiet with
  | nil => exact List.forall_mem_nil _
  | notice own _ ih => exact (hushed_notice (announced?_of_credentials own)).append ih
  | exchange exchange _ ih => exact exchange.hushed.append ih

theorem Prepares.hushed {p p' : Params} {d : Option DiscoverySettings} {encl : Option Place}
    (prepare : Prepares st p d encl p' es) : Hushed es := by
  cases prepare with
  | off => exact List.forall_mem_nil _
  | alone => exact hushed_notice rfl
  | through quiet _ => exact quiet.hushed

/-- Nothing is to be heard of a scope before its commands. -/
theorem Prepares.dials_hushed {p p' : Params} {d : Option DiscoverySettings}
    {encl : Option Place} (prepare : Prepares st p d encl p' es) (answer : Except Failure Nat) :
    Hushed (es ++ dialing st p' answer) := by
  refine prepare.hushed.append ?_
  rcases answer with f | serial <;>
    simp [Hushed, dialing, Event.announced?, Event.attempt?, Event.outputTo, Event.output?]

theorem hangingUp_hushed (name : String) (c : Connection) (answer : Except Failure Unit) :
    Hushed (hangingUp name c answer) := by
  rcases answer with f | u <;>
    simp [Hushed, hangingUp, RemoteShell.hangUp, noteFault, Event.announced?, Event.attempt?,
      Event.outputTo, Event.output?]

theorem noteFault_hushed (o : Outcome) : Hushed (noteFault .commandFailed o) := by
  rcases o with e | u
  · exact hushed_notice rfl
  · exact List.forall_mem_nil _

/-! ## Whole executions -/

mutual

/-- **A visit reports the commands that it attempts.** -/
theorem Visit.reports : ∀ {encl i o es i'}, Visit st encl i o es i' → ∃ outs, Reports es outs
  | _, _, _, _, _, .command exchange => by
    obtain ⟨bytes, reports⟩ := exchange.reports
    exact ⟨_, reports.followed (noteFault_hushed _)⟩
  | _, _, _, _, _, .borrowed _ _ body => by
    obtain ⟨outs, reports⟩ := body.reports
    exact ⟨outs, .after (hushed_notice rfl) (.after (hushed_notice rfl)
      (reports.followed (hushed_notice rfl)))⟩
  | _, _, _, _, _, .grounded _ _ body => by
    obtain ⟨outs, reports⟩ := body.reports
    exact ⟨outs, .after (hushed_notice rfl) (reports.followed (hushed_notice rfl))⟩
  | _, _, _, _, _, .refused _ _ prepare f => by
    have refused := prepare.dials_hushed (.error f)
    exact ⟨[], .after (hushed_notice rfl) (.hushed (refused.append (hushed_notice rfl)))⟩
  | _, _, _, _, _, @Visit.connected _ _ s p items p' ds serial o es items' _ _ prepare body
      answer => by
    obtain ⟨outs, reports⟩ := body.reports
    have entered := reports.after (prepare.dials_hushed (.ok serial))
    have closed := entered.followed (hangingUp_hushed s.name ⟨p.address, serial⟩ answer)
    exact ⟨outs, .after (hushed_notice rfl) (closed.followed (hushed_notice rfl))⟩

theorem Visits.reports : ∀ {pl is o es is'}, Visits st pl is o es is' → ∃ outs, Reports es outs
  | _, _, _, _, _, .nil => ⟨[], .hushed (List.forall_mem_nil _)⟩
  | _, _, _, _, _, .stop first => first.reports
  | _, _, _, _, _, .next first rest => by
    obtain ⟨outs, reports⟩ := first.reports
    obtain ⟨outs', reports'⟩ := rest.reports
    exact ⟨outs ++ outs', reports.append reports'⟩

end

/-! ## Sessions that insist -/

section

variable {σ S α : Type}

/-- The kind of sessions that refuse a command while anything is held back by the writer of
    standard output. -/
def SessionKind.insisting (k : SessionKind σ S) : SessionKind σ S where
  identify := k.identify
  isPassThrough := k.isPassThrough
  params? := k.params?
  changeableParams? := k.changeableParams?
  withParams := k.withParams
  swapSink := k.swapSink
  connect := k.connect
  run s line := fun w =>
    if w.writer = {} then k.run s line w else ((.error (.io "output is held back"), s), w)
  close := k.close

/-- The same world twice, with nothing held back. -/
def idleTwice : Pairing σ σ where
  Worlds w w' := w' = w ∧ w.writer = {}
  note := by
    rintro _ w ⟨rfl, idle⟩ n
    exact ⟨rfl, idle⟩

/-- Nothing is held back after an operation, so it can be taken beside itself. -/
theorem Run.Gives.idleTwice {m : Run σ (α × S)} {Q : α × S → List Event → Prop}
    (gives : m.Gives played Q) : m.Alike idleTwice (Both (Bares id)) m := by
  rintro _ w ⟨rfl, idle⟩
  obtain ⟨es, plays, -⟩ := gives w
  exact ⟨⟨rfl, rfl⟩, rfl, (plays.idle idle).1⟩

variable (h : Host σ)

theorem insisting_twins :
    (Session.kind h).insisting.Twins (Session.kind h) idleTwice (Bares id) where
  buffered :=
    { buffers := by
        rintro _ w ⟨rfl, -⟩
        rfl
      withBuffers := by
        rintro _ w ⟨rfl, idle⟩ bs
        exact ⟨rfl, idle⟩ }
  identify := by
    rintro _ s rfl
    rfl
  isPassThrough := by
    rintro _ s rfl
    rfl
  address := by
    rintro _ s rfl
    rfl
  changeable := by
    rintro _ s rfl
    rfl
  learn := by
    rintro _ s p p' rfl hp hp' keys -
    obtain rfl := Option.some.inj (hp.symm.trans hp')
    exact ⟨rfl, rfl⟩
  swapSink := by
    rintro _ s rfl sink
    exact ⟨rfl, rfl⟩
  connect := by
    rintro _ s rfl
    exact (s.connect_plays h).idleTwice
  run := by
    rintro _ s rfl line _ w ⟨rfl, idle⟩
    have ran : (Session.kind h).insisting.run s line w = (Session.kind h).run s line w :=
      if_pos idle
    rw [ran]
    exact (Session.run_plays h line s).idleTwice w w ⟨rfl, idle⟩
  close := by
    rintro _ s rfl
    exact (s.close_plays h).idleTwice

/-- **Nothing is held back when a command is started**: an execution on sessions that insist on
    that is the same, if nothing is held back at first. So no process on this machine writes in
    front of what a command on another machine has written before. -/
theorem execute_insisting (c : Chain) (parent : Option Session) {w : World σ}
    (idle : w.writer = {}) :
    (Session.kind h).insisting.execute c parent w = c.execute h parent w ∧
      (c.execute h parent w).2.writer = {} := by
  have around : Option.Rel (Bares id) parent parent := by
    cases parent with
    | none => exact .none
    | some s => exact .some rfl
  have alike := (insisting_twins h).paired.execute c.alike_map around w w ⟨rfl, idle⟩
  rw [Chain.map_id] at alike
  obtain ⟨⟨same, parents, chains⟩, worlds, drained⟩ := alike
  unfold Chain.execute
  rw [worlds]
  refine ⟨Prod.ext (Prod.ext same (Prod.ext ?_ ?_)) worlds.symm, drained⟩
  · exact ((Bares.of_rel parents).trans (congrFun Option.map_id_fun _)).symm
  · exact ((Chain.eq_map chains).trans (Chain.map_id _)).symm

/-- Nothing is held back, however often a chain was executed. -/
theorem rerun_idle (c : Chain) {w : World σ} (idle : w.writer = {}) (j : Nat) :
    (c.rerun h w j).2.writer = {} := by
  induction j with
  | zero => exact idle
  | succ j ih => exact (execute_insisting h (c.rerun h w j).1 none ih).2

end

/-- No sink of a session at rest is redirected. -/
theorem sinks_resting (p : Params) : (Session.resting st p).sinks = [.stdout, .stdout] := rfl

/-- **An execution writes to standard output what its commands wrote**, one after the other, on
    every host and however often the chain was executed before: these are the commands that it
    attempts, the first ones of the document. Nothing is held back by the writer when a command
    is started, nor afterwards, and all sinks are standard output again. -/
theorem rerun_output {σ : Type} (h : Host σ) {document : Node} {c : Chain} {notices : List Event}
    (compiled : Chain.ofDocument st document = (.ok c, notices)) (w : World σ)
    (idle : w.writer = {}) (j : Nat) :
    (c.rerun h w (j + 1)).2.stdout =
        (c.rerun h w j).2.stdout ++ (leafOutputs none (c.trace h w j)).flatMap Prod.snd ∧
      (leafOutputs none (c.trace h w j)).map Prod.fst = (attempts (c.trace h w j)).map Prod.snd ∧
      attempts (c.trace h w j) <+: c.leaves ∧
      (Session.kind h).insisting.execute (c.rerun h w j).1 none (c.rerun h w j).2 =
        (c.rerun h w j).1.execute h none (c.rerun h w j).2 ∧
      (c.rerun h w (j + 1)).2.writer = {} ∧
      ∀ s ∈ (c.rerun h w (j + 1)).1.scopes, ∀ sink ∈ s.session.sinks, sink = .stdout := by
  have rests := ofDocument_rests compiled
  have drained : (c.rerun h w j).2.writer = {} := rerun_idle h c idle j
  obtain ⟨plays, visit⟩ := rerun_plays (h := h) w j rests
  obtain ⟨outs, reports⟩ := visit.reports
  obtain ⟨again, written⟩ := plays.idle drained
  refine ⟨?_, ?_, (rerun_failFast (h := h) w j rests).inOrder,
    (execute_insisting h _ none drained).1, again, ?_⟩
  · rw [written, reports.written, reports.leafOutputs]
  · rw [reports.leafOutputs, reports.attempted]
  · intro s hs sink among
    obtain ⟨p, hp⟩ := rests_of_kept (rerun_kept (h := h) w (j + 1) rests) s hs
    rw [hp, sinks_resting] at among
    simpa using among

/-- A host whose commands write something. On the other machine they leave a line unfinished, and
    the last one on this machine fails after it has written. -/
def Host.halting : Host Unit :=
  { Host.granting with
    execute := fun _ _ => pure ⟨Bytes.ofUnits "stopped, ", .ok 0⟩
    spawn := fun p =>
      if p.command = "make" then pure (.ok ⟨Bytes.ofUnits "made\n", [], .exited 0⟩)
      else if p.command = "report" then pure (.ok ⟨Bytes.ofUnits "no report", [], .exited 1⟩)
      else Host.granting.spawn p }

/-- The sample writes what its commands write, in their order, and nothing of what is captured for
    the key of the other machine. -/
theorem sample_output : (sampleChain.rerun Host.halting { host := () } 1).2.stdout =
    Bytes.ofUnits "made\nstopped, no report" := by
  have written := (rerun_output Host.halting sample_compiles { host := () } rfl 0).1
  have outputs : leafOutputs none (sampleChain.trace Host.halting { host := () } 0) =
      [("make", Bytes.ofUnits "made\n"), ("restart", Bytes.ofUnits "stopped, "),
        ("report", Bytes.ofUnits "no report")] := by
    decide +kernel
  rw [written, outputs]
  rfl

end Runbook
