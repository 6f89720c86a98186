/-
  Chains run in order and stop at the first fault.

  The steps of an execution are the dials, the commands of the document and the ends of
  connections. Captured commands are none of its steps: discovery looks at their answers,
  and what they come to is nobody's fault.

  * `Event.attempt?` is the command that an event attempts, with the address it is sent to;
    `Event.fault?` is the fault of the step that an event ends;
  * `FailFast leaves o es`: the commands of `leaves` were attempted in order up to the first
    fault, which is what everything came to;
  * `execute_failFast`: so is every execution of a compiled chain, on every host.
-/
import Runbook.Proofs.Chain.Compiled
import Runbook.Proofs.Chain.Visit

namespace Runbook

/-- The command of the document that is attempted: the address it is sent to, nothing for
    this machine, and its line. -/
def Event.attempt? : Event → Option (Option String × String)
  | .opened c ⟨line, .stdout⟩ _ => some (some c.address, line)
  | .spawned p .stdout _ => some (none, p.command)
  | _ => none

/-- The fault of a step that failed: a dial, a command of the document, or the end of a
    connection. A command has failed if it could not be started, if its channel was lost, or if
    it ended with anything but zero. -/
def Event.fault? : Event → Option Fault
  | .dialed d (.error f) => some (.unreachable d.address f.text)
  | .opened c ⟨line, .stdout⟩ (.error f) => some (.failed c.address line f.text)
  | .executed c line .stdout ⟨_, .error f⟩ => some (.failed c.address line f.text)
  | .executed c line .stdout ⟨_, .ok status⟩ =>
    if status = 0 then none
    else some (.failed c.address line ("exit status: " ++ toString status))
  | .spawned p .stdout (.error e) =>
    some (.failed "localhost" p.command ("failed to spawn '" ++ p.shell ++ "': " ++ e))
  | .spawned p .stdout (.ok ⟨_, _, .exited code⟩) =>
    if code = 0 then none
    else some (.failed "localhost" p.command ("exit code: Some(" ++ toString code ++ ")"))
  | .spawned p .stdout (.ok ⟨_, _, .killed⟩) =>
    some (.failed "localhost" p.command "exit code: None")
  | .disconnected c (.error f) => some (.unreachable c.address f.text)
  | _ => none

/-- A command on another machine comes to the fault that its end shows. -/
theorem fault?_executed (c : Connection) (line : String) (answer : Executed) :
    (Event.executed c line .stdout answer).fault? =
      (RemoteShell.outcome c.address line answer.status).fault? := by
  obtain ⟨bytes, f | status⟩ := answer
  · rfl
  · rw [Event.fault?, RemoteShell.outcome]
    split <;> rfl

/-- A command on this machine comes to the fault that its process shows. -/
theorem fault?_spawned (l : LocalShell) (line : String) (answer : Except String Finished) :
    (Event.spawned (l.process line) .stdout answer).fault? =
      (l.outcome line (answer.map (·.ending))).fault? := by
  obtain e | ⟨out, err, code | _⟩ := answer
  · rfl
  · by_cases zero : code = 0
    · subst zero
      rfl
    · have failed : l.outcome line (.ok (.exited code)) =
          .error (.failed localName line (Ending.exited code).describe) :=
        if_neg fun same => zero (Ending.exited.inj same)
      rw [Except.map, failed]
      exact if_neg zero
  · rfl

/-- The commands of the document that were attempted. -/
def attempts (es : List Event) : List (Option String × String) := es.filterMap Event.attempt?

/-- The faults of the steps that failed. -/
def faults (es : List Event) : List Fault := es.filterMap Event.fault?

@[simp] theorem attempts_nil : attempts [] = [] := rfl

@[simp] theorem attempts_append (es es' : List Event) :
    attempts (es ++ es') = attempts es ++ attempts es' := List.filterMap_append

@[simp] theorem faults_append (es es' : List Event) :
    faults (es ++ es') = faults es ++ faults es' := List.filterMap_append

theorem head?_faults_cons (e : Event) (es : List Event) :
    (faults (e :: es)).head? = e.fault?.or (faults es).head? := by
  rcases he : e.fault? with _ | f <;> simp [faults, he]

/-- Commands were attempted in order up to the first fault. -/
structure FailFast (leaves : List (Option String × String)) (o : Outcome) (es : List Event) :
    Prop where
  inOrder : attempts es <+: leaves
  /-- Nothing is attempted after a step that failed. -/
  stops : es.Pairwise fun e e' => e.fault? ≠ none → e'.attempt? = none
  /-- The first fault is what everything came to. -/
  outcome : o.fault? = (faults es).head?
  /-- Without a fault everything was attempted. -/
  complete : o = .ok () → attempts es = leaves

theorem attempts_eq_nil {es : List Event} : attempts es = [] ↔ ∀ e ∈ es, e.attempt? = none :=
  List.filterMap_eq_nil_iff

theorem faults_eq_nil {es : List Event} : faults es = [] ↔ ∀ e ∈ es, e.fault? = none :=
  List.filterMap_eq_nil_iff

namespace FailFast

variable {l l' : List (Option String × String)} {o o' : Outcome} {es es' : List Event}

theorem stops_of_silent (silent : attempts es = []) :
    es.Pairwise fun e e' => e.fault? ≠ none → e'.attempt? = none :=
  List.pairwise_of_forall_mem_list fun _ _ e' he' _ => attempts_eq_nil.1 silent e' he'

/-- Events that attempt nothing. -/
theorem idle (silent : attempts es = []) (outcome : o.fault? = (faults es).head?) :
    FailFast [] o es where
  inOrder := by simp [silent]
  stops := stops_of_silent silent
  outcome := outcome
  complete _ := silent

/-- **The rule for sequences.** After a fault nothing more may be attempted. -/
theorem append (h : FailFast l o es) (next : o = .ok () → FailFast l' o' es')
    (unwind : o ≠ .ok () → attempts es' = []) :
    FailFast (l ++ l') (o.and o') (es ++ es') := by
  rcases o with e | u
  · -- a fault before: nothing of the second part is attempted
    have silent := unwind (by simp)
    refine ⟨?_, ?_, ?_, by simp⟩
    · rw [attempts_append, silent, List.append_nil]
      exact h.inOrder.trans (List.prefix_append l l')
    · refine List.pairwise_append.2 ⟨h.stops, stops_of_silent silent, fun a _ b hb _ => ?_⟩
      exact attempts_eq_nil.1 silent b hb
    · have head : some e = (faults es).head? := h.outcome
      rw [faults_append, List.head?_append, ← head]
      rfl
  · have rest := next rfl
    have clean : faults es = [] := List.head?_eq_none_iff.1 h.outcome.symm
    refine ⟨?_, ?_, ?_, ?_⟩
    · rw [attempts_append, h.complete rfl]
      exact (List.prefix_append_right_inj l).2 rest.inOrder
    · refine List.pairwise_append.2 ⟨h.stops, rest.stops, fun a ha b _ fault => ?_⟩
      exact absurd (faults_eq_nil.1 clean a ha) fault
    · rw [faults_append, clean]
      exact rest.outcome
    · intro done
      rw [attempts_append, h.complete rfl, rest.complete done]

/-- After a fault the commands that follow are not attempted. -/
theorem cut {e : Fault} (h : FailFast l (.error e) es) (l' : List (Option String × String)) :
    FailFast (l ++ l') (.error e) es where
  inOrder := h.inOrder.trans (List.prefix_append l l')
  stops := h.stops
  outcome := h.outcome
  complete done := by cases done

/-- Events before that come to nothing. -/
theorem after (before : FailFast [] (.ok ()) es) (h : FailFast l o es') :
    FailFast l o (es ++ es') :=
  before.append (fun _ => h) fun fault => absurd rfl fault

/-- Events behind that attempt nothing: what they come to counts if nothing went wrong before. -/
theorem wind (h : FailFast l o es) (close : FailFast [] o' es') :
    FailFast l (o.and o') (es ++ es') := by
  have wound := h.append (fun _ => close) fun _ => List.prefix_nil.1 close.inOrder
  rwa [List.append_nil] at wound

/-- Notices before change nothing. -/
theorem noted (h : FailFast l o es) (n : Notice) : FailFast l o (.notice n :: es) := by
  have note : FailFast [] (.ok ()) [.notice n] := .idle rfl rfl
  exact note.after h

/-- Notices behind change nothing. -/
theorem followed (h : FailFast l o es) {ns : List Event} (silent : attempts ns = [])
    (clean : faults ns = []) : FailFast l o (es ++ ns) := by
  have idle : FailFast [] (.ok ()) ns := .idle silent (by rw [clean]; rfl)
  have wound := h.wind idle
  rwa [Outcome.and_ok] at wound

end FailFast

/-! ## What happens at a place -/

variable {st : Settings} {pl : Place} {line : String} {o : Outcome} {es : List Event}

/-- A command of the document is one attempt, and its fault is what it comes to. -/
theorem Exchanges.failFast (exchange : Exchanges st .stdout line pl o es) :
    FailFast [(pl.map (·.address), line)] o es := by
  have alone : ∀ {e : Event} {es : List Event}, e.attempt? = some (pl.map (·.address), line) →
      attempts es = [] → o.fault? = (faults (e :: es)).head? →
      FailFast [(pl.map (·.address), line)] o (e :: es) := by
    intro e es attempt silent outcome
    have all : attempts (e :: es) = [(pl.map (·.address), line)] := by
      rw [attempts, List.filterMap_cons_some attempt]
      exact congrArg _ silent
    refine ⟨all ▸ List.prefix_rfl, List.pairwise_cons.2 ⟨fun e' he' _ => ?_, ?_⟩, outcome,
      fun _ => all⟩
    · exact attempts_eq_nil.1 silent e' he'
    · exact FailFast.stops_of_silent silent
  rcases exchange with ⟨⟨answer⟩⟩ | ⟨f | ⟨answer, flushed, closed⟩⟩
  · refine alone rfl rfl ?_
    have failed := fault?_spawned { LocalShell.ofSettings st with sink := .stdout } line answer
    rw [head?_faults_cons, failed]
    exact (Option.or_none ..).symm
  · exact alone rfl rfl rfl
  · refine alone rfl ?_ ?_
    · rcases flushed with e | u <;> rcases closed with f | u <;> rfl
    · rw [head?_faults_cons, head?_faults_cons, fault?_executed]
      rcases flushed with e | u <;> rcases closed with f | u <;> exact (Option.or_none ..).symm

/-- A captured command is no step of the execution. -/
theorem Exchanges.unattempted {id : Nat} (exchange : Exchanges st (.buffer id) line pl o es) :
    attempts es = [] ∧ faults es = [] := by
  rcases exchange with ⟨⟨answer⟩⟩ | ⟨f | ⟨answer, flushed, closed⟩⟩
  · exact ⟨rfl, rfl⟩
  · exact ⟨rfl, rfl⟩
  · rcases flushed with e | u <;> rcases closed with f | u <;> exact ⟨rfl, rfl⟩

theorem Quiet.unattempted (quiet : Quiet st pl es) : attempts es = [] ∧ faults es = [] := by
  induction quiet with
  | nil => exact ⟨rfl, rfl⟩
  | notice _ _ ih => exact ih
  | exchange exchange _ ih =>
    obtain ⟨silent, clean⟩ := exchange.unattempted
    simp [silent, clean, ih]

theorem Prepares.failFast {p p' : Params} {d : Option DiscoverySettings} {encl : Option Place}
    (prepare : Prepares st p d encl p' es) : FailFast [] (.ok ()) es := by
  cases prepare with
  | off | alone => exact .idle rfl rfl
  | through quiet _ =>
    obtain ⟨silent, clean⟩ := quiet.unattempted
    exact .idle silent (by rw [clean]; rfl)

theorem hangingUp_failFast (name : String) (c : Connection) (answer : Except Failure Unit) :
    FailFast [] (RemoteShell.hangUp c.address answer) (hangingUp name c answer) := by
  rcases answer with f | u <;> exact .idle rfl rfl

/-! ## Whole executions -/

mutual

/-- **Every visit is in order and stops at the first fault.** -/
theorem Visit.failFast : ∀ {encl i o es i'}, Visit st encl i o es i' → ∀ hosts : List String,
    hosts.head? = encl.join.map (·.address) → FailFast (i.leaves hosts) o es
  | _, _, _, _, _, @Visit.command _ _ line o es exchange, hosts, around => by
    rw [Item.leaves, around]
    have silent : attempts (noteFault .commandFailed o) = [] ∧
        faults (noteFault .commandFailed o) = [] := by
      rcases o with e | u <;> exact ⟨rfl, rfl⟩
    exact (exchange.failFast.followed silent.1 silent.2).noted _
  | _, _, _, _, _, .borrowed rests unaddressed body, hosts, around => by
    rw [Item.leaves, address_of_resting rests, hostsWithin, if_pos unaddressed]
    exact (((body.failFast hosts around).followed rfl rfl).noted _).noted _
  | _, _, _, _, _, .grounded rests unaddressed body, hosts, around => by
    rw [Item.leaves, address_of_resting rests, hostsWithin, if_pos unaddressed]
    exact ((body.failFast hosts around).followed rfl rfl).noted _
  | _, _, _, _, _, @Visit.refused _ _ s p items p' ds rests addressed prepare f, _, _ => by
    have dial : FailFast [] (.error (.unreachable p'.address f.text)) (dialing st p' (.error f)) :=
      .idle rfl rfl
    rw [← prepare.address]
    exact (((prepare.failFast.after dial).followed rfl rfl).noted _).cut (leavesAll _ items)
  | _, _, _, _, _, @Visit.connected _ _ s p items p' ds serial o es items' rests addressed prepare
      body answer, hosts, around => by
    have dial : FailFast [] (.ok ()) (dialing st p' (.ok serial)) := .idle rfl rfl
    have run := body.failFast (p.address :: hosts) rfl
    have close := hangingUp_failFast s.name ⟨p.address, serial⟩ answer
    rw [Item.leaves, address_of_resting rests, hostsWithin, if_neg addressed]
    exact ((((prepare.failFast.after dial).after run).wind close).followed rfl rfl).noted _

theorem Visits.failFast : ∀ {pl is o es is'}, Visits st pl is o es is' → ∀ hosts : List String,
    hosts.head? = pl.map (·.address) → FailFast (leavesAll hosts is) o es
  | _, _, _, _, _, .nil, _, _ => .idle rfl rfl
  | _, _, _, _, _, .stop first, hosts, around => (first.failFast hosts around).cut _
  | _, _, _, _, _, .next first rest, hosts, around =>
    (first.failFast hosts around).append (fun _ => rest.failFast hosts around)
      (fun fault => absurd rfl fault)

end

/-- **Execution is in order and stops at the first fault**, on every host: the commands of
    the document are attempted in its order, each where the nearest scope with an address
    around it runs. Nothing is attempted after a step that failed, and what the execution
    comes to is the fault of the first such step. -/
theorem execute_failFast {σ : Type} (h : Host σ) {st : Settings} {document : Node} {c : Chain}
    {notices : List Event} (compiled : Chain.ofDocument st document = (.ok c, notices))
    (w : World σ) : ∃ es, (c.execute h none w).2.events = w.events ++ es ∧
      FailFast c.leaves (c.execute h none w).1.1 es := by
  obtain ⟨es, plays, -, visit⟩ := execute_visits (h := h) (ofDocument_rests compiled) w
  exact ⟨es, plays.events, visit.failFast [] rfl⟩

/-- The sample runs to its end, first here, then on the other machine, then here again. -/
theorem sample_failFast :
    ∃ es, (sampleChain.execute Host.granting none { host := () }).2.events = es ∧
      attempts es = [(none, "make"), (some "web:22", "restart"), (none, "report")] := by
  obtain ⟨es, events, run⟩ := execute_failFast Host.granting sample_compiles { host := () }
  have done : (sampleChain.execute Host.granting none { host := () }).1.1.isOk = true := by
    decide +kernel
  exact ⟨es, events, run.complete (Outcome.isOk_iff.1 done)⟩

end Runbook
