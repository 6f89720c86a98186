/-
  Connections are used like brackets.

  * `replay live es` reads events with a stack of the live connections: a dial that is
    granted pushes, the end of a connection pops, and everything else must use the
    connection on top, or this machine if there is none;
  * `dials n es` are the dials, each with the number of the scope that was started last;
    `requests` are the dials that scopes ask for;
  * `Visit.replay` and `Visit.numbered`: a visit leaves the stack as it was, and its dials
    are among those that its scopes ask for, in their order;
  * `rerun_bracketed`: so it is however often a chain is executed.
-/
import Runbook.Proofs.Chain.Compiled
import Runbook.Proofs.Chain.Rerun

namespace Runbook

open Session (resting)

/-- The live connections after an event, the youngest first. -/
def Event.live (live : List Connection) : Event → List Connection
  | .dialed d (.ok serial) => ⟨d.address, serial⟩ :: live
  | .disconnected _ _ => live.tail
  | _ => live

/-- The event uses the youngest live connection, or this machine if none is live. -/
def Event.Fits (live : List Connection) : Event → Prop
  | .opened c _ _ | .executed c _ _ _ | .channelClosed c _ _ | .disconnected c _ =>
    live.head? = some c
  | .spawned _ _ _ => live = []
  | _ => True

instance (live : List Connection) (e : Event) : Decidable (e.Fits live) :=
  match e with
  | .opened c _ _ | .executed c _ _ _ | .channelClosed c _ _ | .disconnected c _ =>
    inferInstanceAs (Decidable (live.head? = some c))
  | .spawned _ _ _ => inferInstanceAs (Decidable (live = []))
  | .notice _ | .dialed _ _ | .customRan _ _ _ _ | .customConnected _ _ | .customClosed _ _
  | .customConfigured _ _ => .isTrue trivial

/-- The live connections after some events, if all of them fit. -/
def replay (live : List Connection) : List Event → Option (List Connection)
  | [] => some live
  | e :: es => if e.Fits live then replay (e.live live) es else none

/-- The names of the scopes that were started. -/
def startedNames (es : List Event) : List String := es.filterMap Event.start?

/-- The dial that is asked for. -/
def Event.dial? : Event → Option Dial
  | .dialed d _ => some d
  | _ => none

/-- The dials, each with the number of the scope that was started last; `n` scopes were
    started before. -/
def dials (n : Nat) : List Event → List (Nat × Dial)
  | [] => []
  | e :: es =>
    match e.start?, e.dial? with
    | some _, _ => dials (n + 1) es
    | none, some d => (n, d) :: dials n es
    | none, none => dials n es

/-- The dial that a scope asks for, if it has an address. -/
def Scope.request? (st : Settings) (s : Scope) : Option Dial :=
  (s.session.params?.filter (·.address ≠ "")).map (Params.dial st)

/-- The dials that scopes ask for, each with the number of its scope. -/
def requests (st : Settings) (n : Nat) (ss : List Scope) : List (Nat × Dial) :=
  (ss.zipIdx n).filterMap fun (s, k) => (s.request? st).map (k, ·)

/-- The addresses of the scopes that have one, each with the number of its scope. -/
def addressed (n : Nat) (ss : List Scope) : List (Nat × String) :=
  (ss.zipIdx n).filterMap fun (s, k) => if s.address = "" then none else some (k, s.address)

/-! ## The stack of connections -/

theorem replay_append (live : List Connection) (es es' : List Event) :
    replay live (es ++ es') = (replay live es).bind (replay · es') := by
  induction es generalizing live with
  | nil => rfl
  | cons e es ih =>
    rw [List.cons_append, replay, replay]
    by_cases fits : e.Fits live
    · rw [if_pos fits, if_pos fits, ih]
    · rw [if_neg fits, if_neg fits, Option.bind_none]

variable {st : Settings} {live : List Connection} {pl : Place} {line : String} {o : Outcome}
  {es : List Event} {sink : Sink}

/-- A command uses the place where it runs. -/
theorem Exchanges.replay (exchange : Exchanges st sink line pl o es) (top : live.head? = pl) :
    replay live es = some live := by
  rcases exchange with ⟨⟨answer⟩⟩ | ⟨f | ⟨answer, flushed, closed⟩⟩
  · rw [List.head?_eq_none_iff] at top
    simp [Runbook.replay, Event.Fits, Event.live, top]
  · simp [Runbook.replay, Event.Fits, Event.live, top]
  · rcases flushed with e | u <;> rcases closed with f | u <;>
      simp [Runbook.replay, Event.Fits, Event.live, top, RemoteShell.noteUnflushed,
        RemoteShell.noteUnclosed]

theorem Quiet.replay (quiet : Quiet st pl es) (top : live.head? = pl) :
    replay live es = some live := by
  induction quiet with
  | nil => rfl
  | notice _ _ ih => simpa [Runbook.replay, Event.Fits, Event.live] using ih
  | exchange exchange _ ih => rw [replay_append, exchange.replay top, Option.bind_some, ih]

theorem Prepares.replay {p p' : Params} {d : Option DiscoverySettings} {encl : Option Place}
    (prepare : Prepares st p d encl p' es) (top : live.head? = encl.join) :
    replay live es = some live := by
  cases prepare with
  | off => rfl
  | alone => simp [Runbook.replay, Event.Fits, Event.live]
  | through quiet _ => exact quiet.replay top

theorem replay_noteFault (n : Fault → Notice) (o : Outcome) :
    replay live (noteFault n o) = some live := by
  rcases o with e | u <;> simp [replay, noteFault, Event.Fits, Event.live]

mutual

/-- **A visit uses its place, and what it opens it closes.** -/
theorem Visit.replay : ∀ {encl i o es i'}, Visit st encl i o es i' → ∀ live : List Connection,
    live.head? = encl.join → replay live es = some live
  | _, _, _, _, _, .command exchange, live, top => by
    simp [Runbook.replay, Event.Fits, Event.live, replay_append, exchange.replay top,
      replay_noteFault]
  | _, _, _, _, _, .borrowed _ _ body, live, top => by
    simp [Runbook.replay, Event.Fits, Event.live, replay_append, body.replay live top]
  | _, _, _, _, _, .grounded _ _ body, live, top => by
    simp [Runbook.replay, Event.Fits, Event.live, replay_append, body.replay live top]
  | _, _, _, _, _, .refused _ _ prepare f, live, top => by
    simp [Runbook.replay, Event.Fits, Event.live, replay_append, prepare.replay top, dialing]
  | _, _, _, _, _, @Visit.connected _ _ s p items p' ds serial o es items' _ _ prepare body answer,
      live, top => by
    have inside := body.replay (⟨p.address, serial⟩ :: live) rfl
    simp [Runbook.replay, Event.Fits, Event.live, replay_append, prepare.replay top, dialing,
      hangingUp, replay_noteFault, inside, Params.dial, prepare.address]

theorem Visits.replay : ∀ {pl is o es is'}, Visits st pl is o es is' →
    ∀ live : List Connection, live.head? = pl → replay live es = some live
  | _, _, _, _, _, .nil, live, top => rfl
  | _, _, _, _, _, .stop first, live, top => first.replay live top
  | _, _, _, _, _, .next first rest, live, top => by
    rw [replay_append, first.replay live top, Option.bind_some, rest.replay live top]

end

/-! ## The dials of the scopes -/

@[simp] theorem startedNames_append (es es' : List Event) :
    startedNames (es ++ es') = startedNames es ++ startedNames es' := List.filterMap_append

theorem dials_append (n : Nat) (es es' : List Event) :
    dials n (es ++ es') = dials n es ++ dials (n + (startedNames es).length) es' := by
  induction es generalizing n with
  | nil => rfl
  | cons e es ih =>
    rw [List.cons_append, dials, dials, startedNames, List.filterMap_cons]
    rcases e.start? with _ | name
    · rcases e.dial? with _ | d
      · exact ih n
      · exact congrArg _ (ih n)
    · rw [ih, List.length_cons, startedNames, Nat.add_assoc, Nat.add_comm 1]

theorem requests_append (n : Nat) (ss ss' : List Scope) :
    requests st n (ss ++ ss') = requests st n ss ++ requests st (n + ss.length) ss' := by
  rw [requests, List.zipIdx_append, List.filterMap_append, requests, requests]

theorem requests_cons_resting {s : Scope} {p : Params} (n : Nat) (ss : List Scope)
    (rests : s.session = resting st p) (addressed : p.address ≠ "") :
    requests st n (s :: ss) = (n, p.dial st) :: requests st (n + 1) ss := by
  simp [requests, Scope.request?, rests, Session.params?, resting, addressed]

/-- Nothing is started and nothing is dialed. -/
structure Still (es : List Event) : Prop where
  started : startedNames es = []
  dials : ∀ n, dials n es = []

theorem Exchanges.still (exchange : Exchanges st sink line pl o es) : Still es := by
  rcases exchange with ⟨⟨answer⟩⟩ | ⟨f | ⟨answer, flushed, closed⟩⟩
  · exact ⟨rfl, fun _ => rfl⟩
  · exact ⟨rfl, fun _ => rfl⟩
  · rcases flushed with e | u <;> rcases closed with f | u <;> exact ⟨rfl, fun _ => rfl⟩

theorem Still.append {es' : List Event} (still : Still es) (still' : Still es') :
    Still (es ++ es') :=
  ⟨by rw [startedNames_append, still.started, still'.started, List.nil_append],
    fun n => by rw [dials_append, still.dials, still'.dials, List.nil_append]⟩

theorem Quiet.still (quiet : Quiet st pl es) : Still es := by
  induction quiet with
  | nil => exact ⟨rfl, fun _ => rfl⟩
  | @notice n es own _ ih =>
    have incidental := start?_of_credentials own
    refine ⟨?_, fun k => ?_⟩
    · rw [startedNames, List.filterMap_cons_none incidental]
      exact ih.started
    · rw [Runbook.dials, incidental]
      exact ih.dials k
  | exchange exchange _ ih => exact exchange.still.append ih

theorem Prepares.still {p p' : Params} {d : Option DiscoverySettings} {encl : Option Place}
    (prepare : Prepares st p d encl p' es) : Still es := by
  cases prepare with
  | off | alone => exact ⟨rfl, fun _ => rfl⟩
  | through quiet _ => exact quiet.still

theorem still_noteFault {n : Fault → Notice} (incidental : ∀ e, (Event.notice (n e)).start? = none)
    (o : Outcome) : Still (noteFault n o) := by
  rcases o with e | u
  · refine ⟨by simp [noteFault, startedNames, incidental], fun k => ?_⟩
    simp [noteFault, dials, incidental, Event.dial?]
  · exact ⟨rfl, fun _ => rfl⟩

theorem still_finished (name : String) : Still [.notice (.chainFinished name)] :=
  ⟨rfl, fun _ => rfl⟩

theorem still_hangingUp (name : String) (c : Connection) (answer : Except Failure Unit) :
    Still (hangingUp name c answer) := by
  rcases answer with f | u <;> exact ⟨rfl, fun _ => rfl⟩

/-- Before the items of a scope run it dials as it asks, once. -/
theorem Prepares.dials {p p' : Params} {d : Option DiscoverySettings} {encl : Option Place}
    (prepare : Prepares st p d encl p' es) (n : Nat) (answer : Except Failure Nat) :
    startedNames (es ++ dialing st p' answer) = [] ∧
      Runbook.dials n (es ++ dialing st p' answer) = [(n, p'.dial st)] := by
  refine ⟨?_, ?_⟩
  · rw [startedNames_append, prepare.still.started]
    rcases answer with f | serial <;> rfl
  · rw [dials_append, prepare.still.started, prepare.still.dials]
    rcases answer with f | serial <;> rfl

/-- The scopes that are started are the first ones, in order, and they dial as they ask. -/
structure Numbered (st : Settings) (n : Nat) (o : Outcome) (es : List Event) (ss : List Scope) :
    Prop where
  started : startedNames es <+: ss.map (·.name)
  complete : o = .ok () → startedNames es = ss.map (·.name)
  dials : (dials n es).Sublist (requests st (n + 1) ss)

namespace Numbered

variable {n : Nat} {ss ss' : List Scope} {o' : Outcome} {es' : List Event}

theorem still (still : Still es) (n : Nat) : Numbered st n o es [] :=
  ⟨still.started ▸ List.nil_prefix, fun _ => still.started, still.dials n ▸ List.nil_sublist _⟩

theorem unvisited (n : Nat) (e : Fault) (ss : List Scope) : Numbered st n (.error e) [] ss :=
  ⟨List.nil_prefix, by simp, List.nil_sublist _⟩

theorem stop {e : Fault} (h : Numbered st n (.error e) es ss) (ss' : List Scope) :
    Numbered st n (.error e) es (ss ++ ss') where
  started := by
    rw [List.map_append]
    exact h.started.trans (List.prefix_append _ _)
  complete done := by cases done
  dials := by
    rw [requests_append]
    exact h.dials.trans (List.sublist_append_left _ _)

theorem next (h : Numbered st n (.ok ()) es ss) (h' : Numbered st (n + ss.length) o es' ss') :
    Numbered st n o (es ++ es') (ss ++ ss') := by
  have all := h.complete rfl
  have count : (startedNames es).length = ss.length := by rw [all, List.length_map]
  refine ⟨?_, fun done => ?_, ?_⟩
  · rw [startedNames_append, all, List.map_append]
    exact (List.prefix_append_right_inj _).2 h'.started
  · rw [startedNames_append, all, h'.complete done, List.map_append]
  · rw [dials_append, count, requests_append, Nat.add_right_comm]
    exact h.dials.append h'.dials

/-- A scope is started; before its items run it dials at most what it asks for. -/
theorem inside (s : Scope) (pre : List Event) {post : List Event} (started : startedNames pre = [])
    (dial : (Runbook.dials (n + 1) pre).Sublist (requests st (n + 1) [s]))
    (h : Numbered st (n + 1) o es ss) (still : Still post) (done : o' = .ok () → o = .ok ()) :
    Numbered st n o' (.notice (.chainStarted s.name) :: (pre ++ es ++ post)) (s :: ss) := by
  have names : startedNames (.notice (.chainStarted s.name) :: (pre ++ es ++ post)) =
      s.name :: startedNames es := by
    change s.name :: startedNames (pre ++ es ++ post) = _
    simp [started, still.started]
  refine ⟨?_, fun ok => ?_, ?_⟩
  · rw [names, List.map_cons]
    exact (List.prefix_cons_inj _).2 h.started
  · rw [names, h.complete (done ok), List.map_cons]
  · change (Runbook.dials (n + 1) (pre ++ es ++ post)).Sublist _
    rw [dials_append, dials_append, started, still.dials, List.append_nil,
      show s :: ss = [s] ++ ss from rfl, requests_append]
    exact dial.append h.dials

end Numbered

mutual

/-- **A visit starts its scopes in order**, and each dials at most once, as it asks. -/
theorem Visit.numbered : ∀ {encl i o es i'}, Visit st encl i o es i' → ∀ n : Nat,
    Numbered st n o es i'.scopes
  | _, _, _, _, _, @Visit.command _ pl line o es exchange, n => by
    have attempt : Still [.notice (.attempt pl.name line)] := ⟨rfl, fun _ => rfl⟩
    have fault := still_noteFault (n := .commandFailed) (fun _ => rfl) o
    exact .still (attempt.append (exchange.still.append fault)) n
  | _, _, _, _, _, @Visit.borrowed _ pl s p items o es items' rests unaddressed body, n =>
    (body.numbered (n + 1)).inside { s with phase := finalPhase o (.ok ()) }
      [.notice (.chainBorrows s.name pl.name)] rfl (List.nil_sublist _) (still_finished _) id
  | _, _, _, _, _, @Visit.grounded _ s p items o es items' rests unaddressed body, n =>
    (body.numbered (n + 1)).inside { s with phase := finalPhase o (.ok ()) } [] rfl
      (List.nil_sublist _) (still_finished _) id
  | _, _, _, _, _, @Visit.refused _ _ s p items p' ds rests addressed prepare f, n => by
    obtain ⟨started, dial⟩ := prepare.dials (n + 1) (.error f)
    have asked := prepare.address ▸ addressed
    have unvisited : Numbered st (n + 1) (.error (.unreachable p.address f.text)) []
      (scopesAll items) := .unvisited ..
    have inside := unvisited.inside { s with session := resting st p', phase := .failed } _ started
      (by rw [dial, requests_cons_resting _ _ rfl asked]; exact List.sublist_append_left _ _)
      (still_finished s.name) id
    rwa [List.append_nil] at inside
  | _, _, _, _, _, @Visit.connected _ _ s p items p' ds serial o es items' rests addressed prepare
      body answer, n => by
    obtain ⟨started, dial⟩ := prepare.dials (n + 1) (.ok serial)
    have asked := prepare.address ▸ addressed
    have inside := (body.numbered (n + 1)).inside
      { s with
        session := resting st p'
        phase := finalPhase o (RemoteShell.hangUp p.address answer) } _ started
      (by rw [dial, requests_cons_resting _ _ rfl asked]; exact List.sublist_append_left _ _)
      ((still_hangingUp s.name ⟨p.address, serial⟩ answer).append (still_finished s.name))
      fun done : o.and (RemoteShell.hangUp p.address answer) = .ok () =>
        (Outcome.and_eq_ok.1 done).1
    rw [← List.append_assoc] at inside
    exact inside

theorem Visits.numbered : ∀ {pl is o es is'}, Visits st pl is o es is' → ∀ n : Nat,
    Numbered st n o es (scopesAll is')
  | _, _, _, _, _, .nil, _ => ⟨List.prefix_rfl, fun _ => rfl, List.nil_sublist _⟩
  | _, _, _, _, _, .stop first, n => (first.numbered n).stop _
  | _, _, _, _, _, .next first rest, n => (first.numbered n).next (rest.numbered _)

end

/-- Scopes that are kept ask for dials to their addresses. -/
theorem requests_addresses {ss ss' : List Scope} (kept : List.Forall₂ (Kept st) ss ss') (n : Nat) :
    (requests st n ss').map (fun x => (x.1, x.2.address)) = addressed n ss := by
  induction kept generalizing n with
  | nil => rfl
  | @cons s s' ss ss' first rest ih =>
    obtain ⟨p, auth, hp, hp'⟩ := first.session
    have head : (requests st n [s']).map (fun x => (x.1, x.2.address)) = addressed n [s] := by
      by_cases unaddressed : p.address = ""
      · simp [requests, addressed, address_of_resting hp, hp', Scope.request?, unaddressed,
          Session.params?, resting]
      · simp [requests, addressed, address_of_resting hp, hp', Scope.request?, unaddressed,
          Session.params?, resting, Params.dial]
    rw [show s' :: ss' = [s'] ++ ss' from rfl, requests_append, List.map_append, head,
      List.length_singleton, ih]
    simp only [addressed, List.zipIdx_cons, List.zipIdx_nil, List.filterMap_cons,
      List.filterMap_nil]
    split <;> rfl

/-- An execution that uses its connections like brackets. -/
structure Bracketed (c : Chain) (es : List Event) : Prop where
  /-- Every event uses the youngest live connection, or this machine if none is live; in the
      end no connection is live. -/
  balanced : replay [] es = some []
  /-- The scopes that are started are the first ones, in order. -/
  started : startedNames es <+: c.scopes.map (·.name)
  /-- Scopes with an address dial it at most once, in order; other scopes never dial. -/
  dials : ((dials 0 es).map fun x => (x.1, x.2.address)).Sublist (addressed 1 c.scopes)

/-- **Connections are used like brackets**, on every host and however often a chain is
    executed. -/
theorem rerun_bracketed {σ : Type} (h : Host σ) {st : Settings} {document : Node} {c : Chain}
    {notices : List Event} (compiled : Chain.ofDocument st document = (.ok c, notices))
    (w : World σ) (j : Nat) :
    (c.rerun h w (j + 1)).2.events = (c.rerun h w j).2.events ++ c.trace h w j ∧
      Bracketed c (c.trace h w j) := by
  have rests := ofDocument_rests compiled
  obtain ⟨events, o, visit⟩ := rerun_visits (h := h) w j rests
  have kept := rerun_kept (h := h) w (j + 1) rests
  have numbered := visit.numbered 0
  refine ⟨events, visit.replay [] rfl, ?_, ?_⟩
  · rw [← names_of_kept kept]
    exact numbered.started
  · rw [← requests_addresses kept 1]
    exact numbered.dials.map _

/-- The sample does so when it is executed a second time. -/
theorem sample_bracketed :
    Bracketed sampleChain (sampleChain.trace Host.granting { host := () } 1) :=
  (rerun_bracketed Host.granting sample_compiles { host := () } 1).2

end Runbook
