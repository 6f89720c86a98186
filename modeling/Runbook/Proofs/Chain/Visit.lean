/-
  How a chain of a document runs: the outcome and the events, without sessions and worlds.

  * `Visit st encl i o es i'`: executed inside the place `encl`, the item `i` comes to `o`,
    the events `es` happen, and `i'` is left; `Visits` is the same for a list of items.
    There is one rule for each way through;
  * `execute_visits`: every execution of a chain whose sessions are at rest is a visit, and
    its sessions are at rest afterwards.

  The properties of executions are proved by induction on visits.
-/
import Runbook.Proofs.Chain.Listing
import Runbook.Proofs.Chain.Scope
import Runbook.Proofs.Discovery.Quiet

namespace Runbook

open Session (resting linked)

/-- The notice about a fault, if there is one. -/
def noteFault (n : Fault → Notice) : Outcome → List Event
  | .ok () => []
  | .error e => [.notice (n e)]

@[simp] theorem noteFault_ok (n : Fault → Notice) : noteFault n (.ok ()) = [] := rfl

/-- The events of a dial. -/
def dialing (st : Settings) (p : Params) (answer : Except Failure Nat) : List Event :=
  .notice (.connecting p.user p.address) :: .dialed (p.dial st) answer ::
    match answer with
    | .ok _ => []
    | .error f => [.notice (.dialFailed p.address f)]

/-- The events of the end of a connection, for a scope of that name. -/
def hangingUp (name : String) (c : Connection) (answer : Except Failure Unit) : List Event :=
  .notice (.disconnecting c.address) :: .disconnected c answer ::
    noteFault (.closeFailed name) (RemoteShell.hangUp c.address answer)

/-- What is done about keys before a scope connects inside a place: the parameters it then
    connects with, and the events. -/
inductive Prepares (st : Settings) (p : Params) :
    Option DiscoverySettings → Option Place → Params → List Event → Prop where
  | off {encl} : Prepares st p none encl p []
  | alone {d} : Prepares st p (some d) none p [.notice (.noDiscoverySession p.address)]
  | through {d pl keys es} (quiet : Quiet st pl es) (shown : ∀ key ∈ keys, ShownAt pl es key) :
      Prepares st p (some d) (some pl) { p with auth := addKeys p.auth keys } es

theorem Prepares.address {st : Settings} {p p' : Params} {d : Option DiscoverySettings}
    {encl : Option Place} {es : List Event} (prepare : Prepares st p d encl p' es) :
    p'.address = p.address := by
  cases prepare <;> rfl

mutual

/-- An item is executed inside a place; without one it is the outermost. -/
inductive Visit (st : Settings) :
    Option Place → Item → Outcome → List Event → Item → Prop where
  | command {pl line o es} (exchange : Exchanges st .stdout line pl o es) :
      Visit st (some pl) (.command line) o
        (.notice (.attempt pl.name line) :: (es ++ noteFault .commandFailed o)) (.command line)
  /-- A scope without an address runs where the scope around it runs. -/
  | borrowed {pl s p items o es items'} (rests : s.session = resting st p)
      (unaddressed : p.address = "") (body : Visits st pl items o es items') :
      Visit st (some pl) (.chain s items) o
        (.notice (.chainStarted s.name) :: .notice (.chainBorrows s.name pl.name) ::
          (es ++ [.notice (.chainFinished s.name)]))
        (.chain { s with phase := finalPhase o (.ok ()) } items')
  /-- The outermost scope without an address runs on this machine. -/
  | grounded {s p items o es items'} (rests : s.session = resting st p)
      (unaddressed : p.address = "") (body : Visits st none items o es items') :
      Visit st none (.chain s items) o
        (.notice (.chainStarted s.name) :: (es ++ [.notice (.chainFinished s.name)]))
        (.chain { s with phase := finalPhase o (.ok ()) } items')
  | refused {encl s p items p' ds} (rests : s.session = resting st p)
      (addressed : p.address ≠ "") (prepare : Prepares st p s.discovery encl p' ds)
      (f : Failure) :
      Visit st encl (.chain s items) (.error (.unreachable p.address f.text))
        (.notice (.chainStarted s.name) ::
          (ds ++ dialing st p' (.error f) ++ [.notice (.chainFinished s.name)]))
        (.chain { s with session := resting st p', phase := .failed } items)
  | connected {encl s p items p' ds serial o es items'} (rests : s.session = resting st p)
      (addressed : p.address ≠ "") (prepare : Prepares st p s.discovery encl p' ds)
      (body : Visits st (some ⟨p.address, serial⟩) items o es items')
      (answer : Except Failure Unit) :
      Visit st encl (.chain s items) (o.and (RemoteShell.hangUp p.address answer))
        (.notice (.chainStarted s.name) :: (ds ++ dialing st p' (.ok serial) ++ es ++
          hangingUp s.name ⟨p.address, serial⟩ answer ++ [.notice (.chainFinished s.name)]))
        (.chain { s with
          session := resting st p'
          phase := finalPhase o (RemoteShell.hangUp p.address answer) } items')

/-- Items are executed at a place, in order, up to the first fault. -/
inductive Visits (st : Settings) :
    Place → List Item → Outcome → List Event → List Item → Prop where
  | nil {pl} : Visits st pl [] (.ok ()) [] []
  | stop {pl i e es i' is} (first : Visit st (some pl) i (.error e) es i') :
      Visits st pl (i :: is) (.error e) es (i' :: is)
  | next {pl i es i' is o es' is'} (first : Visit st (some pl) i (.ok ()) es i')
      (rest : Visits st pl is o es' is') :
      Visits st pl (i :: is) o (es ++ es') (i' :: is')

end

section
variable {σ : Type} {h : Host σ} {st : Settings}

/-- The place that an enclosing session stands for. -/
inductive Encloses (st : Settings) : Option Place → Option Session → Prop where
  | nothing : Encloses st none none
  | place {pl s} (at_ : RunsAt st pl s) : Encloses st (some pl) (some s)

theorem prepares_of_searches {d : Option DiscoverySettings} {encl : Option Place}
    {t t' : Option Session} {p : Params} {own : Session} {ds : List Event}
    (around : Encloses st encl t) (addressed : p.address ≠ "")
    (search : (Session.conduct h).Searches (resting st p) d t (own, t') ds) :
    t' = t ∧ ∃ p', own = resting st p' ∧ p'.address = p.address ∧ Prepares st p d encl p' ds := by
  cases search with
  | off => exact ⟨rfl, p, rfl, rfl, .off⟩
  | alone =>
    rcases around with _ | at_
    refine ⟨rfl, p, rfl, rfl, ?_⟩
    rw [Session.kind_identify, identify_resting, if_neg addressed]
    exact .alone
  | through keys =>
    rcases around with _ | at_
    obtain ⟨rfl, quiet, keys, rfl, shown⟩ := enriches_resting at_ keys
    exact ⟨rfl, _, rfl, rfl, .through quiet shown⟩

/-- What a body at a place has to come to. -/
abbrev AtPlace (st : Settings) (items : List Item) : Conduct.Through Session Event (List Item) :=
  fun t r es => ∀ pl, RunsAt st pl t → r.2.1 = t ∧ Visits st pl items r.1 es r.2.2

@[simp] theorem conduct_note (n : Notice) : (Session.conduct h).note n = [.notice n] := rfl

@[simp] theorem conduct_noteFault (n : Fault → Notice) (o : Outcome) :
    (Session.conduct h).noteFault n o = noteFault n o := by
  rcases o with e | u <;> rfl

/-- **The execution of a scope is a visit**, if that of its body is. -/
theorem Conduct.Executes.visit {s s' : Scope} {items items' : List Item} {t t' : Option Session}
    {encl : Option Place} {p : Params} {o : Outcome} {es : List Event}
    (rests : s.session = resting st p) (around : Encloses st encl t)
    (execute : (Session.conduct h).Executes (AtPlace st items) s items t (o, t', s', items') es) :
    t' = t ∧ Visit st encl (.chain s items) o es (.chain s' items') := by
  obtain ⟨enter, close⟩ := execute
  obtain ⟨name, session, phase, discovery⟩ := s
  dsimp only at rests
  subst rests
  cases enter with
  | borrowed pass body =>
    rcases around with _ | at_
    obtain ⟨rfl, visits⟩ := body _ at_
    obtain ⟨rfl, rfl, rfl⟩ := closes_resting close
    have visit := Visit.borrowed (s := ⟨name, resting st p, phase, discovery⟩) rfl
      (isPassThrough_resting.1 pass) visits
    rw [← at_.identify] at visit
    exact ⟨rfl, by simpa using visit⟩
  | grounded pass body =>
    have unaddressed := isPassThrough_resting.1 pass
    rcases around
    obtain ⟨rfl, visits⟩ := body none (.here unaddressed)
    obtain ⟨rfl, rfl, rfl⟩ := closes_resting close
    have visit := Visit.grounded (s := ⟨name, resting st p, phase, discovery⟩) rfl unaddressed
      visits
    exact ⟨rfl, by simpa using visit⟩
  | refused pass search connect =>
    have addressed := isPassThrough_resting_eq_false.1 pass
    obtain ⟨rfl, p', rfl, same, prepare⟩ := prepares_of_searches around addressed search
    rcases connects_resting (same.symm ▸ addressed) connect with
      ⟨serial, bad, -⟩ | ⟨f, fault, rfl, rfl⟩
    · cases bad
    · obtain rfl := Except.error.inj fault
      obtain ⟨rfl, rfl, rfl⟩ := closes_resting close
      have visit : Visit st encl (.chain ⟨name, resting st p, phase, discovery⟩ items) _ _ _ :=
        .refused rfl addressed prepare f
      rw [← same] at visit
      exact ⟨rfl, by simpa [dialing] using visit⟩
  | connected pass search connect body =>
    have addressed := isPassThrough_resting_eq_false.1 pass
    obtain ⟨rfl, p', rfl, same, prepare⟩ := prepares_of_searches around addressed search
    rcases connects_resting (same.symm ▸ addressed) connect with
      ⟨serial, -, rfl, rfl⟩ | ⟨f, bad, -⟩
    · obtain ⟨rfl, visits⟩ := body (some ⟨p'.address, serial⟩) (.there (same.symm ▸ addressed) rfl)
      obtain ⟨answer, rfl, rfl, rfl⟩ := closes_linked close
      rw [same] at visits ⊢
      have visit := Visit.connected (s := ⟨name, resting st p, phase, discovery⟩) rfl addressed
        prepare visits answer
      exact ⟨rfl, by simpa [dialing, hangingUp, same] using visit⟩
    · cases bad

theorem Visit.ofRuns {t t' : Session} {pl : Place} {line : String} {o : Outcome} {es : List Event}
    (at_ : RunsAt st pl t) (run : (Session.conduct h).Runs line t (o, t') es) :
    t' = t ∧ Visit st (some pl) (.command line) o
      (.notice (.attempt t.identify line) :: (es ++ noteFault .commandFailed o))
      (.command line) := by
  obtain ⟨rfl, exchange⟩ := at_.runs run
  rw [at_.identify]
  exact ⟨rfl, .command exchange⟩

/-- A body that runs at every place does what it has to. -/
theorem gives_atPlace {items : List Item} (run : ∀ pl t, RunsAt st pl t →
      ((Session.kind h).executeAll t items).Gives played fun r es =>
        r.2.1 = t ∧ Visits st pl items r.1 es r.2.2) (t : Session) :
    ((Session.kind h).executeAll t items).Gives played (AtPlace st items t) := by
  by_cases placed : ∃ pl, RunsAt st pl t
  · obtain ⟨pl, at_⟩ := placed
    refine (run pl t at_).mono fun r es hr pl' at_' => ?_
    obtain rfl := at_.unique at_'
    exact hr
  · -- a session that runs at no place has nothing to show
    exact ((Session.conduct h).executeAll_gives items t).mono fun _ _ _ pl at_ =>
      absurd ⟨pl, at_⟩ placed

mutual

/-- **Executing an item is a visit.** -/
theorem executeItem_visits : ∀ (i : Item) (pl : Place) (t : Session), Rests st i.scopes →
    RunsAt st pl t → ((Session.kind h).executeItem (some t) i).Gives played fun r es =>
      r.2.1 = some t ∧ Visit st (some pl) i r.1 es r.2.2
  | .command line, pl, t, _, at_ => by
    unfold SessionKind.executeItem
    refine Run.gives_map ((Session.conduct h).executeCommand_gives line t) ?_
    rintro ⟨o, t'⟩ es ⟨s', es', rfl, run, rfl⟩
    obtain ⟨rfl, visit⟩ := Visit.ofRuns at_ run
    exact ⟨rfl, by simpa using visit⟩
  | .chain s items, pl, t, rests, at_ => by
    obtain ⟨⟨p, hp⟩, rests⟩ := rests_cons.1 rests
    unfold SessionKind.executeItem
    refine Run.gives_map ((Session.conduct h).executeScope_gives
      (gives_atPlace fun pl t => executeAll_visits items pl t rests) s (some t) items) ?_
    rintro ⟨o, t', s', items'⟩ es execute
    exact execute.visit hp (.place at_)

theorem executeAll_visits : ∀ (is : List Item) (pl : Place) (t : Session), Rests st (scopesAll is) →
    RunsAt st pl t → ((Session.kind h).executeAll t is).Gives played fun r es =>
      r.2.1 = t ∧ Visits st pl is r.1 es r.2.2
  | [], pl, t, _, at_ => Run.gives_pure ⟨rfl, .nil⟩
  | i :: is, pl, t, rests, at_ => by
    obtain ⟨rests, rests'⟩ := rests_append.1 rests
    unfold SessionKind.executeAll
    refine Run.gives_bind (executeItem_visits i pl t rests at_) ?_
    rintro ⟨e | u, t', i'⟩ es ⟨rfl, visit⟩
    · exact Run.gives_pure ⟨rfl, by simpa using .stop visit⟩
    · refine Run.gives_map (executeAll_visits is pl _ rests' at_) ?_
      rintro ⟨o, t', is'⟩ es' ⟨rfl, visits⟩
      exact ⟨rfl, .next visit visits⟩

end

/-- **Executing a chain is a visit**, on any host, if its sessions are at rest. -/
theorem execute_visits {c : Chain} (rests : Rests st c.scopes) :
    (c.execute h none).Gives played fun r es =>
      r.2.1 = none ∧ Visit st none c.toItem r.1 es r.2.2.toItem := by
  obtain ⟨⟨p, hp⟩, rests⟩ := rests_cons.1 rests
  refine Run.gives_map ((Session.conduct h).executeScope_gives
    (gives_atPlace fun pl t => executeAll_visits c.items pl t rests) c.scope none c.items) ?_
  rintro ⟨o, t', s', items'⟩ es execute
  exact execute.visit hp .nothing

end

end Runbook
