/-
  On a host whose answers are fixed, every execution is like the first.

  What an execution leaves in a chain are phases, and keys among the methods of its scopes; the
  keys are those that the next execution finds again.

  * `OpensBy`: a scope with an address opens by the same dial, whichever session is around it;
  * `ScopeSettles`, `ItemSettles` and `AllSettle`: an execution at a venue comes to the same in
    every world, and leaves the same;
  * `Item.repeats`: what is left of an item settles to the same again;
  * `rerun_repeats`: so does a whole chain, however often it is executed.
-/
import Runbook.Proofs.Chain.Rerun
import Runbook.Proofs.Discovery.Steady

namespace Runbook

open Session (resting linked)
open Answers (Venue)

variable {σ κ : Type} {h : Host σ} {f : Answers κ} {st : Settings}

/-- The session around a scope runs commands at this venue; the outermost scope has none. -/
inductive Answers.Around (f : Answers κ) (st : Settings) :
    Option (Venue κ) → Option Session → Prop where
  | outermost : Around f st none none
  | inside {x t} (at_ : f.At st x t) : Around f st (some x) (some t)

/-! ## Opening a scope -/

section

variable (fixed : h.Follows f)
include fixed

/-- Sessions at one venue show the same keys. -/
theorem Host.Follows.steady (st : Settings) (x : Venue κ) :
    (Session.kind h).Steady (f.At st x) where
  identify := ⟨_, fun _ at_ => at_.identify⟩
  capture command := ⟨_, _, fun _ at_ => at_.capture fixed command⟩

/-- A discovery adds the keys of the venue that it looks for them at. -/
theorem Host.Follows.enrich_gives (st : Settings) (x : Venue κ) (d : DiscoverySettings) :
    ∃ keys ms, ∀ p t, p.address ≠ "" → f.At st x t →
      ((Session.kind h).enrich (resting st p) t d).Gives played fun r es =>
        r.2 = (resting st { p with auth := addKeys p.auth keys }, t) ∧ imprint es = ms := by
  obtain ⟨keys, ms, found⟩ := (fixed.steady st x).discoverKeys d
  refine ⟨keys, ms, fun p t addressed at_ => ?_⟩
  unfold SessionKind.enrich
  dsimp only [Session.kind, Session.params?, resting, Session.changeableParams?]
  rw [if_neg (by simpa using addressed)]
  refine Run.gives_bind (found t at_) ?_
  rintro _ es ⟨rfl, rfl⟩
  dsimp only
  split
  · refine Run.gives_map (Run.note_plays _) ?_
    rintro - _ rfl
    exact ⟨rfl, imprint_append _ _ |>.trans (List.append_nil _)⟩
  · exact Run.gives_pure ⟨rfl, by rw [List.append_nil]⟩

end

/-- Whichever session is around it, a scope with an address opens like this: first something is
    done that leaves the imprint `ms`, and then it is dialed with the parameters `p'`. -/
def OpensBy (h : Host σ) (f : Answers κ) (st : Settings) (encl : Option (Venue κ))
    (d : Option DiscoverySettings) (p p' : Params) (ms : List Event) : Prop :=
  ∀ t, f.Around st encl t →
    ((Session.kind h).connectHost (resting st p) t d).Gives played fun r es =>
      r.2.2 = t ∧ f.Dialed st p' (r.1, r.2.1) ∧ imprint es = ms ++ [f.dialImprint st p']

/-- **Inside one venue, all sessions open with the same keys added.** -/
theorem Host.Follows.opens (fixed : h.Follows f) (st : Settings) (encl : Option (Venue κ))
    (d : Option DiscoverySettings) : ∃ keys ms, ∀ p, p.address ≠ "" →
      OpensBy h f st encl d p { p with auth := addKeys p.auth keys } ms := by
  have link : ∀ {p : Params} {t : Option Session} {ms : List Event}, p.address ≠ "" →
      Run.Gives played ((Session.kind h).connect (resting st p) >>= fun r => pure (r.1, r.2, t))
        fun r es => r.2.2 = t ∧ f.Dialed st p (r.1, r.2.1) ∧
          ms ++ imprint es = ms ++ [f.dialImprint st p] := by
    intro p t ms addressed
    refine Run.gives_map (fixed.connect_gives addressed) ?_
    rintro ⟨o, s⟩ es ⟨dialed, left⟩
    exact ⟨rfl, dialed, congrArg (ms ++ ·) left⟩
  have own : ∀ {p : Params}, p.address ≠ "" →
      (Session.kind h).isPassThrough (resting st p) = false := isPassThrough_resting_eq_false.2
  rcases d with _ | d
  · refine ⟨[], [], fun p addressed t around => ?_⟩
    unfold SessionKind.connectHost
    rw [if_neg (by simp [own addressed])]
    exact @link p t [] addressed
  · rcases encl with _ | x
    · refine ⟨[], [], fun p addressed t around => ?_⟩
      cases around
      unfold SessionKind.connectHost
      rw [if_neg (by simp [own addressed])]
      refine Run.gives_bind (Run.note_plays _) ?_
      rintro - _ rfl
      exact @link p none [] addressed
    · obtain ⟨keys, ms, enrich⟩ := fixed.enrich_gives st x d
      refine ⟨keys, ms, fun p addressed t around => ?_⟩
      cases around with
      | inside at_ =>
        unfold SessionKind.connectHost
        rw [if_neg (by simp [own addressed])]
        simp only [pure_bind]
        refine Run.gives_bind (enrich p _ addressed at_) ?_
        rintro ⟨n, _⟩ es ⟨rfl, rfl⟩
        simp only [imprint_append]
        exact link addressed

/-- **A scope opens by the same dial again**: the keys that are found again are there already. -/
theorem Host.Follows.reopens (fixed : h.Follows f) (encl : Option (Venue κ))
    (d : Option DiscoverySettings) {p : Params} (addressed : p.address ≠ "") :
    ∃ p' ms, p'.address = p.address ∧ OpensBy h f st encl d p p' ms ∧
      OpensBy h f st encl d p' p' ms := by
  obtain ⟨keys, ms, opens⟩ := fixed.opens st encl d
  have again := opens { p with auth := addKeys p.auth keys } addressed
  dsimp only at again
  rw [addKeys_addKeys] at again
  exact ⟨{ p with auth := addKeys p.auth keys }, ms, rfl, opens p addressed, again⟩

/-! ## Executing scopes -/

section

variable (h f st)

/-- At the venue, items come to the same in every world, and leave the same. -/
def AllSettle (x : Venue κ) (is : List Item) (o : Outcome) (ms : List Event) (is' : List Item) :
    Prop :=
  ∀ t, f.At st x t → ((Session.kind h).executeAll t is).Settles (o, t, is') ms

/-- At the venue, an item comes to the same in every world, and leaves the same. -/
def ItemSettles (x : Venue κ) (i : Item) (o : Outcome) (ms : List Event) (i' : Item) : Prop :=
  ∀ t, f.At st x t → ((Session.kind h).executeItem (some t) i).Settles (o, some t, i') ms

/-- Whichever session is around it, a scope comes to the same in every world, and leaves the
    same. -/
def ScopeSettles (encl : Option (Venue κ)) (s : Scope) (items : List Item) (o : Outcome)
    (ms : List Event) (s' : Scope) (items' : List Item) : Prop :=
  ∀ t, f.Around st encl t → ((Session.kind h).executeScope s t items fun t =>
    (Session.kind h).executeAll t items).Settles (o, t, s', items') ms

end

variable {name : String} {phase : Phase} {d : Option DiscoverySettings} {p p' : Params}
  {x : Venue κ} {encl : Option (Venue κ)} {items items' : List Item} {o : Outcome}
  {ms ds : List Event}

/-- A scope settles as it is entered and as its session is closed. -/
theorem executeScope_settles {s : Scope} {t : Option Session}
    {body : Body σ Session (List Item)} {closed : Outcome} {ms' : List Event} {own' : Session}
    (enter : ((Session.kind h).enter s t items body).Gives played fun r es => ∃ own phase,
      r = (o, t, ⟨s.name, own, phase, s.discovery⟩, items') ∧ imprint es = ms ∧
        (own.close h).Settles (closed, own') ms') :
    ((Session.kind h).executeScope s t items body).Settles
      (o.and closed, t, ⟨s.name, own', finalPhase o closed, s.discovery⟩, items')
      (ms ++ ms') := by
  unfold SessionKind.executeScope
  refine Run.settles_noted ?_
  refine Run.gives_bind enter ?_
  rintro _ es ⟨own, phase, rfl, rfl, close⟩
  -- closing the session is all that is left, apart from notices
  refine Run.Gives.mono (?_ : Run.Settles _ (o.and closed, t,
    ⟨s.name, own', finalPhase o closed, s.discovery⟩, items') ms') ?_
  · rw [← List.append_nil ms']
    refine Run.settles_bind close ?_
    rcases closed with e | u
    · exact Run.settles_noted (Run.settles_noted Run.settles_pure)
    · exact Run.settles_noted Run.settles_pure
  · rintro _ es' ⟨rfl, rfl⟩
    exact ⟨rfl, imprint_append es es'⟩

/-- A scope that ends at rest without a connection leaves the imprint of what it did inside. -/
theorem executeScope_settles_resting {s : Scope} {t : Option Session}
    {body : Body σ Session (List Item)}
    (enter : ((Session.kind h).enter s t items body).Gives played fun r es => (∃ phase,
      r = (o, t, ⟨s.name, resting st p, phase, s.discovery⟩, items')) ∧ imprint es = ms) :
    ((Session.kind h).executeScope s t items body).Settles
      (o, t, ⟨s.name, resting st p, finalPhase o (.ok ()), s.discovery⟩, items') ms := by
  have settled := executeScope_settles (enter.mono fun r es ⟨⟨phase, answer⟩, left⟩ =>
    ⟨resting st p, phase, answer, left, Session.close_resting⟩)
  rwa [Outcome.and_ok, List.append_nil] at settled

/-- A scope without an address settles as its body does where it is. -/
theorem settles_borrowed (unaddressed : p.address = "")
    (body : AllSettle h f st x items o ms items') :
    ScopeSettles h f st (some x) ⟨name, resting st p, phase, d⟩ items o ms
      ⟨name, resting st p, finalPhase o (.ok ()), d⟩ items' := by
  intro t around
  cases around with
  | inside at_ =>
    refine executeScope_settles_resting ?_
    unfold SessionKind.enter
    rw [show (Session.kind h).isPassThrough (resting st p) = true from
      isPassThrough_resting.2 unaddressed]
    refine Run.gives_bind (Run.note_plays _) ?_
    rintro - _ rfl
    refine Run.gives_map (body _ at_) ?_
    rintro _ es ⟨rfl, left⟩
    exact ⟨⟨_, rfl⟩, left⟩

/-- So does the outermost scope without an address, on this machine. -/
theorem settles_grounded (unaddressed : p.address = "")
    (body : AllSettle h f st none items o ms items') :
    ScopeSettles h f st none ⟨name, resting st p, phase, d⟩ items o ms
      ⟨name, resting st p, finalPhase o (.ok ()), d⟩ items' := by
  intro t around
  cases around
  refine executeScope_settles_resting ?_
  unfold SessionKind.enter SessionKind.connectHost
  rw [show (Session.kind h).isPassThrough (resting st p) = true from
    isPassThrough_resting.2 unaddressed]
  simp only [if_true, pure_bind]
  refine Run.gives_map (body (resting st p) ⟨none, rfl, .here unaddressed⟩) ?_
  rintro _ es ⟨rfl, left⟩
  exact ⟨⟨_, rfl⟩, left⟩

/-- A scope settles without its body if its dial is refused. -/
theorem settles_refused (addressed : p.address ≠ "") (opens : OpensBy h f st encl d p p' ds)
    {e : Failure} (refused : f.dial (p'.dial st) = .error e) :
    ScopeSettles h f st encl ⟨name, resting st p, phase, d⟩ items
      (.error (.unreachable p'.address e.text)) (ds ++ [f.dialImprint st p'])
      ⟨name, resting st p', .failed, d⟩ items := by
  intro t around
  refine executeScope_settles_resting ?_
  unfold SessionKind.enter
  rw [show (Session.kind h).isPassThrough (resting st p) = false from
    isPassThrough_resting_eq_false.2 addressed]
  simp only
  refine Run.gives_bind (opens t around) ?_
  rintro ⟨o, own, _⟩ es ⟨rfl, dialed, left⟩
  obtain ⟨rfl, rfl⟩ := dialed.of_refused refused
  exact Run.gives_pure ⟨⟨_, rfl⟩, by rw [List.append_nil, left]⟩

/-- A scope that is connected settles as its body does at its own venue. -/
theorem settles_connected (fixed : h.Follows f) (addressed : p.address ≠ "")
    (same : p'.address = p.address) (opens : OpensBy h f st encl d p p' ds) {known : κ}
    (granted : f.dial (p'.dial st) = .ok known)
    (body : AllSettle h f st (some (p'.address, known)) items o ms items') :
    ScopeSettles h f st encl ⟨name, resting st p, phase, d⟩ items
      (o.and (RemoteShell.hangUp p'.address (f.disconnect known)))
      (ds ++ [f.dialImprint st p'] ++ ms ++ [.disconnected ⟨p'.address, 0⟩ (f.disconnect known)])
      ⟨name, resting st p',
        finalPhase o (RemoteShell.hangUp p'.address (f.disconnect known)), d⟩ items' := by
  intro t around
  refine executeScope_settles ?_
  unfold SessionKind.enter
  rw [show (Session.kind h).isPassThrough (resting st p) = false from
    isPassThrough_resting_eq_false.2 addressed]
  simp only
  refine Run.gives_bind (opens t around) ?_
  rintro ⟨o, own, _⟩ es ⟨rfl, dialed, left⟩
  obtain ⟨serial, rfl, rfl, rfl⟩ := dialed.of_granted granted
  have at_ : f.At st (some (p'.address, f.knows ⟨p'.address, serial⟩))
      (linked st p' ⟨p'.address, serial⟩) :=
    ⟨some ⟨p'.address, serial⟩, rfl, .there (same ▸ addressed) rfl⟩
  refine Run.gives_map (body _ at_) ?_
  rintro _ es' ⟨rfl, rfl⟩
  exact ⟨_, _, rfl, by rw [imprint_append, left], fixed.close_linked _⟩

/-- A command comes to what the venue answers. -/
theorem command_settles (fixed : h.Follows f) {t : Session} (at_ : f.At st x t) (line : String) :
    ((Session.kind h).executeCommand line (some t)).Settles
      ((f.exchange st .stdout line x).1, some t) (f.exchange st .stdout line x).2 := by
  refine Run.settles_noted ?_
  rw [← List.append_nil (f.exchange st .stdout line x).2]
  refine Run.settles_bind (at_.run fixed line) ?_
  rcases (f.exchange st .stdout line x).1 with e | u
  · exact Run.settles_noted Run.settles_pure
  · exact Run.settles_pure

/-! ## Executing again -/

/-- **What is left of a scope settles to the same again**, if what is left of its items does
    at every venue. -/
theorem scope_repeats (fixed : h.Follows f) (encl : Option (Venue κ)) {s : Scope}
    (rests : s.session = resting st p) (inside : ∀ x, ∃ o ms items',
      AllSettle h f st x items o ms items' ∧ AllSettle h f st x items' o ms items') :
    ∃ o ms s' items', ScopeSettles h f st encl s items o ms s' items' ∧
      ScopeSettles h f st encl s' items' o ms s' items' := by
  obtain ⟨name, session, phase, d⟩ := s
  dsimp only at rests
  subst rests
  by_cases unaddressed : p.address = ""
  · rcases encl with _ | x
    · obtain ⟨o, ms, items', first, again⟩ := inside none
      exact ⟨o, ms, _, items', settles_grounded unaddressed first,
        settles_grounded unaddressed again⟩
    · obtain ⟨o, ms, items', first, again⟩ := inside x
      exact ⟨o, ms, _, items', settles_borrowed unaddressed first,
        settles_borrowed unaddressed again⟩
  · obtain ⟨p', ds, same, opens, reopens⟩ := fixed.reopens encl d unaddressed
    have addressed : p'.address ≠ "" := same ▸ unaddressed
    rcases answer : f.dial (p'.dial st) with e | known
    · exact ⟨_, _, _, items, settles_refused unaddressed opens answer,
        settles_refused addressed reopens answer⟩
    · obtain ⟨o, ms, items', first, again⟩ := inside (some (p'.address, known))
      exact ⟨_, _, _, items', settles_connected fixed unaddressed same opens answer first,
        settles_connected fixed addressed rfl reopens answer again⟩

mutual

/-- **What is left of an item settles to the same again**, at every venue. -/
theorem Item.repeats (fixed : h.Follows f) : ∀ (i : Item) (x : Venue κ), Rests st i.scopes →
    ∃ o ms i', ItemSettles h f st x i o ms i' ∧ ItemSettles h f st x i' o ms i'
  | .command line, x, _ => by
    have settles : ItemSettles h f st x (.command line) (f.exchange st .stdout line x).1
        (f.exchange st .stdout line x).2 (.command line) := by
      intro t at_
      unfold SessionKind.executeItem
      refine Run.gives_map (command_settles fixed at_ line) ?_
      rintro _ es ⟨rfl, left⟩
      exact ⟨rfl, left⟩
    exact ⟨_, _, _, settles, settles⟩
  | .chain s items, x, rests => by
    obtain ⟨⟨p, hp⟩, inner⟩ := rests_cons.1 rests
    obtain ⟨o, ms, s', items', first, again⟩ :=
      scope_repeats fixed (some x) hp fun x => allRepeat fixed items x inner
    have settles : ∀ {s s' : Scope} {items items' : List Item},
        ScopeSettles h f st (some x) s items o ms s' items' →
        ItemSettles h f st x (.chain s items) o ms (.chain s' items') := by
      intro s s' items items' scope t at_
      unfold SessionKind.executeItem
      refine Run.gives_map (scope (some t) (.inside at_)) ?_
      rintro _ es ⟨rfl, left⟩
      exact ⟨rfl, left⟩
    exact ⟨o, ms, _, settles first, settles again⟩

/-- So does what is left of items. -/
theorem allRepeat (fixed : h.Follows f) : ∀ (is : List Item) (x : Venue κ),
    Rests st (scopesAll is) →
    ∃ o ms is', AllSettle h f st x is o ms is' ∧ AllSettle h f st x is' o ms is'
  | [], x, _ => ⟨.ok (), [], [], fun _ _ => Run.settles_pure, fun _ _ => Run.settles_pure⟩
  | i :: is, x, rests => by
    obtain ⟨rests, rests'⟩ := rests_append.1 rests
    obtain ⟨o, ms, i', first, again⟩ := i.repeats fixed x rests
    rcases o with e | u
    · have stops : ∀ {i i' : Item}, ItemSettles h f st x i (.error e) ms i' →
          AllSettle h f st x (i :: is) (.error e) ms (i' :: is) := by
        intro i i' first t at_
        unfold SessionKind.executeAll
        rw [← List.append_nil ms]
        exact Run.settles_bind (first t at_) Run.settles_pure
      exact ⟨_, ms, _, stops first, stops again⟩
    · obtain ⟨o, ms', is', rest, rest'⟩ := allRepeat fixed is x rests'
      have goesOn : ∀ {i : Item} {is : List Item}, ItemSettles h f st x i (.ok ()) ms i' →
          AllSettle h f st x is o ms' is' →
          AllSettle h f st x (i :: is) o (ms ++ ms') (i' :: is') := by
        intro i is first rest t at_
        unfold SessionKind.executeAll
        refine Run.settles_bind (first t at_) ?_
        refine Run.gives_map (rest t at_) ?_
        rintro _ es ⟨rfl, left⟩
        exact ⟨rfl, left⟩
      exact ⟨o, ms ++ ms', _, goesOn first rest, goesOn again rest'⟩

end

/-- What is left of a chain settles to the same again. -/
theorem chain_repeats (fixed : h.Follows f) {c : Chain} (rests : Rests st c.scopes) :
    ∃ o ms c', (c.execute h none).Settles (o, none, c') ms ∧
      (c'.execute h none).Settles (o, none, c') ms := by
  obtain ⟨⟨p, hp⟩, inner⟩ := rests_cons.1 rests
  obtain ⟨o, ms, s', items', first, again⟩ :=
    scope_repeats fixed none hp fun x => allRepeat fixed c.items x inner
  have settles : ∀ {c : Chain}, ScopeSettles h f st none c.scope c.items o ms s' items' →
      (c.execute h none).Settles (o, none, { scope := s', items := items' }) ms := by
    intro c scope
    refine Run.gives_map (scope none .outermost) ?_
    rintro _ es ⟨rfl, left⟩
    exact ⟨rfl, left⟩
  exact ⟨o, ms, { scope := s', items := items' }, settles first, settles again⟩

/-- An execution that settles leaves its imprint behind, and its chain. -/
theorem rerun_of_settles {c c' : Chain} {w : World σ} {j : Nat}
    (settles : ((c.rerun h w j).1.execute h none).Settles (o, none, c') ms) :
    c.outcome h w j = o ∧ imprint (c.trace h w j) = ms ∧ (c.rerun h w (j + 1)).1 = c' := by
  obtain ⟨es, plays, answer, left⟩ := settles (c.rerun h w j).2
  have events : (c.rerun h w (j + 1)).2.events = (c.rerun h w j).2.events ++ es := plays.events
  refine ⟨congrArg Prod.fst answer, ?_, congrArg (fun r => r.2.2) answer⟩
  rw [Chain.trace, events, List.drop_left, left]

/-- **Every execution of a chain is like the first**, on a host whose answers are fixed,
    whatever they are: it comes to the same, by the same dials and commands with the same
    answers, and leaves the chain as the first one left it. -/
theorem rerun_repeats (fixed : h.Follows f) {document : Node} {c : Chain} {notices : List Event}
    (compiled : Chain.ofDocument st document = (.ok c, notices)) (w : World σ) (j : Nat) :
    c.outcome h w j = c.outcome h w 0 ∧ imprint (c.trace h w j) = imprint (c.trace h w 0) ∧
      (c.rerun h w (j + 1)).1 = (c.rerun h w 1).1 := by
  obtain ⟨o, ms, c', first, again⟩ := chain_repeats fixed (ofDocument_rests compiled)
  have start := rerun_of_settles (w := w) (j := 0) first
  have every : ∀ j, c.outcome h w j = o ∧ imprint (c.trace h w j) = ms ∧
      (c.rerun h w (j + 1)).1 = c' := by
    intro j
    induction j with
    | zero => exact start
    | succ j ih =>
      refine rerun_of_settles ?_
      rw [ih.2.2]
      exact again
  rw [start.1, start.2.1, start.2.2]
  exact every j

/-- A host that numbers its connections, and that fails whenever one is to be ended. -/
def Host.counting : Host Nat where
  dial _ n := (.ok n, n + 1)
  openChannel _ := pure (.ok ())
  execute _ _ := pure ⟨[], .ok 0⟩
  closeChannel _ := pure (.ok ())
  disconnect _ := pure (.error (.of "gone"))
  spawn p := pure (Host.granting.spawn p ()).1
  customRun _ _ := pure ⟨[], .ok ()⟩
  customConnect _ := pure (.ok ())
  customClose _ := pure (.ok ())

/-- What it answers, of a connection to that address. -/
def Answers.counting : Answers String where
  knows c := c.address
  dial d := .ok d.address
  openChannel _ := .ok ()
  converse _ _ := (⟨[], .ok 0⟩, .ok ())
  disconnect _ := .error (.of "gone")
  spawn p := (Host.granting.spawn p ()).1

/-- The sample fails a second time as it did the first time, with the key that was found then. -/
theorem sample_repeats : Host.counting.Follows Answers.counting ∧
    (sampleChain.outcome Host.counting { host := 0 } 1).fault? =
      some (.unreachable "web:22" "gone") ∧
    imprint (sampleChain.trace Host.counting { host := 0 } 1) =
      imprint (sampleChain.trace Host.counting { host := 0 } 0) ∧
    (sampleChain.rerun Host.counting { host := 0 } 2).1 =
      (sampleChain.rerun Host.counting { host := 0 } 1).1 := by
  have follows : Host.counting.Follows Answers.counting := by
    refine ⟨?_, ?_, ?_, ?_, ?_⟩ <;> intros <;> rfl
  obtain ⟨outcome, left, chain⟩ := rerun_repeats follows sample_compiles { host := 0 } 1
  have fails : (sampleChain.outcome Host.counting { host := 0 } 0).fault? =
      some (.unreachable "web:22" "gone") := by
    decide +kernel
  rw [← outcome] at fails
  exact ⟨follows, fails, left, chain⟩

end Runbook
