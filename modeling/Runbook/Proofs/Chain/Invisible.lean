/-
  Discovery is invisible, apart from the methods that are presented.

  * `Event.essential?` is what is left of an event when discovery is left out;
  * `Host.Fixed`: the host answers by the operation, the address and the command alone;
  * `Quiet.unseen`: nothing is left of a discovery;
  * `discovery_invisible`: on a fixed host, a document comes to the same with discovery, however
    it goes, as without.
-/
import Runbook.Proofs.Chain.Variants
import Runbook.Proofs.Discovery.Quiet

namespace Runbook

open Session (resting)

variable {σ : Type}

/-- What is left of an event when discovery is left out: nothing of notices and of commands
    whose output is captured, and dials without their methods. Connections lose their numbers. -/
def Event.essential? : Event → Option Event
  | .dialed d answer => some (.dialed { d with auth := [] } (answer.map fun _ => 0))
  | .opened c ⟨command, .stdout⟩ answer =>
    some (.opened ⟨c.address, 0⟩ ⟨command, .stdout⟩ answer)
  | .executed c command .stdout answer => some (.executed ⟨c.address, 0⟩ command .stdout answer)
  | .channelClosed c .stdout answer => some (.channelClosed ⟨c.address, 0⟩ .stdout answer)
  | .disconnected c answer => some (.disconnected ⟨c.address, 0⟩ answer)
  | .spawned p .stdout answer => some (.spawned p .stdout answer)
  | .notice _ | .opened _ _ _ | .executed _ _ _ _ | .channelClosed _ _ _ | .spawned _ _ _ => none
  | e => some e

/-- The host answers by the operation, the address and the command alone: neither by what
    happened before nor by the methods of a dial. How it numbers connections is its own affair.
    The end of a channel may depend on the command that was run on it. -/
structure Host.Fixed (h : Host σ) : Prop where
  dial : ∀ {d d' : Dial}, d.Like (fun _ _ => True) d' → ∀ s s',
    (h.dial d s).1.map (fun _ => ()) = (h.dial d' s').1.map fun _ => ()
  openChannel : ∀ {c c' : Connection}, c.address = c'.address → ∀ s s',
    (h.openChannel c s).1 = (h.openChannel c' s').1
  converse : ∀ {c c' : Connection}, c.address = c'.address → ∀ command s s',
    (h.converse c command s).1 = (h.converse c' command s').1
  disconnect : ∀ {c c' : Connection}, c.address = c'.address → ∀ s s',
    (h.disconnect c s).1 = (h.disconnect c' s').1
  spawn : ∀ p s s', (h.spawn p s).1 = (h.spawn p s').1

/-! ## Discovery leaves nothing behind -/

/-- Nothing is left of a captured command, and it leaves standard output alone. -/
theorem Exchanges.unseen {st : Settings} {id : Nat} {command : String} {pl : Place} {o : Outcome}
    {es : List Event} (exchange : Exchanges st (.buffer id) command pl o es) :
    es.filterMap Event.essential? = [] ∧ ∀ e ∈ es, e.Spares := by
  rcases exchange with ⟨⟨_ | finished⟩⟩ | ⟨f | ⟨answer, _ | _, _ | _⟩⟩ <;>
    simp [Event.essential?, Event.Spares, Event.output?, RemoteShell.noteUnflushed,
      RemoteShell.noteUnclosed]

/-- **Nothing is left of a discovery.** -/
theorem Quiet.unseen {st : Settings} {pl : Place} {es : List Event} (quiet : Quiet st pl es) :
    es.filterMap Event.essential? = [] ∧ ∀ e ∈ es, e.Spares := by
  induction quiet with
  | nil => exact ⟨rfl, List.forall_mem_nil _⟩
  | notice _ _ ih =>
    exact ⟨ih.1, List.forall_mem_cons.2 ⟨Event.spares_of_silent rfl, ih.2⟩⟩
  | exchange exchange _ ih =>
    obtain ⟨unseen, spare⟩ := exchange.unseen
    rw [List.filterMap_append, unseen, ih.1]
    exact ⟨rfl, List.forall_mem_append.2 ⟨spare, ih.2⟩⟩

/-! ## Fixed hosts -/

theorem askedAlike_of_fixed {α : Type} {Q : α → α → Prop} {q q' : StateM σ α}
    (fixed : ∀ s s', Q (q s).1 (q' s').1) : AskedAlike (fun _ _ => True) Q q q' :=
  fun s s' _ => ⟨fixed s s', trivial⟩

/-- Two connections are to the same address. -/
def SameAddress (c c' : Connection) : Prop := c.address = c'.address

theorem granted_of_fixed {d d' : Dial} (same : d.address = d'.address)
    {a a' : Except Failure Nat} (answers : a.map (fun _ => ()) = a'.map fun _ => ()) :
    Granted SameAddress (a.map (Connection.mk d.address)) (a'.map (Connection.mk d'.address)) := by
  rcases a with f | n <;> rcases a' with f' | n' <;> cases answers
  · exact .refused f
  · exact .linked same

/-- A fixed host cannot tell apart sessions at the same address. -/
def Host.Fixed.likeness {h : Host σ} (fixed : h.Fixed) : Likeness h where
  Hosts _ _ := True
  Auths _ _ := True
  Links := SameAddress
  Buffers _ _ := True
  see := Event.essential?
  write _ _ _ := trivial
  dial like := askedAlike_of_fixed fun s s' =>
    granted_of_fixed like.address (fixed.dial like s s')
  openChannel same := askedAlike_of_fixed (fixed.openChannel same)
  converse same command := askedAlike_of_fixed (fixed.converse same command)
  disconnect same := askedAlike_of_fixed (fixed.disconnect same)
  spawn p := askedAlike_of_fixed (fixed.spawn p)
  see_dialed {d d' a a'} like granted := by
    obtain ⟨address, user, auth, timeoutMs, policy⟩ := d
    obtain ⟨rfl, rfl, -, rfl, rfl⟩ := like
    rcases a with f | n <;> rcases a' with f' | n' <;> cases granted <;> rfl
  see_opened same errand a := by
    obtain ⟨command, sink⟩ := errand
    cases sink with
    | stdout => exact congrArg (fun a => some (Event.opened ⟨a, 0⟩ _ _)) same
    | buffer id => rfl
  see_executed same command sink a := by
    cases sink with
    | stdout => exact congrArg (fun a => some (Event.executed ⟨a, 0⟩ _ _ _)) same
    | buffer id => rfl
  see_channelClosed same sink a := by
    cases sink with
    | stdout => exact congrArg (fun a => some (Event.channelClosed ⟨a, 0⟩ _ _)) same
    | buffer id => rfl
  see_disconnected same a := congrArg (fun a => some (Event.disconnected ⟨a, 0⟩ _)) same

section

variable {h : Host σ} {st : Settings}

/-- A scope's own session at rest, beside one that the host cannot tell from it. -/
def Owned (st : Settings) (l : Likeness h) (s s' : Session) : Prop :=
  (∃ p, s = resting st p) ∧ s.Like l s'

/-- A session that commands run on, beside one that the host cannot tell from it. -/
def Used (st : Settings) (l : Likeness h) (t t' : Session) : Prop :=
  (∃ pl, RunsAt st pl t) ∧ t.Like l t'

/-- A session at rest connects like one that the host cannot tell from it. -/
theorem connects_alike {l : Likeness h} {p : Params} {s' : Session} (addressed : p.address ≠ "")
    (like : (resting st p).Like l s') {encl encl' : Option Session}
    (around : Option.Rel (Used st l) encl encl') :
    ((Session.kind h).connect (resting st p) >>= fun (o, s) => pure (o, s, encl)).Alike l.pairing
      (Hosted (Owned st l) (Used st l) (Used st l))
      ((Session.kind h).connect s' >>= fun (o, s) => pure (o, s, encl')) := by
  refine Run.alike_bind (like.connect.and_gives (Session.connect_plays h _)) ?_
  rintro ⟨o, s⟩ ⟨_, s'⟩ ⟨⟨rfl, after⟩, es, connect⟩
  refine Run.alike_pure ?_
  rcases connects_resting addressed connect with ⟨serial, rfl, rfl, -⟩ | ⟨f, rfl, rfl, -⟩
  · exact ⟨rfl, fun _ => ⟨⟨_, .there addressed rfl⟩, after⟩, fun bad => absurd rfl bad, around⟩
  · exact ⟨rfl, nofun, fun _ => ⟨⟨p, rfl⟩, after⟩, around⟩

/-- A discovery in one of two runs makes no difference to a fixed host, but for the methods of the
    session that it is for. -/
theorem enrichLeft (fixed : h.Fixed) {α β : Type} {d : DiscoverySettings} {p : Params}
    {pl : Place} {t : Session} (at_ : RunsAt st pl t) {f : Nat × Session × Session → Run σ α}
    {m' : Run σ β} {Q : α → β → Prop}
    (hf : ∀ n auth, (f (n, resting st { p with auth }, t)).Alike fixed.likeness.pairing Q m') :
    ((Session.kind h).enrich (resting st p) t d >>= f).Alike fixed.likeness.pairing Q m' := by
  refine Run.alike_left
    (P := fun r => r.2.2 = t ∧ ∃ auth, r.2.1 = resting st { p with auth })
    (fun w w' related => ?_) ?_
  · obtain ⟨es, plays, enrich⟩ := (Session.conduct h).enrich_gives d (resting st p) t w
    obtain ⟨same, quiet, keys, own, -⟩ := enriches_resting at_ enrich
    refine ⟨⟨same, _, own⟩, trivial, ?_, trivial, ?_⟩
    · rw [plays.spared quiet.unseen.2, related.outlet]
    · have seen := related.events
      rw [plays.events, List.filterMap_append, ← seen]
      exact (congrArg _ quiet.unseen.1).trans (List.append_nil _)
  · rintro ⟨n, _, _⟩ ⟨rfl, auth, rfl⟩
    exact hf n auth

theorem resting_withAuth (fixed : h.Fixed) {p : Params} {s' : Session}
    (like : (resting st p).Like fixed.likeness s') (auth : List AuthMethod) :
    (resting st { p with auth }).Like fixed.likeness s' := by
  cases like with
  | remote like => exact .remote { like with auth := trivial }

/-- **Scopes open and close alike with discovery and without.** -/
theorem discovery_paired (st : Settings) (fixed : h.Fixed) :
    (Session.kind h).Paired (Session.kind h) fixed.likeness.pairing (fun _ d => d = none)
      (Owned st fixed.likeness) (Used st fixed.likeness) where
  identify related := related.2.identify
  isPassThrough related := related.2.isPassThrough
  grounded := by
    rintro _ s' ⟨⟨p, rfl⟩, like⟩ pass
    exact ⟨⟨none, .here (isPassThrough_resting.1 pass)⟩, like⟩
  connectHost := by
    rintro _ s' encl encl' d _ ⟨⟨p, rfl⟩, like⟩ pass around rfl
    have addressed := isPassThrough_resting_eq_false.1 pass
    have pass' : (Session.kind h).isPassThrough s' = false := like.isPassThrough.symm.trans pass
    unfold SessionKind.connectHost
    rw [if_neg (by simp [pass]), if_neg (by simp [pass'])]
    rcases d with _ | d
    · exact connects_alike addressed like around
    · cases around with
      | none => exact fixed.likeness.noteLeft rfl (connects_alike addressed like .none)
      | some used =>
        obtain ⟨⟨pl, at_⟩, like'⟩ := used
        simp only [pure_bind]
        refine enrichLeft fixed at_ fun n auth => ?_
        have still : ({ p with auth } : Params).address ≠ "" := addressed
        exact connects_alike still (resting_withAuth fixed like auth) (.some ⟨⟨pl, at_⟩, like'⟩)
  run := by
    rintro t t' ⟨⟨pl, at_⟩, like⟩ line
    refine ((like.run line).and_gives (Session.run_plays h line t)).mono ?_
    rintro ⟨o, s⟩ ⟨_, s'⟩ ⟨⟨rfl, after⟩, es, run⟩
    obtain ⟨rfl, -⟩ := at_.runs run
    exact ⟨rfl, ⟨pl, at_⟩, after⟩
  close := by
    intro s s' related
    have like : s.Like fixed.likeness s' := related.elim And.right And.right
    refine (like.close.and_gives (Session.close_plays h s)).mono ?_
    rintro ⟨o, r⟩ ⟨_, r'⟩ ⟨⟨rfl, after⟩, es, close⟩
    refine ⟨rfl, ?_, after⟩
    rcases related with ⟨⟨p, rfl⟩, -⟩ | ⟨⟨pl, at_⟩, -⟩
    · obtain ⟨-, rest, -⟩ := closes_resting close
      exact ⟨p, rest⟩
    · cases at_ with
      | @here p unaddressed =>
        obtain ⟨-, rest, -⟩ := closes_resting close
        exact ⟨p, rest⟩
      | @there p c addressed dialed =>
        obtain ⟨-, -, rest, -⟩ := closes_linked close
        exact ⟨p, rest⟩

end

/-! ## Documents -/

/-- The settings without discovery. -/
def Settings.undiscovering (st : Settings) : Settings := { st with discovery := none }

/-- The name and the phase of each scope. -/
def Chain.phases (c : Chain) : List (String × Phase) := c.scopes.map fun s => (s.name, s.phase)

/-- **Discovery is invisible**: on a fixed host a document compiles and comes to the same with
    discovery as without. All scopes end in the same phase, the same is written, and the same
    happens but for captured commands and the methods of dials. -/
theorem discovery_invisible {h : Host σ} (fixed : h.Fixed) {st : Settings} {document : Node}
    {c : Chain} {notices : List Event}
    (compiled : Chain.ofDocument st document = (.ok c, notices)) (w : World σ) :
    ∃ c', Chain.ofDocument st.undiscovering document = (.ok c', notices) ∧
      (c.execute h none w).1.1 = (c'.execute h none w).1.1 ∧
      (c.execute h none w).1.2.2.phases = (c'.execute h none w).1.2.2.phases ∧
      (c.execute h none w).2.stdout = (c'.execute h none w).2.stdout ∧
      (c.execute h none w).2.events.filterMap Event.essential? =
        (c'.execute h none w).2.events.filterMap Event.essential? := by
  obtain ⟨loaded, events⟩ :=
    @ofDocument_alike st st.undiscovering document document (Node.Like.refl document)
  rw [compiled] at loaded events
  generalize hr : (Chain.ofDocument st.undiscovering document).1 = r at loaded
  obtain _ | @⟨_, c', alike⟩ := loaded
  have owned : c.toItem.Alike (fun _ d => d = none) (Owned st fixed.likeness) c'.toItem := by
    refine alike.mono (fun _ _ d => d.2) ?_
    rintro _ _ ⟨p, p', rfl, rfl, address, user, -⟩
    exact ⟨⟨p, rfl⟩, .remote ⟨address, user, trivial, rfl, rfl, .none, rfl, rfl⟩⟩
  obtain ⟨⟨outcome, -, after⟩, worlds⟩ :=
    (discovery_paired st fixed).execute owned .none w w ⟨trivial, rfl, trivial, rfl⟩
  refine ⟨c', Prod.ext hr events.symm, outcome, ?_, worlds.stdout, worlds.events⟩
  exact after.scopes_map fun s s' scope => Prod.ext scope.name scope.phase

/-- The sample comes to the same without discovery, although a key is found with it. -/
theorem sample_undiscovered : Host.granting.Fixed ∧
    ∃ c', Chain.ofDocument sampleSettings.undiscovering sampleDocument = (.ok c', []) ∧
      (sampleChain.execute Host.granting none { host := () }).1.1 =
        (c'.execute Host.granting none { host := () }).1.1 ∧
      (sampleChain.execute Host.granting none { host := () }).2.events.filterMap
          Event.essential? =
        (c'.execute Host.granting none { host := () }).2.events.filterMap Event.essential? := by
  have fixed : Host.granting.Fixed := by
    refine ⟨?_, ?_, ?_, ?_, ?_⟩ <;> intros <;> rfl
  obtain ⟨c', compiled, outcome, -, -, events⟩ :=
    discovery_invisible fixed sample_compiles { host := () }
  exact ⟨fixed, c', compiled, outcome, events⟩

end Runbook
