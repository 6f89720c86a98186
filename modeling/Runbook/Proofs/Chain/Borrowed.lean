/-
  A chain only borrows the session around it.

  * `Lent S` is a session that a scope owns, or one that is lent to a chain, with a record of its
    use. In `k.lending other` sessions are used as in `k`, but what only their owner may do with
    those that are lent is left to any kind `other`;
  * `Borrows k lines s t uses`: a session is lent as `s` and is `t` by now. In between, some of
    `lines` were run on it, and commands of a discovery were captured;
  * `lending_covers` and `lending_lends`: scopes do with their own sessions what they always do, and
    with a session that is lent to them what borrowers do;
  * `handedBack_of_borrows`: a borrower hands a session on another machine back as it was, at most
    connected;
  * `execute_borrows`: a chain borrows the session around it, and does not notice what its owner
    could do.
-/
import Runbook.Proofs.Chain.Compiled
import Runbook.Proofs.Chain.Scope
import Runbook.Proofs.Erasure
import Runbook.Proofs.Session.Sinks

namespace Runbook

variable {σ S : Type}

/-! ## Sessions on loan -/

/-- A use of a session on loan. -/
inductive Use where
  | run (line : String)
  /-- Output is sent to another sink; it went to `previous` before. -/
  | redirect (sink previous : Sink)
  deriving DecidableEq, Repr

/-- A session of a scope, or one that is lent to a chain. -/
inductive Lent (S : Type) where
  | own (s : S)
  | lent (s : S) (uses : List Use)
  deriving DecidableEq, Repr

/-- The session itself. -/
def Lent.session : Lent S → S
  | .own s | .lent s _ => s

namespace SessionKind

/-- The kind with sessions on loan. Their uses are put down. What is for their owner to do, to
    connect, close or change them, is left to another kind. -/
def lending (k : SessionKind σ S) (other : SessionKind σ (Lent S)) : SessionKind σ (Lent S) where
  identify s := k.identify s.session
  isPassThrough s := k.isPassThrough s.session
  params? s := k.params? s.session
  changeableParams?
    | .own s => k.changeableParams? s
    | .lent s uses => other.changeableParams? (.lent s uses)
  withParams p
    | .own s => .own (k.withParams p s)
    | .lent s uses => other.withParams p (.lent s uses)
  swapSink sink
    | .own s =>
      let (previous, s) := k.swapSink sink s
      (previous, .own s)
    | .lent s uses =>
      let (previous, s) := k.swapSink sink s
      (previous, .lent s (uses ++ [.redirect sink previous]))
  connect
    | .own s => do
      let (o, s) ← k.connect s
      pure (o, .own s)
    | .lent s uses => other.connect (.lent s uses)
  run
    | .own s, line => do
      let (o, s) ← k.run s line
      pure (o, .own s)
    | .lent s uses, line => do
      let (o, s) ← k.run s line
      pure (o, .lent s (uses ++ [.run line]))
  close
    | .own s => do
      let (o, s) ← k.close s
      pure (o, .own s)
    | .lent s uses => other.close (.lent s uses)

instance : Inhabited (SessionKind σ S) where
  default :=
    { identify := fun _ => ""
      isPassThrough := fun _ => false
      params? := fun _ => none
      changeableParams? := fun _ => none
      withParams := fun _ s => s
      swapSink := fun sink s => (sink, s)
      connect := fun s => pure (.ok (), s)
      run := fun s _ => pure (.ok (), s)
      close := fun s => pure (.ok (), s) }

/-- What borrowers do with a session: they run some of `lines` on it, and capture commands of a
    discovery. Then its output goes to a buffer until the command has been run, and after that to
    the sink from before. -/
inductive Borrows (k : SessionKind σ S) (lines : List String) (s : S) : S → List Use → Prop where
  | lent : Borrows k lines s s []
  | run {t uses} (before : Borrows k lines s t uses) {line} (allowed : line ∈ lines) (w : World σ) :
      Borrows k lines s (k.run t line w).1.2 (uses ++ [.run line])
  | capture {t uses} (before : Borrows k lines s t uses) {line} (key : KeyCommand line) (id : Nat)
      (w : World σ) {previous away meanwhile left}
      (redirect : k.swapSink (.buffer id) t = (previous, away))
      (restore : k.swapSink previous (k.run away line w).1.2 = (meanwhile, left)) :
      Borrows k lines s left
        (uses ++ [.redirect (.buffer id) previous] ++ [.run line] ++ [.redirect previous meanwhile])

variable (k : SessionKind σ S) (other : SessionKind σ (Lent S)) (lines : List String)

/-- A session, and the same on loan, that was only borrowed. -/
def Borrowed (s t : S) (t' : Lent S) : Prop :=
  ∃ uses, t' = .lent t uses ∧ Borrows k lines s t uses

/-- With their own sessions scopes do what they always do. -/
theorem lending_covers : k.Covers (k.lending other) id Lent.own where
  identify _ := rfl
  isPassThrough _ := rfl
  params? _ := rfl
  changeableParams? _ := rfl
  withParams _ _ := rfl
  swapSink _ _ := rfl
  connect _ _ := rfl
  run _ _ _ := rfl
  close _ _ := rfl

/-- A discovery borrows the session that it asks. -/
theorem lending_sources (s : S) :
    k.Sources (k.lending other) (erasing id) (k.Borrowed lines s) where
  identify := by
    rintro t _ ⟨uses, rfl, -⟩
    rfl
  capture := by
    rintro t _ ⟨uses, rfl, before⟩ line key
    refine Run.alike_bind (Run.alike_newBuffer (erasing_buffered id)) ?_
    rintro b _ rfl
    refine Run.alike_bind (P := Both (k.Borrowed lines s)) ?_ ?_
    -- both make the same three uses of the session, and one puts them down
    · rintro w _ rfl
      exact ⟨⟨rfl, _, rfl, before.capture key b w rfl rfl⟩, rfl⟩
    · rintro ⟨o, t⟩ ⟨_, t'⟩ ⟨rfl, after⟩
      refine Run.alike_bind (Run.alike_dropBuffers (erasing_buffered id) b) ?_
      rintro bytes _ rfl
      rcases o with e | u <;> exact Run.alike_pure ⟨rfl, after⟩

/-- **Scopes borrow a session that is lent to them.** -/
theorem lending_lends (s : S) : k.Lends (k.lending other) (erasing id) Eq (Bares .own)
    (Bares .own) (k.Borrowed lines s) (· ∈ lines) where
  identify := (k.lending_sources other lines s).identify
  connectHost owned _ around same :=
    same ▸ (k.lending_covers other).twins.connectHost (k.lending_sources other lines s) owned around _
  run := by
    rintro t _ ⟨uses, rfl, before⟩ line allowed w _ rfl
    exact ⟨⟨rfl, _, rfl, before.run allowed w⟩, rfl⟩

end SessionKind

/-! ## Sessions on another machine -/

namespace RemoteShell

/-- The session is handed back as it was, at most connected. -/
def HandedBack (r r' : RemoteShell) : Prop :=
  ∃ connection, r' = { r with connection } ∧ ∀ c, r.connection = some c → connection = some c

section

variable {r r' r'' : RemoteShell} {o : Outcome} {es : List Event} {command : String}

theorem HandedBack.refl (r : RemoteShell) : r.HandedBack r := ⟨r.connection, rfl, fun _ => id⟩

theorem HandedBack.trans (first : r.HandedBack r') (second : r'.HandedBack r'') :
    r.HandedBack r'' := by
  obtain ⟨connection, rfl, kept⟩ := first
  obtain ⟨connection', rfl, kept'⟩ := second
  exact ⟨connection', rfl, fun c live => kept' c (kept c live)⟩

theorem Links.handedBack (link : r.Links (o, r') es) : r.HandedBack r' := by
  cases link with
  | idle | refused => exact .refl r
  | linked _ apart serial =>
    refine ⟨_, rfl, ?_⟩
    rw [apart]
    exact nofun

theorem Runs.handedBack (run : r.Runs command (o, r') es) : r.HandedBack r' := by
  cases run with
  | here => exact .refl r
  | unlinked _ link | there _ link => exact link.handedBack

end

/-- A session that is used while its output goes elsewhere. -/
theorem HandedBack.restored {r r' : RemoteShell} {k : Sink} (inStep : (Session.remote r).InStep)
    (meanwhile : (r.setSink k).HandedBack r') : r.HandedBack (r'.setSink r.sink) := by
  obtain ⟨connection, rfl, kept⟩ := meanwhile
  have same : r.fallback.sink = r.sink := inStep _ (by simp [Session.sinks])
  refine ⟨connection, ?_, kept⟩
  simp only [setSink, ← same]

theorem HandedBack.inStep {r r' : RemoteShell} (handedBack : r.HandedBack r')
    (inStep : (Session.remote r).InStep) : (Session.remote r').InStep := by
  obtain ⟨connection, rfl, -⟩ := handedBack
  exact inStep

theorem run_handedBack (h : Host σ) (r : RemoteShell) (command : String) (w : World σ) :
    ∃ r', ((Session.remote r).run h command w).1.2 = .remote r' ∧ r.HandedBack r' := by
  obtain ⟨es, -, run⟩ := r.run_plays h command w
  exact ⟨_, rfl, run.handedBack⟩

/-- **A borrower hands the session back**, whatever was run and captured. -/
theorem handedBack_of_borrows {h : Host σ} {lines : List String} {r : RemoteShell}
    (inStep : (Session.remote r).InStep) {t : Session} {uses : List Use}
    (borrows : (Session.kind h).Borrows lines (.remote r) t uses) :
    ∃ r', t = .remote r' ∧ r.HandedBack r' := by
  induction borrows with
  | lent => exact ⟨r, rfl, .refl r⟩
  | @run _ _ _ line _ w ih =>
    obtain ⟨r', rfl, before⟩ := ih
    obtain ⟨r'', after, run⟩ := r'.run_handedBack h line w
    exact ⟨r'', after, before.trans run⟩
  | @capture _ _ _ line _ id w _ _ _ _ redirect restore ih =>
    -- only in step does the sink that is restored fit the session on this machine as well
    obtain ⟨r', rfl, before⟩ := ih
    obtain ⟨rfl, rfl⟩ := Prod.mk.inj redirect
    obtain ⟨r'', away, run⟩ := (r'.setSink (.buffer id)).run_handedBack h line w
    obtain ⟨-, rfl⟩ := Prod.mk.inj restore
    refine ⟨r''.setSink r'.sink, ?_, before.trans (run.restored (before.inStep inStep))⟩
    exact congrArg (Session.setSink r'.sink) away

end RemoteShell

/-! ## Chains -/

/-- What comes of it that `s` is lent to a chain, which is executed on it: it is `t` afterwards, and
    was used by `uses`. -/
structure SessionKind.Loan (k : SessionKind σ S) (other : SessionKind σ (Lent S)) (c : Chain S)
    (s : S) (w : World σ) (t : S) (uses : List Use) : Prop where
  left : (k.execute c (some s) w).1.2.1 = some t
  borrows : k.Borrows (c.borrowing k) s t uses
  /-- On loan the chain comes to the same, in the same world, and the uses are put down. -/
  same : (k.lending other).execute (c.map .own) (some (.lent s [])) w =
    (((k.execute c (some s) w).1.1, some (.lent t uses), (k.execute c (some s) w).1.2.2.map .own),
      (k.execute c (some s) w).2)

theorem SessionKind.execute_loan (k : SessionKind σ S) (other : SessionKind σ (Lent S)) (c : Chain S)
    (s : S) (w : World σ) : ∃ t uses, k.Loan other c s w t uses := by
  obtain ⟨⟨outcome, around, chain⟩, worlds⟩ := (k.lending_lends other (c.borrowing k) s).execute
    (k.lending_covers other).twins.paired (fun _ => id) c.alike_map (.some ⟨[], rfl, .lent⟩) w w rfl
  obtain ⟨t, left⟩ := Option.isSome_iff_exists.1 (execute_isSome k c s w)
  rw [left] at around
  generalize around' : ((k.lending other).execute _ _ w).1.2.1 = left' at around
  obtain @⟨_, _, uses, rfl, borrows⟩ := around
  refine ⟨t, uses, left, borrows, Prod.ext (Prod.ext outcome.symm (Prod.ext around' ?_)) worlds⟩
  exact Chain.eq_map chain

/-- **A chain borrows the session around it**, whatever kind its sessions are of: it runs the
    commands that borrow the session, and captures those of discoveries. To connect, close or change
    the session is for its owner, and on loan the chain comes to the same with any `other` kind,
    so it never does that; kinds have no operation to configure a session. A session on another
    machine, which is in step whatever was done with it before (`inStep_keeping`), is handed back as
    it was, at most connected. -/
theorem execute_borrows :
    (∀ {σ S : Type} (k : SessionKind σ S) (other : SessionKind σ (Lent S)) (c : Chain S) (s : S)
      (w : World σ), ∃ t uses, k.Loan other c s w t uses) ∧
    ∀ {σ : Type} (h : Host σ) (c : Chain) (r : RemoteShell), (Session.remote r).InStep →
      ∀ w : World σ, ∃ connection,
        (c.execute h (some (.remote r)) w).1.2.1 = some (.remote { r with connection }) ∧
          ∀ live, r.connection = some live → connection = some live := by
  refine ⟨SessionKind.execute_loan, fun h c r inStep w => ?_⟩
  obtain ⟨t, uses, loan⟩ := (Session.kind h).execute_loan default c (.remote r) w
  obtain ⟨_, rfl, connection, rfl, kept⟩ := RemoteShell.handedBack_of_borrows inStep loan.borrows
  exact ⟨connection, loan.left, kept⟩

/-- A session that is connected to another machine. -/
def gateShell : RemoteShell :=
  { RemoteShell.ofSettings {} with
    params := { address := "gate:22", user := "ops" }
    connection := some ⟨"gate:22", 3⟩ }

/-- The sample is run on another machine, and finds no key there. -/
theorem gate_handed_back : (Session.remote gateShell).InStep ∧
    (sampleChain.execute Host.granting (some (.remote gateShell)) { host := () }).1.2.1 =
      some (.remote gateShell) := by
  have inStep : (Session.remote gateShell).InStep := by
    simp [Session.InStep, Session.sinks, Session.sink, gateShell, RemoteShell.ofSettings,
      LocalShell.ofSettings]
  obtain ⟨connection, left, kept⟩ :=
    execute_borrows.2 Host.granting sampleChain gateShell inStep { host := () }
  obtain rfl : connection = gateShell.connection := kept _ rfl
  exact ⟨inStep, left⟩

/-- What the sample uses the session for. -/
example : (((Session.kind Host.granting).lending default).execute (sampleChain.map .own)
      (some (.lent (.remote gateShell) [])) { host := () }).1.2.1 =
    some (.lent (.remote gateShell)
      [.run "make", .redirect (.buffer 0) .stdout, .run homeCommand,
        .redirect .stdout (.buffer 0), .run "report"]) := by
  decide +kernel

end Runbook
