/-
  Sessions on another machine that were given no address do what sessions on this machine do.

  * `StandsIn r l`: the session `r` has no address and no connection, and the shell that it runs
    commands on is `l`;
  * `perform_alike` and `performAll_alike`: actions on both answer the same, in the same world;
  * `spawns_keeping`: of a session on this machine, only processes are asked, all of one shell;
  * `unaddressed_local`: so a session that is given no address cannot be told from one on this
    machine.
-/
import Runbook.Proofs.Chain.Compiled
import Runbook.Proofs.Discovery.Twins
import Runbook.Proofs.Session.Actions

namespace Runbook

variable {σ : Type} {h h' : Host σ} {r : RemoteShell} {l : LocalShell}

/-- The same worlds. -/
def Pairing.same (σ : Type) : Pairing σ σ where
  Worlds := Eq
  note same n := congrArg (·.record (.notice n)) same

theorem Pairing.same_buffered : (Pairing.same σ).Buffered where
  buffers := congrArg World.buffers
  withBuffers := by
    rintro w _ rfl bs
    rfl

/-- A session on another machine without an address, and the session on this machine that it stands
    in for. -/
structure StandsIn (r : RemoteShell) (l : LocalShell) : Prop where
  unaddressed : r.params.address = ""
  apart : r.connection = none
  sink : r.sink = l.sink
  fallback : r.fallback = l

/-- Sessions that stand in for each other. -/
inductive Session.StandsIn : Session → Session → Prop where
  | mk {far near} (alike : Runbook.StandsIn far near) : StandsIn (.remote far) (.shell near)

/-- Only empty addresses are declared. -/
def Declarations.Unaddressed (d : Declarations) : Prop := d.addr.getD "" = ""

namespace StandsIn

variable (alike : StandsIn r l)
include alike

theorem setSink (k : Sink) : StandsIn (r.setSink k) { l with sink := k } where
  unaddressed := alike.unaddressed
  apart := alike.apart
  sink := rfl
  fallback := by rw [RemoteShell.setSink, alike.fallback]

theorem configure {d : Declarations} (unaddressed : d.Unaddressed) : StandsIn (r.configure d) l where
  unaddressed := by
    rw [RemoteShell.configure, Params.merge, alike.unaddressed]
    exact unaddressed
  apart := alike.apart
  sink := alike.sink
  fallback := alike.fallback

theorem identify : (Session.remote r).identify = (Session.shell l).identify := by
  simp [Session.identify, RemoteShell.identify, alike.unaddressed]

theorem connect : r.connect h = pure (.ok (), r) := by
  unfold RemoteShell.connect
  rw [if_pos (by simp [alike.unaddressed])]

theorem close : r.close h = pure (.ok (), r) := by
  unfold RemoteShell.close
  rw [alike.apart]

theorem run (same : h.spawn = h'.spawn) (command : String) :
    r.run h command = l.run h' command >>= fun o => pure (o, r) := by
  unfold RemoteShell.run
  rw [if_pos (by simp [alike.unaddressed]), alike.fallback]
  simp only [LocalShell.run, Run.spawn, same]

end StandsIn

/-! ## Actions -/

theorem Session.StandsIn.identify {far near : Session} (alike : far.StandsIn near) :
    far.identify = near.identify := by
  obtain ⟨alike⟩ := alike
  exact alike.identify

theorem Session.StandsIn.sink {far near : Session} (alike : far.StandsIn near) :
    far.sink = near.sink := by
  obtain ⟨alike⟩ := alike
  exact alike.sink

theorem run_alike (same : h.spawn = h'.spawn) {far near : Session} (alike : far.StandsIn near)
    (command : String) :
    (far.run h command).Alike (Pairing.same σ) (Both Session.StandsIn) (near.run h' command) := by
  obtain ⟨alike⟩ := alike
  rw [Session.run, Session.run, alike.run same, bind_assoc]
  rintro w _ rfl
  exact ⟨⟨rfl, .mk alike⟩, rfl⟩

theorem connect_alike {far near : Session} (alike : far.StandsIn near) :
    (far.connect h).Alike (Pairing.same σ) (Both Session.StandsIn) (near.connect h') := by
  obtain ⟨alike⟩ := alike
  simp only [Session.connect, alike.connect, pure_bind]
  exact Run.alike_pure ⟨rfl, .mk alike⟩

theorem close_alike {far near : Session} (alike : far.StandsIn near) :
    (far.close h).Alike (Pairing.same σ) (Both Session.StandsIn) (near.close h') := by
  obtain ⟨alike⟩ := alike
  simp only [Session.close, alike.close, pure_bind]
  exact Run.alike_pure ⟨rfl, .mk alike⟩

theorem swapSink_alike {far near : Session} (alike : far.StandsIn near) (k : Sink) :
    Both Session.StandsIn (far.swapSink k) (near.swapSink k) := by
  obtain ⟨alike⟩ := alike
  exact ⟨alike.sink, .mk (alike.setSink k)⟩

mutual

/-- **An action answers the same on both sessions**, and leaves the same world. -/
theorem Action.perform_alike (same : h.spawn = h'.spawn) : ∀ (a : Action) {far near : Session},
    (∀ d, .configure d ∈ a.parts → d.Unaddressed) → far.StandsIn near →
    (a.perform h far).Alike (Pairing.same σ) (Both Session.StandsIn) (a.perform h' near)
  | .connect, _, _, _, alike => by
    unfold Action.perform
    refine Run.alike_bind (connect_alike alike) ?_
    rintro ⟨o, far⟩ ⟨_, near⟩ ⟨rfl, alike⟩
    exact Run.alike_pure ⟨rfl, alike⟩
  | .run command, _, _, _, alike => by
    unfold Action.perform
    refine Run.alike_bind (run_alike same alike command) ?_
    rintro ⟨o, far⟩ ⟨_, near⟩ ⟨rfl, alike⟩
    exact Run.alike_pure ⟨rfl, alike⟩
  | .close, _, _, _, alike => by
    unfold Action.perform
    refine Run.alike_bind (close_alike alike) ?_
    rintro ⟨o, far⟩ ⟨_, near⟩ ⟨rfl, alike⟩
    exact Run.alike_pure ⟨rfl, alike⟩
  | .configure d, _, _, unaddressed, ⟨alike⟩ => by
    unfold Action.perform
    -- neither session reports what is declared, and only the far one takes it in
    refine Run.alike_bind (P := Eq) ?_ fun _ _ _ =>
      Run.alike_pure ⟨rfl, .mk (alike.configure (unaddressed d (Action.mem_parts_self _)))⟩
    rintro w _ rfl
    exact ⟨rfl, rfl⟩
  | .redirect sink, _, _, _, alike => by
    unfold Action.perform
    obtain ⟨previous, after⟩ := swapSink_alike alike sink
    exact Run.alike_pure ⟨congrArg Answer.previous previous, after⟩
  | .inspect, _, _, _, alike => by
    unfold Action.perform
    rw [alike.identify, alike.sink]
    exact Run.alike_pure ⟨rfl, alike⟩
  | .capture command, _, _, _, alike => by
    unfold Action.perform Session.capture
    refine Run.alike_bind (capture_alike (T := Session.StandsIn) Pairing.same_buffered
      swapSink_alike (fun alike => run_alike same alike command) alike) ?_
    rintro ⟨text, far⟩ ⟨_, near⟩ ⟨rfl, alike⟩
    exact Run.alike_pure ⟨rfl, alike⟩
  | .within sink strict inside, _, _, unaddressed, alike => by
    unfold Action.perform Session.redirected
    have meantime : ∀ d, .configure d ∈ partsOf inside → d.Unaddressed := fun d hd =>
      unaddressed d (by rw [Action.parts]; exact List.mem_cons_of_mem _ hd)
    refine Run.alike_bind (redirectedBy_alike swapSink_alike
      (fun alike => performAll_alike same strict inside meantime alike) alike sink) ?_
    rintro ⟨⟨answers, o⟩, far⟩ ⟨_, near⟩ ⟨rfl, alike⟩
    exact Run.alike_pure ⟨rfl, alike⟩

theorem performAll_alike (same : h.spawn = h'.spawn) (strict : Bool) :
    ∀ (as : List Action) {far near : Session},
    (∀ d, .configure d ∈ partsOf as → d.Unaddressed) → far.StandsIn near →
    (performAll h strict as far).Alike (Pairing.same σ) (Both Session.StandsIn)
      (performAll h' strict as near)
  | [], _, _, _, alike => Run.alike_pure ⟨rfl, alike⟩
  | a :: as, _, _, unaddressed, alike => by
    rw [partsOf] at unaddressed
    unfold performAll
    refine Run.alike_bind (Action.perform_alike same a (fun d hd =>
      unaddressed d (List.mem_append_left _ hd)) alike) ?_
    rintro ⟨answer, far⟩ ⟨_, near⟩ ⟨rfl, alike⟩
    dsimp only
    split
    · exact Run.alike_pure ⟨rfl, alike⟩
    · refine Run.alike_bind (performAll_alike same strict as (fun d hd =>
        unaddressed d (List.mem_append_right _ hd)) alike) ?_
      rintro ⟨⟨answers, o⟩, far⟩ ⟨_, near⟩ ⟨rfl, alike⟩
      exact Run.alike_pure ⟨rfl, alike⟩

end

/-! ## What is asked of the host -/

/-- The event is a process of the shell. -/
def Event.IsProcessOf (l : LocalShell) (e : Event) : Prop :=
  ∃ command sink answer, e = .spawned (l.process command) sink answer

/-- **Of a session on this machine only processes are asked**, whatever is done with it. -/
theorem spawns_keeping : Keeping (fun _ => True) fun s es t => ∀ l, s = .shell l →
    ∃ sink, t = .shell { l with sink } ∧ ∀ e ∈ es, e.IsProcessOf l where
  refl s l local_ := ⟨l.sink, local_, by simp⟩
  trans first second l local_ := by
    obtain ⟨sink, local', sooner⟩ := first l local_
    obtain ⟨sink', rfl, later⟩ := second _ local'
    exact ⟨sink', rfl, fun e he => (List.mem_append.1 he).elim (sooner e) (later e)⟩
  connect connect := by
    rintro l rfl
    cases connect
    exact ⟨l.sink, rfl, by simp⟩
  run run := by
    rintro l rfl
    obtain ⟨⟨answer⟩⟩ := run
    exact ⟨l.sink, rfl, by simpa using ⟨_, _, _, rfl⟩⟩
  close close := by
    rintro l rfl
    cases close
    exact ⟨l.sink, rfl, by simp⟩
  configure := by
    rintro _ d l rfl
    exact ⟨l.sink, rfl, by simp [Session.configure]⟩
  redirect := by
    rintro _ k - l rfl
    exact ⟨k, rfl, by simp⟩
  within {s k es t} inside := by
    rintro l rfl
    obtain ⟨sink, rfl, processes⟩ := inside { l with sink := k } rfl
    exact ⟨l.sink, rfl, processes⟩

/-- **A session that is given no address cannot be told from one on this machine**: everything
    that is done with it has the same answers, and leaves the same world. All that happens is
    that processes run in the shell of the settings. The hosts have to agree on processes alone. -/
theorem unaddressed_local (same : h.spawn = h'.spawn) (st : Settings) (strict : Bool)
    (as : List Action) (unaddressed : ∀ d, .configure d ∈ partsOf as → d.Unaddressed)
    (w : World σ) :
    (performAll h strict as (.remote (.ofSettings st)) w).1.1 =
        (performAll h' strict as (.shell (.ofSettings st)) w).1.1 ∧
      (performAll h strict as (.remote (.ofSettings st)) w).2 =
        (performAll h' strict as (.shell (.ofSettings st)) w).2 ∧
      (performAll h strict as (.remote (.ofSettings st)) w).1.2.identify =
        (performAll h' strict as (.shell (.ofSettings st)) w).1.2.identify ∧
      (performAll h strict as (.remote (.ofSettings st)) w).1.2.sink =
        (performAll h' strict as (.shell (.ofSettings st)) w).1.2.sink ∧
      ∃ es, (performAll h strict as (.remote (.ofSettings st)) w).2.events = w.events ++ es ∧
        ∀ e ∈ es, ∃ command sink answer,
          e = .spawned ⟨st.shell, shellFlag st.shell, command, st.env⟩ sink answer := by
  have fresh : (Session.remote (.ofSettings st)).StandsIn (.shell (.ofSettings st)) :=
    .mk ⟨rfl, rfl, rfl, rfl⟩
  obtain ⟨⟨answers, after⟩, worlds⟩ := performAll_alike same strict as unaddressed fresh w w rfl
  obtain ⟨es, plays, kept⟩ := spawns_keeping.performAll h' strict as (.shell (.ofSettings st))
    (fun _ _ => trivial) w
  obtain ⟨sink, -, processes⟩ := kept _ rfl
  refine ⟨answers, worlds, ?_, ?_, es, ?_, processes⟩
  · exact after.identify
  · exact after.sink
  · rw [show (performAll h strict as _ w).2 = _ from worlds, plays.events]

/-- A host that cannot reach any other. -/
def Host.isolated : Host Unit :=
  { Host.granting with dial := fun _ => pure (.error (.of "unreachable")) }

/-- What is done on this machine, in part with the output in a buffer. -/
def chores : List Action :=
  [.configure { addr := some "", user := some "ops" }, .connect,
    .within (.buffer 0) true [.run homeCommand, .capture homeCommand, .redirect .stdout, .run "make"],
    .inspect, .run homeCommand, .close]

/-- The chores cannot be told apart, and write to the buffer and to standard output. -/
theorem chores_local : Host.granting.spawn = Host.isolated.spawn ∧
    (∀ d, .configure d ∈ partsOf chores → d.Unaddressed) ∧
    (performAll Host.granting true chores (.remote (.ofSettings {})) { host := (), buffers := [[]] }).1.1 =
      (performAll Host.isolated true chores (.shell (.ofSettings {})) { host := (), buffers := [[]] }).1.1 ∧
    (performAll Host.granting true chores (.remote (.ofSettings {})) { host := (), buffers := [[]] }).2 =
      (performAll Host.isolated true chores (.shell (.ofSettings {})) { host := (), buffers := [[]] }).2 ∧
    (performAll Host.isolated true chores (.shell (.ofSettings {})) { host := (), buffers := [[]] }).2.buffers =
      [Bytes.ofUnits "/root\n"] := by
  have same : Host.granting.spawn = Host.isolated.spawn := rfl
  have unaddressed : ∀ d, .configure d ∈ partsOf chores → d.Unaddressed := by
    intro d hd
    obtain rfl : d = { addr := some "", user := some "ops" } := by
      simpa [chores, partsOf, Action.parts] using hd
    rfl
  obtain ⟨answers, worlds, -⟩ :=
    unaddressed_local same {} true chores unaddressed { host := (), buffers := [[]] }
  refine ⟨same, unaddressed, answers, worlds, ?_⟩
  decide +kernel

end Runbook
