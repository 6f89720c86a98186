/-
  Where the commands of a session on another machine run.

  A session is connected, used, closed, configured and redirected in any order
  (`RemoteShell.Step`). Its `history` tells for each operation what the session was before it
  and what happened.

  * `ranAt` lists the places that commands were sent to;
  * `Takes.kept` and `Takes.faithful`: what each operation keeps of the open connection: it was
    dialed before, and to the address of the session;
  * `run_targets`: commands run on this machine exactly without an address, and otherwise over a
    connection that was dialed before. It leads to the address that the session names, as long
    as no open connection's session is given another address;
  * `readdressed_misses`: afterwards it does not;
  * `compile_inherited`: a session that is handed to a chain is configured in the same way.
-/
import Runbook.Proofs.Chain.Compiled

namespace Runbook

variable {σ : Type}

/-- The place that an event sends a command to. -/
def Event.place? : Event → Option Place
  | .opened c _ _ => some (some c)
  | .executed c _ _ _ => some (some c)
  | .spawned _ _ _ => some none
  | _ => none

/-- The places that commands were sent to. -/
def ranAt (es : List Event) : List Place := es.filterMap Event.place?

/-- The connection was dialed. -/
def Dialed (c : Connection) (es : List Event) : Prop :=
  ∃ d, Event.dialed d (.ok c.serial) ∈ es ∧ d.address = c.address

theorem Dialed.mono {c : Connection} {es es' : List Event} (dialed : Dialed c es)
    (sub : es ⊆ es') : Dialed c es' := by
  obtain ⟨d, hd, address⟩ := dialed
  exact ⟨d, sub hd, address⟩

namespace RemoteShell

/-- An operation on a session. -/
inductive Step where
  | connect
  | run (command : String)
  | close
  | configure (d : Declarations)
  | redirect (sink : Sink)

/-- The session after an operation. -/
def perform (h : Host σ) (r : RemoteShell) : Step → Run σ RemoteShell
  | .connect => do
    let (_, r) ← r.connect h
    pure r
  | .run command => do
    let (_, r) ← r.run h command
    pure r
  | .close => do
    let (_, r) ← r.close h
    pure r
  | .configure d => pure (r.configure d)
  | .redirect sink => pure (r.setSink sink)

/-- One operation of many: the session before it, the operation, and what happened. -/
structure Moment where
  session : RemoteShell
  step : Step
  events : List Event

/-- The moments of operations that are performed one after the other. -/
def history (h : Host σ) : RemoteShell → List Step → World σ → List Moment
  | _, [], _ => []
  | r, step :: steps, w =>
    let (r', w') := r.perform h step w
    ⟨r, step, w'.events.drop w.events.length⟩ :: history h r' steps w'

theorem history_cons (h : Host σ) (r : RemoteShell) (step : Step) (steps : List Step)
    (w : World σ) : history h r (step :: steps) w =
      ⟨r, step, (r.perform h step w).2.events.drop w.events.length⟩ ::
        history h (r.perform h step w).1 steps (r.perform h step w).2 := rfl

/-- The session of an open connection is given another address. -/
def Moment.Readdresses (m : Moment) : Prop :=
  ∃ d c, m.step = .configure d ∧ m.session.connection = some c ∧
    (m.session.configure d).params.address ≠ "" ∧
    c.address ≠ (m.session.configure d).params.address

/-! ## What an operation does -/

/-- An operation is performed. -/
inductive Takes (r : RemoteShell) : Step → RemoteShell → List Event → Prop where
  | connect {o r' es} (link : r.Links (o, r') es) : Takes r .connect r' es
  | run {command o r' es} (run : r.Runs command (o, r') es) : Takes r (.run command) r' es
  | close {o r' es} (close : r.Closes (o, r') es) : Takes r .close r' es
  | configure (d) : Takes r (.configure d) (r.configure d) []
  | redirect (sink) : Takes r (.redirect sink) (r.setSink sink) []

theorem perform_plays (h : Host σ) (r : RemoteShell) (step : Step) :
    (r.perform h step).Gives played (r.Takes step) := by
  cases step with
  | connect => exact Run.gives_map (r.connect_plays h) fun _ _ link => .connect link
  | run command => exact Run.gives_map (r.run_plays h command) fun _ _ run => .run run
  | close => exact Run.gives_map (r.close_plays h) fun _ _ close => .close close
  | configure d => exact Run.gives_pure (.configure d)
  | redirect sink => exact Run.gives_pure (.redirect sink)

/-- The open connection was dialed before. -/
def Kept (earlier : List Event) (r : RemoteShell) : Prop :=
  ∀ c, r.connection = some c → Dialed c earlier

/-- The open connection leads to the address of the session. -/
def Faithful (r : RemoteShell) : Prop :=
  ∀ c, r.connection = some c → r.params.address ≠ "" → c.address = r.params.address

section

variable {r r' : RemoteShell} {earlier es : List Event} {o : Outcome}

theorem Kept.later (kept : r.Kept earlier) : r.Kept (earlier ++ es) :=
  fun c hc => (kept c hc).mono (List.subset_append_left _ _)

theorem Links.params (link : r.Links (o, r') es) : r'.params = r.params := by
  cases link <;> rfl

theorem Links.kept (link : r.Links (o, r') es) (kept : r.Kept earlier) :
    r'.Kept (earlier ++ es) := by
  cases link with
  | idle | refused => exact kept.later
  | linked _ _ serial =>
    rintro c ⟨⟩
    exact ⟨r.dialRequest, by simp, rfl⟩

theorem Links.faithful (link : r.Links (o, r') es) (faithful : r.Faithful) : r'.Faithful := by
  cases link with
  | idle | refused => exact faithful
  | linked =>
    rintro c ⟨⟩ -
    rfl

theorem Takes.runs {command : String} (takes : r.Takes (.run command) r' es) :
    ∃ o, r.Runs command (o, r') es := by
  cases takes with
  | run run => exact ⟨_, run⟩

theorem Takes.kept {step : Step} (takes : r.Takes step r' es) (kept : r.Kept earlier) :
    r'.Kept (earlier ++ es) := by
  cases takes with
  | connect link => exact link.kept kept
  | run run =>
    cases run with
    | here => exact kept.later
    | unlinked _ link => exact link.kept kept
    | there _ link _ _ =>
      rw [← List.append_assoc]
      exact (link.kept kept).later
  | close close =>
    cases close with
    | idle => exact kept.later
    | ended => exact nofun
  | configure d => exact kept.later
  | redirect sink => exact kept.later

theorem Takes.faithful {step : Step} (takes : r.Takes step r' es) (faithful : r.Faithful)
    (steady : ¬ Moment.Readdresses ⟨r, step, es⟩) : r'.Faithful := by
  cases takes with
  | connect link => exact link.faithful faithful
  | run run =>
    cases run with
    | here => exact faithful
    | unlinked _ link | there _ link => exact link.faithful faithful
  | close close =>
    cases close with
    | idle => exact faithful
    | ended => exact nofun
  | configure d =>
    intro c hc addressed
    exact Decidable.byContradiction fun other => steady ⟨d, c, rfl, hc, addressed, other⟩
  | redirect sink => exact faithful

/-! ## Where commands run -/

/-- Commands are sent to this machine exactly without an address, and otherwise over a
    connection that was dialed. -/
structure Reaches (r : RemoteShell) (es : List Event) (pl : Place) : Prop where
  here : r.params.address = "" → pl = none
  there : r.params.address ≠ "" → ∃ c, pl = some c ∧ Dialed c es
  named : r.Faithful → pl.name = r.identify

theorem Speaks.place {name command : String} {c : Connection} {sink : Sink}
    (speak : Speaks name c sink command o es) : ∀ pl ∈ ranAt es, pl = some c := by
  intro pl hp
  rcases speak with f | ⟨answer, e | u, f | u⟩ <;>
    simpa [ranAt, Event.place?, noteUnflushed, noteUnclosed] using hp

theorem Links.nowhere (link : r.Links (o, r') es) : ranAt es = [] := by
  cases link <;> rfl

/-- **A command reaches its target.** -/
theorem Runs.reaches {command : String} (run : r.Runs command (o, r') es)
    (kept : r.Kept earlier) : ∀ pl ∈ ranAt es, r.Reaches (earlier ++ es) pl := by
  intro pl hp
  cases run with
  | here unaddressed run =>
    obtain ⟨answer⟩ := run
    obtain rfl : pl = none := by simpa [ranAt, Event.place?] using hp
    refine ⟨fun _ => rfl, fun addressed => absurd unaddressed addressed, fun _ => ?_⟩
    simp [Place.name, RemoteShell.identify, unaddressed]
  | unlinked addressed link =>
    rw [link.nowhere] at hp
    cases hp
  | @there _ es₁ c _ es₂ addressed link connection speak =>
    obtain rfl : pl = some c := by
      rw [ranAt, List.filterMap_append, ← ranAt, ← ranAt, link.nowhere, List.nil_append] at hp
      exact speak.place pl hp
    refine ⟨fun unaddressed => absurd unaddressed addressed, fun _ => ⟨c, rfl, ?_⟩, fun faithful => ?_⟩
    · refine (link.kept kept c connection).mono ?_
      rw [← List.append_assoc]
      exact List.subset_append_left _ _
    · have same := link.faithful faithful c connection (link.params ▸ addressed)
      rw [link.params] at same
      simp [Place.name, RemoteShell.identify, addressed, same]

end

/-- What happened at the moments. -/
def eventsOf (ms : List Moment) : List Event := ms.flatMap (·.events)

/-- The moments of a history, in a session whose open connection was dialed earlier. -/
theorem history_reaches (h : Host σ) : ∀ (steps : List Step) (r : RemoteShell) (w : World σ)
    (earlier : List Event) (before : List Moment) (m : Moment) (after : List Moment),
    r.Kept earlier → history h r steps w = before ++ m :: after →
    ∀ command, m.step = .run command → ∀ pl ∈ ranAt m.events,
      (m.session.params.address = "" → pl = none) ∧
        (m.session.params.address ≠ "" →
          ∃ c, pl = some c ∧ Dialed c (earlier ++ eventsOf (before ++ [m]))) ∧
        (r.Faithful → (∀ m' ∈ before, ¬ m'.Readdresses) → pl.name = m.session.identify)
  | [], r, w, earlier, before, m, after, _, split => by cases before <;> cases split
  | step :: steps, r, w, earlier, before, m, after, kept, split => by
    obtain ⟨es, plays, takes⟩ := r.perform_plays h step w
    have happened : (r.perform h step w).2.events.drop w.events.length = es := by
      rw [plays.events, List.drop_left]
    rw [history_cons, happened] at split
    intro command runs pl hp
    cases before with
    | nil =>
      obtain ⟨rfl, -⟩ := List.cons.inj split
      obtain rfl : step = .run command := runs
      obtain ⟨o, ran⟩ := takes.runs
      obtain ⟨here, there, named⟩ := ran.reaches kept pl hp
      refine ⟨here, fun addressed => ?_, fun faithful _ => named faithful⟩
      simpa [eventsOf] using there addressed
    | cons first before =>
      obtain ⟨rfl, rest⟩ := List.cons.inj split
      obtain ⟨here, there, named⟩ := history_reaches h steps _ _ (earlier ++ es) before m after
        (takes.kept kept) rest command runs pl hp
      refine ⟨here, fun addressed => ?_, fun faithful steady => ?_⟩
      · simpa [eventsOf] using there addressed
      · exact named (takes.faithful faithful (steady _ List.mem_cons_self))
          fun m' hm => steady m' (List.mem_cons_of_mem _ hm)

/-- **Where commands run.** Whatever is done with a session, in any order: its commands run on
    this machine exactly while it has no address, and otherwise over a connection that was dialed
    before. The place has the name of the session, as long as no open connection's session was
    given another address. -/
theorem run_targets (h : Host σ) {r : RemoteShell} (apart : r.connection = none)
    {steps : List Step} {w : World σ} {before after : List Moment} {m : Moment}
    (performed : history h r steps w = before ++ m :: after) {command : String}
    (runs : m.step = .run command) : ∀ pl ∈ ranAt m.events,
      (m.session.params.address = "" → pl = none) ∧
        (m.session.params.address ≠ "" →
          ∃ c, pl = some c ∧ Dialed c (eventsOf (before ++ [m]))) ∧
        ((∀ m' ∈ before, ¬ m'.Readdresses) → pl.name = m.session.identify) := by
  have kept : r.Kept [] := fun c hc => by rw [apart] at hc; cases hc
  have faithful : r.Faithful := fun c hc => by rw [apart] at hc; cases hc
  intro pl hp
  obtain ⟨here, there, named⟩ :=
    history_reaches h steps r w [] before m after kept performed command runs pl hp
  exact ⟨here, there, named faithful⟩

/-- A session that is handed to a chain is configured like any other, connected or not: with what
    the entries of the outermost scope declare. -/
theorem compile_inherited {st : Settings} (name : String) (entries : List Node)
    (r : RemoteShell) :
    (Chain.compile st name (.sequence entries) (some (.remote r))).1.map (·.scope.session) =
      some (.remote (r.configure (Site.mk name entries none).declared)) := by
  simp only [Chain.compile, Scope.withReading, ofEntries_site entries none]
  by_cases idle : (Site.mk name entries none).declared.isEmpty = true
  · obtain ⟨⟨addr, user⟩, password⟩ := by simpa [Declarations.isEmpty] using idle
    simp [idle, Scope.fresh, configure, Params.merge, addr, user, password]
  · simp [idle, Scope.fresh, Session.configure]

/-- A session is given an address, connected and used. -/
def visiting : List Step :=
  [.configure { addr := some "a:1" }, .connect, .run "hostname"]

/-- The command runs over the connection, at the address that the session names. -/
theorem visiting_reaches : ∃ before m,
    history Host.granting (.ofSettings {}) visiting { host := () } = before ++ [m] ∧
      m.session.identify = "a:1" ∧ ranAt m.events ≠ [] ∧
      ∀ pl ∈ ranAt m.events, pl.name = "a:1" := by
  have performed : history Host.granting (.ofSettings {}) visiting { host := () } =
      [⟨.ofSettings {}, _, _⟩, ⟨_, .connect, _⟩] ++ [⟨_, .run "hostname", _⟩] := rfl
  refine ⟨_, _, performed, rfl, by decide, fun pl hp => ?_⟩
  refine (run_targets Host.granting rfl performed rfl pl hp).2.2 fun m' hm => ?_
  rintro ⟨d, c, configured, connected, -⟩
  rcases List.mem_cons.1 hm with rfl | hm
  · cases connected
  · obtain rfl := List.mem_singleton.1 hm
    cases configured

/-- A session is connected, and then given another address. -/
def readdressing : List Step :=
  [.configure { addr := some "a:1" }, .connect, .configure { addr := some "b:2" }, .run "hostname"]

/-- **A session that is given another address while it is connected** runs its commands where it
    was connected before, and names the new address. -/
theorem readdressed_misses :
    ¬ ∀ m ∈ history Host.granting (.ofSettings {}) readdressing { host := () },
      ∀ command, m.step = .run command → ∀ pl ∈ ranAt m.events, pl.name = m.session.identify := by
  intro reaches
  have performed : history Host.granting (.ofSettings {}) readdressing { host := () } =
      [_, _, _] ++ [⟨_, .run "hostname", _⟩] := rfl
  have ran := reaches _ (performed ▸ List.mem_append_right _ List.mem_cons_self) "hostname" rfl
    (some ⟨"a:1", 7⟩) List.mem_cons_self
  exact absurd ran (by decide)

end RemoteShell

end Runbook
