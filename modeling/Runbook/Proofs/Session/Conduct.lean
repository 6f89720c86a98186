/-
  The ways in which sessions can be used, with the events that each leaves.

  One relation for each operation of each kind of session, one case for each way through:
  `LocalShell.Runs`; `RemoteShell.Speaks`, `Links`, `Runs` and `Closes`; and the relations
  of `Session` that put them together. `Session.conduct` proves that nothing else can
  happen, on any host.
-/
import Runbook.Proofs.View
import Runbook.Proofs.Session.Played

namespace Runbook

variable {σ : Type} (h : Host σ)

/-! ## Shells on this machine -/

/-- A command is run by a process of its own. -/
inductive LocalShell.Runs (l : LocalShell) (command : String) : Outcome → List Event → Prop where
  | mk (answer : Except String Finished) :
      Runs l command (l.outcome command (answer.map (·.ending)))
        [.spawned (l.process command) l.sink answer]

theorem LocalShell.run_plays (l : LocalShell) (command : String) :
    (l.run h command).Gives played (l.Runs command) := by
  refine Run.gives_map (Run.spawn_plays h _ _) ?_
  rintro _ _ ⟨answer, rfl, rfl⟩
  exact .mk answer

/-! ## Shells on other machines -/

namespace RemoteShell

/-- The notice about a channel that was not closed. -/
def noteUnclosed (name : String) : Except Failure Unit → List Event
  | .ok () => []
  | .error f => [.notice (.channelCloseFailed name f)]

/-- A command is run on a channel of its own, for a target of that name. -/
inductive Speaks (name : String) (c : Connection) (sink : Sink) (command : String) :
    Outcome → List Event → Prop where
  | unopened (f : Failure) :
      Speaks name c sink command (.error (.failed name command f.text))
        [.opened c ⟨command, sink⟩ (.error f)]
  | spoken (answer : Executed) (flushed : Except String Unit) (closed : Except Failure Unit) :
      Speaks name c sink command (outcome name command answer.status)
        (.opened c ⟨command, sink⟩ (.ok ()) :: .executed c command sink answer ::
          (noteUnflushed command flushed ++ .channelClosed c sink closed ::
            noteUnclosed name closed))

/-- A session is connected. -/
inductive Links (r : RemoteShell) : Outcome × RemoteShell → List Event → Prop where
  | idle (idle : r.params.address = "" ∨ r.isConnected = true) : Links r (.ok (), r) []
  | linked (addressed : r.params.address ≠ "") (apart : r.connection = none) (serial : Nat) :
      Links r (.ok (), { r with connection := some ⟨r.params.address, serial⟩ })
        [.notice (.connecting r.params.user r.params.address), .dialed r.dialRequest (.ok serial)]
  | refused (addressed : r.params.address ≠ "") (apart : r.connection = none) (f : Failure) :
      Links r (.error (.unreachable r.params.address f.text), r)
        [.notice (.connecting r.params.user r.params.address), .dialed r.dialRequest (.error f),
          .notice (.dialFailed r.params.address f)]

/-- A command is run: on this machine without an address, otherwise over the connection,
    which is dialed if need be. -/
inductive Runs (r : RemoteShell) (command : String) :
    Outcome × RemoteShell → List Event → Prop where
  | here {o es} (unaddressed : r.params.address = "") (run : r.fallback.Runs command o es) :
      Runs r command (o, r) es
  | unlinked {e r' es} (addressed : r.params.address ≠ "") (link : r.Links (.error e, r') es) :
      Runs r command (.error e, r') es
  | there {r' es c o es'} (addressed : r.params.address ≠ "") (link : r.Links (.ok (), r') es)
      (connection : r'.connection = some c)
      (speak : Speaks r'.identify c r'.sink command o es') :
      Runs r command (o, r') (es ++ es')

/-- What a session's closing comes to. -/
def hangUp (address : String) : Except Failure Unit → Outcome
  | .ok () => .ok ()
  | .error f => .error (.unreachable address f.text)

/-- A session is closed. -/
inductive Closes (r : RemoteShell) : Outcome × RemoteShell → List Event → Prop where
  | idle (apart : r.connection = none) : Closes r (.ok (), r) []
  | ended {c} (connection : r.connection = some c) (answer : Except Failure Unit) :
      Closes r (hangUp r.params.address answer, { r with connection := none })
        [.notice (.disconnecting r.params.address), .disconnected c answer]

theorem connect_plays (r : RemoteShell) : (r.connect h).Gives played r.Links := by
  unfold RemoteShell.connect
  split
  · next idle => exact Run.gives_pure (.idle (by simpa using idle))
  · next busy =>
    obtain ⟨addressed, apart⟩ : r.params.address ≠ "" ∧ r.connection = none := by
      simpa [isConnected] using busy
    refine Run.gives_bind (Run.note_plays _) ?_
    rintro - es rfl
    refine Run.gives_bind (Run.dial_plays h _) ?_
    rintro _ _ ⟨f | serial, rfl, rfl⟩
    · refine Run.gives_map (Run.note_plays _) ?_
      rintro - es rfl
      exact .refused addressed apart f
    · exact Run.gives_pure (.linked addressed apart serial)

theorem runOn_plays (r : RemoteShell) (c : Connection) (command : String) :
    (r.runOn h c command).Gives played (Speaks r.identify c r.sink command) := by
  unfold RemoteShell.runOn
  refine Run.gives_bind (Run.openChannel_plays h c _) ?_
  rintro (f | u) es rfl
  · exact Run.gives_pure (.unopened f)
  · refine Run.gives_bind (speak_plays h c command r.sink) ?_
    rintro _ _ ⟨answer, flushed, rfl, rfl⟩
    refine Run.gives_bind (Run.closeChannel_plays h c r.sink) ?_
    rintro (f | u) es rfl
    · refine Run.gives_map (Run.note_plays _) ?_
      rintro - es rfl
      simpa [noteUnclosed] using .spoken answer flushed (.error f)
    · refine Run.gives_pure ?_
      simpa [noteUnclosed] using .spoken answer flushed (.ok ())

/-- A session with an address that has connected is on a connection. -/
theorem Links.connected {r r' : RemoteShell} {es : List Event} (addressed : r.params.address ≠ "")
    (link : r.Links (.ok (), r') es) : ∃ c, r'.connection = some c := by
  cases link with
  | idle idle =>
    rcases idle with idle | idle
    · exact absurd idle addressed
    · exact Option.isSome_iff_exists.1 idle
  | linked => exact ⟨_, rfl⟩

theorem run_plays (r : RemoteShell) (command : String) :
    (r.run h command).Gives played (r.Runs command) := by
  unfold RemoteShell.run
  split
  · next unaddressed =>
    exact Run.gives_map (r.fallback.run_plays h command) fun o es run =>
      .here (by simpa using unaddressed) run
  · next addressed =>
    replace addressed : r.params.address ≠ "" := by simpa using addressed
    refine Run.gives_bind (r.connect_plays h) ?_
    rintro ⟨e | u, r'⟩ es link
    · exact Run.gives_pure (by simpa using .unlinked addressed link)
    · obtain ⟨c, hc⟩ := link.connected addressed
      simp only [hc]
      exact Run.gives_map (r'.runOn_plays h c command) fun o es' speak =>
        .there addressed link hc speak

theorem close_plays (r : RemoteShell) : (r.close h).Gives played r.Closes := by
  unfold RemoteShell.close
  rcases hc : r.connection with _ | c
  · exact Run.gives_pure (.idle hc)
  · refine Run.gives_bind (Run.note_plays _) ?_
    rintro - es rfl
    refine Run.gives_bind (Run.disconnect_plays h c) ?_
    rintro (f | u) es rfl
    · exact Run.gives_pure (.ended hc (.error f))
    · exact Run.gives_pure (.ended hc (.ok ()))

end RemoteShell

/-! ## All sessions -/

namespace Session

/-- A session is connected. -/
inductive Connects : Session → Outcome × Session → List Event → Prop where
  | shell (l) : Connects (shell l) (.ok (), shell l) []
  | remote {r o r' es} (link : r.Links (o, r') es) : Connects (remote r) (o, remote r') es
  | custom (c) (o) : Connects (custom c) (o, custom c) [.customConnected c.id o]

/-- A command is run on a session. -/
inductive Runs (command : String) : Session → Outcome × Session → List Event → Prop where
  | shell {l o es} (run : l.Runs command o es) : Runs command (shell l) (o, shell l) es
  | remote {r o r' es} (run : r.Runs command (o, r') es) :
      Runs command (remote r) (o, remote r') es
  | custom (c) (answer : CustomRun) :
      Runs command (custom c) (answer.outcome, custom c)
        [.customRan c.id command c.sink answer]

/-- A session is closed. -/
inductive Closes : Session → Outcome × Session → List Event → Prop where
  | shell (l) : Closes (shell l) (.ok (), shell l) []
  | remote {r o r' es} (close : r.Closes (o, r') es) : Closes (remote r) (o, remote r') es
  | custom (c) (o) : Closes (custom c) (o, custom c) [.customClosed c.id o]

/-- A command is run on a session with its output captured. -/
inductive Captures (command : String) (s : Session) :
    Except Fault String × Session → List Event → Prop where
  | mk {id o t es} (run : Runs command (s.setSink (.buffer id)) (o, t) es) :
      Captures command s
        (o.map fun _ => Bytes.decodeLossy (outputTo (.buffer id) es), t.setSink s.sink) es

theorem connect_plays (s : Session) : (s.connect h).Gives played s.Connects := by
  cases s with
  | shell l => exact Run.gives_pure (.shell l)
  | remote r => exact Run.gives_map (r.connect_plays h) fun _ _ link => .remote link
  | custom c =>
    refine Run.gives_map (Run.customConnect_plays h c.id) ?_
    rintro o es rfl
    exact .custom c o

theorem run_plays (command : String) (s : Session) :
    (s.run h command).Gives played (Runs command s) := by
  cases s with
  | shell l => exact Run.gives_map (l.run_plays h command) fun _ _ run => .shell run
  | remote r => exact Run.gives_map (r.run_plays h command) fun _ _ run => .remote run
  | custom c =>
    refine Run.gives_map (Run.customRun_plays h c.id command c.sink) ?_
    rintro _ _ ⟨answer, rfl, rfl⟩
    exact .custom c answer

theorem close_plays (s : Session) : (s.close h).Gives played s.Closes := by
  cases s with
  | shell l => exact Run.gives_pure (.shell l)
  | remote r => exact Run.gives_map (r.close_plays h) fun _ _ close => .remote close
  | custom c =>
    refine Run.gives_map (Run.customClose_plays h c.id) ?_
    rintro o es rfl
    exact .custom c o

/-- **The conduct of sessions**, with all their events. -/
def conduct : Conduct (kind h) played where
  note n := [.notice n]
  Connects := Connects
  Runs := Runs
  Captures := Captures
  Closes := Closes
  note_gives := Run.note_plays
  connect_gives := connect_plays h
  run_gives := run_plays h
  capture_gives command s := by
    refine (capture_plays fun id => run_plays h command (s.setSink (.buffer id))).mono ?_
    rintro _ es ⟨id, o, t, run, rfl⟩
    exact .mk run
  close_gives := close_plays h

end Session

end Runbook
