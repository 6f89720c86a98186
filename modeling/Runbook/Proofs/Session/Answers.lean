/-
  Hosts whose answers are fixed, and what sessions come to on them.

  What such a host knows of a connection may be its address, the request that it was dialed
  with, or more; it answers by that and by the command, whatever happened before. How it
  numbers connections is its own affair.

  * `Host.Follows h f`: all answers of the host are those of `f`;
  * `imprint es` is what is left of events without notices and numbers;
  * `Run.Settles m a ms`: in every world the run answers `a` and leaves the imprint `ms`;
  * `Answers.At f st x s`: commands given to the session `s` run at the venue `x`;
  * `At.run` and `At.capture`: what a command comes to depends on the venue alone.
-/
import Runbook.Proofs.Session.Likeness
import Runbook.Proofs.Session.Place

namespace Runbook

open Session (resting linked)

variable {σ κ α β : Type}

/-! ## Fixed answers -/

/-- Answers that depend on the operation, on its command or request, and on what is known of
    the connection that it uses. The end of a channel may depend on the command that was run on
    it. -/
structure Answers (κ : Type) where
  /-- What is known of a connection. All of it may be told by its number, which is up to the
      host: also the request by which it was dialed. -/
  knows : Connection → κ
  /-- What is known of the new connection, or why there is none. -/
  dial : Dial → Except Failure κ
  openChannel : κ → Except Failure Unit
  converse : κ → String → Executed × Except Failure Unit
  disconnect : κ → Except Failure Unit
  spawn : Process → Except String Finished

/-- All answers of the host are these, in every state. -/
structure Host.Follows (h : Host σ) (f : Answers κ) : Prop where
  dial : ∀ d s, (h.dial d s).1.map (fun serial => f.knows ⟨d.address, serial⟩) = f.dial d
  openChannel : ∀ c s, (h.openChannel c s).1 = f.openChannel (f.knows c)
  converse : ∀ c command s, (h.converse c command s).1 = f.converse (f.knows c) command
  disconnect : ∀ c s, (h.disconnect c s).1 = f.disconnect (f.knows c)
  spawn : ∀ p s, (h.spawn p s).1 = f.spawn p

/-! ## Imprints -/

/-- A connection without its number. -/
def Connection.unnumbered (c : Connection) : Connection := { c with serial := 0 }

/-- A sink without its number. -/
def Sink.unnumbered : Sink → Sink
  | .stdout => .stdout
  | .buffer _ => .buffer 0

/-- What is left of an event without numbers; nothing is left of notices. -/
def Event.imprint? : Event → Option Event
  | .notice _ => none
  | .dialed d answer => some (.dialed d (answer.map fun _ => 0))
  | .opened c ⟨command, sink⟩ answer =>
    some (.opened c.unnumbered ⟨command, sink.unnumbered⟩ answer)
  | .executed c command sink answer =>
    some (.executed c.unnumbered command sink.unnumbered answer)
  | .channelClosed c sink answer => some (.channelClosed c.unnumbered sink.unnumbered answer)
  | .disconnected c answer => some (.disconnected c.unnumbered answer)
  | .spawned p sink answer => some (.spawned p sink.unnumbered answer)
  | .customRan id command sink answer => some (.customRan id command sink.unnumbered answer)
  | e => some e

/-- What is left of events without notices and numbers. -/
def imprint (es : List Event) : List Event := es.filterMap Event.imprint?

@[simp] theorem imprint_append (es es' : List Event) :
    imprint (es ++ es') = imprint es ++ imprint es' := List.filterMap_append

/-! ## Runs that settle -/

/-- In every world the run answers the same and leaves the same imprint. -/
def Run.Settles (m : Run σ α) (a : α) (ms : List Event) : Prop :=
  m.Gives played fun r es => r = a ∧ imprint es = ms

namespace Run

variable {m : Run σ α} {a : α} {b : β} {ms ms' : List Event} {f : α → Run σ β}

theorem settles_pure : Settles (pure a : Run σ α) a [] := gives_pure ⟨rfl, rfl⟩

theorem settles_bind (hm : m.Settles a ms) (hf : (f a).Settles b ms') :
    Settles (m >>= f) b (ms ++ ms') := by
  refine gives_bind hm ?_
  rintro _ es ⟨rfl, rfl⟩
  refine hf.mono ?_
  rintro _ es' ⟨rfl, rfl⟩
  exact ⟨rfl, imprint_append _ _⟩

/-- A last step that leaves no imprint. -/
theorem settles_map {g : α → β} (hm : m.Settles a ms) :
    Settles (m >>= fun a => pure (g a)) (g a) ms := by
  have settled := settles_bind (f := fun a => pure (g a)) hm settles_pure
  rwa [List.append_nil] at settled

theorem settles_note (n : Notice) : Settles (note n : Run σ Unit) () [] := by
  refine (note_plays n).mono ?_
  rintro _ _ rfl
  exact ⟨rfl, rfl⟩

/-- A notice before leaves no imprint. -/
theorem settles_noted {n : Notice} {f : Unit → Run σ β} (hf : (f ()).Settles b ms) :
    Settles (note n >>= f) b ms := settles_bind (settles_note n) hf

/-- What happened in a run is determined, so all that can be said of it holds at once. -/
theorem gives_and {P Q : α → List Event → Prop} (hP : m.Gives played P)
    (hQ : m.Gives played Q) : m.Gives played fun a es => P a es ∧ Q a es := by
  intro w
  obtain ⟨es, plays, hp⟩ := hP w
  obtain ⟨es', plays', hq⟩ := hQ w
  have same : es = es' := List.append_cancel_left (plays.events.symm.trans plays'.events)
  exact ⟨es, plays, hp, same ▸ hq⟩

end Run

/-! ## The questions to a host -/

/-- A question that writes nothing, with an answer that is the same in every state. -/
theorem Run.ask_fixed {question : StateM σ α} {event : α → Event} {P : α → Prop}
    (fixed : ∀ s, P (question s).1) (silent : ∀ a, (event a).output? = none) :
    (Run.ask question event).Gives played fun a es => P a ∧ es = [event a] :=
  fun w => ⟨_, Plays.silent w _ (silent _), fixed w.host, rfl⟩

namespace Host.Follows

variable {h : Host σ} {f : Answers κ} (fixed : h.Follows f)
include fixed

theorem dial_gives (d : Dial) : (Run.dial h d).Gives played fun r es => ∃ answer,
    r = answer.map (Connection.mk d.address) ∧ es = [.dialed d answer] ∧
      answer.map (fun serial => f.knows ⟨d.address, serial⟩) = f.dial d := by
  refine Run.gives_map (Run.ask_fixed
    (P := fun answer => answer.map (fun serial => f.knows ⟨d.address, serial⟩) = f.dial d)
    (fixed.dial d) fun _ => rfl) ?_
  rintro answer _ ⟨known, rfl⟩
  exact ⟨answer, rfl, rfl, known⟩

theorem open_gives (c : Connection) (errand : Errand) :
    (Run.openChannel h c errand).Gives played fun r es =>
      r = f.openChannel (f.knows c) ∧ es = [.opened c errand r] :=
  Run.ask_fixed (fixed.openChannel c) fun _ => rfl

theorem disconnect_gives (c : Connection) : (Run.disconnect h c).Gives played fun r es =>
    r = f.disconnect (f.knows c) ∧ es = [.disconnected c r] :=
  Run.ask_fixed (fixed.disconnect c) fun _ => rfl

theorem converse_gives (c : Connection) (command : String) (sink : Sink) :
    (Run.converse h c command sink).Gives played fun r es => ∃ answer flushed closed,
      f.converse (f.knows c) command = (answer, closed) ∧ r = (answer.status, closed) ∧
        es = .executed c command sink answer ::
          (RemoteShell.noteUnflushed command flushed ++ [.channelClosed c sink closed]) := by
  intro w
  have known := fixed.converse c command w.host
  rw [Run.converse_apply]
  generalize h.converse c command w.host = x at known
  obtain ⟨⟨answer, closed⟩, s⟩ := x
  obtain ⟨flushed, plays⟩ := Plays.conversed w c command sink answer closed s
  exact ⟨_, plays, answer, flushed, closed, known.symm, rfl, rfl⟩

theorem spawn_gives (p : Process) (sink : Sink) : (Run.spawn h p sink).Gives played fun r es =>
    r = (f.spawn p).map (·.ending) ∧ es = [.spawned p sink (f.spawn p)] := by
  intro w
  obtain ⟨es, plays, answer, ended, rfl⟩ := Run.spawn_plays h p sink w
  have told : (Run.spawn h p sink w).2.events = w.events ++ [.spawned p sink (f.spawn p)] := by
    rw [← fixed.spawn p w.host]
    simp only [Run.spawn, Run.ask, Run.bind_apply]
    rcases h.spawn p w.host with ⟨e | r, s⟩
    · rfl
    · cases sink <;> rfl
  have same : answer = f.spawn p := by simpa using plays.events.symm.trans told
  exact ⟨_, plays, same ▸ ended, same ▸ rfl⟩

end Host.Follows

/-! ## Venues -/

namespace Answers

variable (f : Answers κ) (st : Settings)

/-- Where commands run, as far as the answers depend on it: at an address, over a connection of
    which that much is known; or on this machine. -/
abbrev Venue (κ : Type) := Option (String × κ)

/-- The venue of a place. -/
def venue (pl : Place) : Venue κ := pl.map fun c => (c.address, f.knows c)

/-- Commands given to the session run at the venue. -/
def At (x : Venue κ) (s : Session) : Prop := ∃ pl, f.venue pl = x ∧ RunsAt st pl s

/-- What a command comes to on a connection to an address, of which that much is known, and the
    imprint that it leaves. -/
def speak (address : String) (known : κ) (sink : Sink) (command : String) :
    Outcome × List Event :=
  let c : Connection := ⟨address, 0⟩
  match f.openChannel known with
  | .error e =>
    (.error (.failed address command e.text), [.opened c ⟨command, sink.unnumbered⟩ (.error e)])
  | .ok () =>
    let (answer, closed) := f.converse known command
    (RemoteShell.outcome address command answer.status,
      [.opened c ⟨command, sink.unnumbered⟩ (.ok ()),
        .executed c command sink.unnumbered answer, .channelClosed c sink.unnumbered closed])

/-- What a command comes to at a venue, and the imprint that it leaves. -/
def exchange (sink : Sink) (command : String) : Venue κ → Outcome × List Event
  | none =>
    let l := LocalShell.ofSettings st
    let answer := f.spawn (l.process command)
    (l.outcome command (answer.map (·.ending)),
      [.spawned (l.process command) sink.unnumbered answer])
  | some (address, known) => f.speak address known sink command

/-- What a captured command answers at a venue. -/
def captured (command : String) (x : Venue κ) : Except Fault String :=
  let answer := f.exchange st (.buffer 0) command x
  answer.1.map fun _ => Bytes.decodeLossy (outputTo (.buffer 0) answer.2)

end Answers

namespace Host.Follows

variable {h : Host σ} {f : Answers κ} (fixed : h.Follows f)
include fixed

theorem runOn_settles (r : RemoteShell) (c : Connection) (command : String)
    (dialed : c.address = r.identify) : (r.runOn h c command).Settles
      (f.speak r.identify (f.knows c) r.sink command).1
      (f.speak r.identify (f.knows c) r.sink command).2 := by
  obtain ⟨address, serial⟩ := c
  dsimp only at dialed
  subst dialed
  rw [RemoteShell.runOn_eq]
  refine Run.gives_bind (fixed.open_gives _ _) ?_
  rintro (e | u) _ ⟨opened, rfl⟩
  · refine Run.gives_pure ?_
    simp [Answers.speak, ← opened, imprint, Event.imprint?, Connection.unnumbered]
  · refine Run.gives_bind (fixed.converse_gives _ _ _) ?_
    rintro _ _ ⟨answer, flushed, closed, conversed, rfl, rfl⟩
    have unnoted : (RemoteShell.noteUnflushed command flushed).filterMap Event.imprint? = [] := by
      rcases flushed with e | u <;> rfl
    rcases closed with e | u
    · refine Run.gives_map (Run.note_plays _) ?_
      rintro - _ rfl
      simp [Answers.speak, ← opened, conversed, imprint, Event.imprint?, Connection.unnumbered,
        unnoted]
    · refine Run.gives_pure ?_
      simp [Answers.speak, ← opened, conversed, imprint, Event.imprint?, Connection.unnumbered,
        unnoted]

theorem shell_settles (l : LocalShell) (command : String) : (l.run h command).Settles
    (l.outcome command ((f.spawn (l.process command)).map (·.ending)))
    [.spawned (l.process command) l.sink.unnumbered (f.spawn (l.process command))] := by
  refine Run.gives_map (fixed.spawn_gives _ _) ?_
  rintro _ _ ⟨rfl, rfl⟩
  exact ⟨rfl, rfl⟩

/-- A session without an address runs a command on this machine. -/
theorem here_settles {r : RemoteShell} (unaddressed : r.params.address = "") (command : String) :
    (r.run h command).Settles
      (r.fallback.outcome command
        ((f.spawn (r.fallback.process command)).map (·.ending)), r)
      [.spawned (r.fallback.process command) r.fallback.sink.unnumbered
        (f.spawn (r.fallback.process command))] := by
  unfold RemoteShell.run
  rw [if_pos (by simp [unaddressed])]
  exact Run.settles_map (g := fun o => (o, r)) (fixed.shell_settles r.fallback command)

/-- A session that is connected runs a command over its connection. -/
theorem there_settles {r : RemoteShell} {c : Connection} (addressed : r.params.address ≠ "")
    (connected : r.connection = some c) (dialed : c.address = r.identify) (command : String) :
    (r.run h command).Settles
      ((f.speak r.identify (f.knows c) r.sink command).1, r)
      (f.speak r.identify (f.knows c) r.sink command).2 := by
  have idle : r.connect h = pure (.ok (), r) := by
    rw [RemoteShell.connect, if_pos (by simp [RemoteShell.isConnected, connected])]
  unfold RemoteShell.run
  rw [if_neg (by simpa using addressed), idle, pure_bind]
  simp only [connected]
  exact Run.settles_map (g := fun o => (o, r)) (fixed.runOn_settles r c command dialed)

end Host.Follows

theorem Session.remote_settles {h : Host σ} {r : RemoteShell} {command : String} {o : Outcome}
    {ms : List Event} (run : (r.run h command).Settles (o, r) ms) :
    ((Session.remote r).run h command).Settles (o, .remote r) ms :=
  Run.settles_map (g := fun x : Outcome × RemoteShell => (x.1, Session.remote x.2)) run

/-- The imprint of a captured command tells what it wrote. -/
theorem Exchanges.outputTo_imprint {st : Settings} {id : Nat} {command : String} {pl : Place}
    {o : Outcome} {es : List Event} (exchange : Exchanges st (.buffer id) command pl o es) :
    outputTo (.buffer 0) (imprint es) = outputTo (.buffer id) es := by
  rcases exchange with ⟨⟨_ | finished⟩⟩ | ⟨e | ⟨answer, _ | _, _ | _⟩⟩ <;>
    simp [imprint, Event.imprint?, Sink.unnumbered, outputTo, Event.outputTo, Event.output?,
      RemoteShell.noteUnflushed, RemoteShell.noteUnclosed]

/-! ## Sessions at a venue -/

namespace Answers.At

variable {h : Host σ} {f : Answers κ} {st : Settings} {x : Answers.Venue κ} {s : Session}

theorem identify (at_ : f.At st x s) : s.identify = (x.map Prod.fst).getD localName := by
  obtain ⟨pl, rfl, at_⟩ := at_
  rw [at_.identify]
  rcases pl with _ | c <;> rfl

/-- **What a command comes to depends on the venue alone**, wherever its output goes. -/
theorem run_setSink (at_ : f.At st x s) (fixed : h.Follows f) (sink : Sink) (command : String) :
    ((s.setSink sink).run h command).Settles
      ((f.exchange st sink command x).1, s.setSink sink) (f.exchange st sink command x).2 := by
  obtain ⟨pl, rfl, at_⟩ := at_
  cases at_ with
  | @here p unaddressed =>
    let r : RemoteShell := { params := p, settings := st, fallback := LocalShell.ofSettings st }
    exact Session.remote_settles (fixed.here_settles (r := r.setSink sink) unaddressed command)
  | @there p c addressed dialed =>
    let r : RemoteShell :=
      { params := p, settings := st, connection := some c, fallback := LocalShell.ofSettings st }
    have named : (r.setSink sink).identify = c.address := by
      simp [r, RemoteShell.setSink, RemoteShell.identify, addressed, dialed]
    have run := fixed.there_settles (r := r.setSink sink) addressed rfl named.symm command
    rw [named] at run
    exact Session.remote_settles run

/-- A command leaves the session as it was. -/
theorem run (at_ : f.At st x s) (fixed : h.Follows f) (command : String) :
    (s.run h command).Settles ((f.exchange st .stdout command x).1, s)
      (f.exchange st .stdout command x).2 := by
  obtain ⟨pl, -, at'⟩ := id at_
  have ran := at_.run_setSink fixed .stdout command
  rwa [at'.setSink_stdout] at ran

/-- The numbers of buffers make no difference. -/
theorem exchange_buffer (id : Nat) (command : String) :
    f.exchange st (.buffer id) command x = f.exchange st (.buffer 0) command x := by
  rcases x with _ | ⟨address, known⟩ <;> rfl

/-- **What a captured command answers depends on the venue alone**, and the session stays as it
    was. -/
theorem capture (at_ : f.At st x s) (fixed : h.Follows f) (command : String) :
    ((Session.kind h).capture s command).Settles (f.captured st command x, s)
      (f.exchange st (.buffer 0) command x).2 := by
  obtain ⟨pl, -, at'⟩ := id at_
  have run : ∀ id, ((Session.kind h).run (s.setSink (.buffer id)) command).Gives played
      fun r es => (r = ((f.exchange st (.buffer 0) command x).1, s.setSink (.buffer id)) ∧
        imprint es = (f.exchange st (.buffer 0) command x).2) ∧
        Session.Runs command (s.setSink (.buffer id)) r es := fun id => by
    have settles := at_.run_setSink fixed (.buffer id) command
    rw [exchange_buffer] at settles
    exact Run.gives_and settles (Session.run_plays h command _)
  refine (capture_plays run).mono ?_
  rintro _ es ⟨id, o, t, ⟨⟨answer, left⟩, runs⟩, rfl⟩
  obtain ⟨rfl, rfl⟩ := Prod.mk.inj answer
  obtain ⟨-, exchange⟩ := at'.runs_setSink runs
  refine ⟨Prod.ext ?_ ?_, left⟩
  · dsimp only [Answers.captured]
    rw [← left, exchange.outputTo_imprint]
  · have back : (s.setSink (.buffer id)).setSink s.sink = s := by
      rw [Session.setSink_setSink, at'.sink, at'.setSink_stdout]
    exact back

end Answers.At

/-! ## From rest to a link and back -/

/-- What dialing comes to for a session at rest: the answer decides, but for the number of the
    connection. -/
inductive Answers.Dialed (f : Answers κ) (st : Settings) (p : Params) :
    Outcome × Session → Prop where
  | refused {e} (answer : f.dial (p.dial st) = .error e) :
      Dialed f st p (.error (.unreachable p.address e.text), resting st p)
  | linked {known serial} (answer : f.dial (p.dial st) = .ok known)
      (same : f.knows ⟨p.address, serial⟩ = known) :
      Dialed f st p (.ok (), linked st p ⟨p.address, serial⟩)

namespace Answers.Dialed

variable {f : Answers κ} {st : Settings} {p : Params} {o : Outcome} {own : Session}

theorem of_refused (dialed : f.Dialed st p (o, own)) {e : Failure}
    (refused : f.dial (p.dial st) = .error e) :
    o = .error (.unreachable p.address e.text) ∧ own = resting st p := by
  cases dialed with
  | refused answer =>
    obtain rfl := Except.error.inj (answer.symm.trans refused)
    exact ⟨rfl, rfl⟩
  | linked answer => cases answer.symm.trans refused

theorem of_granted (dialed : f.Dialed st p (o, own)) {known : κ}
    (granted : f.dial (p.dial st) = .ok known) : ∃ serial,
      f.knows ⟨p.address, serial⟩ = known ∧ o = .ok () ∧
        own = Session.linked st p ⟨p.address, serial⟩ := by
  cases dialed with
  | refused answer => cases answer.symm.trans granted
  | linked answer same =>
    obtain rfl := Except.ok.inj (answer.symm.trans granted)
    exact ⟨_, same, rfl, rfl⟩

end Answers.Dialed

/-- The imprint that dialing leaves. -/
def Answers.dialImprint (f : Answers κ) (st : Settings) (p : Params) : Event :=
  .dialed (p.dial st) ((f.dial (p.dial st)).map fun _ => 0)

theorem Session.close_resting {h : Host σ} {st : Settings} {p : Params} :
    ((resting st p).close h).Settles (.ok (), resting st p) [] := Run.gives_pure ⟨rfl, rfl⟩

namespace Host.Follows

variable {h : Host σ} {f : Answers κ} (fixed : h.Follows f) {st : Settings} {p : Params}
include fixed

/-- A session at rest is dialed once. -/
theorem connect_gives (addressed : p.address ≠ "") :
    ((resting st p).connect h).Gives played fun r es =>
      f.Dialed st p r ∧ imprint es = [f.dialImprint st p] := by
  let r : RemoteShell := { params := p, settings := st, fallback := LocalShell.ofSettings st }
  have connect : (r.connect h).Gives played fun a es =>
      f.Dialed st p (a.1, .remote a.2) ∧ imprint es = [f.dialImprint st p] := by
    unfold RemoteShell.connect
    rw [if_neg (by simp [r, RemoteShell.isConnected, addressed])]
    refine Run.gives_bind (Run.note_plays _) ?_
    rintro - _ rfl
    refine Run.gives_bind (fixed.dial_gives _) ?_
    rintro _ _ ⟨answer, rfl, rfl, known⟩
    rcases answer with e | serial
    · refine Run.gives_map (Run.note_plays _) ?_
      rintro - _ rfl
      have refused : f.dial (p.dial st) = .error e := known.symm
      refine ⟨.refused refused, ?_⟩
      rw [Answers.dialImprint, refused]
      rfl
    · have granted : f.dial (p.dial st) = .ok (f.knows ⟨p.address, serial⟩) := known.symm
      refine Run.gives_pure ⟨.linked granted rfl, ?_⟩
      rw [Answers.dialImprint, granted]
      rfl
  exact Run.gives_map connect fun _ _ done => done

/-- A session that is connected ends its connection, and is at rest. -/
theorem close_linked (c : Connection) : ((linked st p c).close h).Settles
    (RemoteShell.hangUp p.address (f.disconnect (f.knows c)), resting st p)
    [.disconnected c.unnumbered (f.disconnect (f.knows c))] := by
  let r : RemoteShell :=
    { params := p, settings := st, connection := some c, fallback := LocalShell.ofSettings st }
  have close : (r.close h).Settles
      (RemoteShell.hangUp p.address (f.disconnect (f.knows c)), { r with connection := none })
      [.disconnected c.unnumbered (f.disconnect (f.knows c))] := by
    refine Run.settles_noted ?_
    refine Run.gives_bind (fixed.disconnect_gives c) ?_
    rintro _ _ ⟨rfl, rfl⟩
    rcases f.disconnect (f.knows c) with e | u <;> exact Run.gives_pure ⟨rfl, rfl⟩
  exact Run.settles_map (g := fun x : Outcome × RemoteShell => (x.1, Session.remote x.2)) close

end Host.Follows

end Runbook
