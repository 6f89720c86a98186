/-
  Two runs on a host that cannot tell them apart.

  A `Likeness` says which states, methods and connections the host cannot tell apart, and what
  is seen of an event. Two worlds are alike if the same was written and the same is seen.

  * `Likeness.pairing` relates worlds that are alike, and `Likeness.ofAuths` is a likeness for two
    runs on the very same host;
  * `RemoteShell.Like.connect`, `run` and `close`: sessions that are alike do the same;
  * `Likeness.twins`: so do all operations, if methods that are alike learn keys alike.
-/
import Runbook.Proofs.Discovery.Twins
import Runbook.Proofs.Session.Played

namespace Runbook

variable {σ α : Type}

/-- The same request, with methods that are alike. -/
structure Dial.Like (Auths : List AuthMethod → List AuthMethod → Prop) (d d' : Dial) : Prop where
  address : d.address = d'.address
  user : d.user = d'.user
  auth : Auths d.auth d'.auth
  timeoutMs : d.timeoutMs = d'.timeoutMs
  policy : d.policy = d'.policy

/-- The same refusal, or connections that are alike. -/
inductive Granted (Links : Connection → Connection → Prop) :
    Except Failure Connection → Except Failure Connection → Prop where
  | refused (f : Failure) : Granted Links (.error f) (.error f)
  | linked {c c'} (link : Links c c') : Granted Links (.ok c) (.ok c')

/-- In states that are alike, two questions are answered as `Q` says. -/
def AskedAlike (Hosts : σ → σ → Prop) (Q : α → α → Prop) (q q' : StateM σ α) : Prop :=
  ∀ s s', Hosts s s' → Q (q s).1 (q' s').1 ∧ Hosts (q s).2 (q' s').2

theorem AskedAlike.refl {Q : α → α → Prop} (same : ∀ a, Q a a) (q : StateM σ α) :
    AskedAlike Eq Q q q := by
  rintro s _ rfl
  exact ⟨same _, rfl⟩

theorem Granted.refl (a : Except Failure Connection) : Granted Eq a a := by
  cases a with
  | error f => exact .refused f
  | ok c => exact .linked rfl

/-- The same connection at the same address comes from the same answer. -/
theorem Granted.answer {address : String} {a a' : Except Failure Nat}
    (granted : Granted Eq (a.map (Connection.mk address)) (a'.map (Connection.mk address))) :
    a = a' := by
  rcases a with f | n <;> rcases a' with f' | n' <;> cases granted
  · rfl
  · next same => exact congrArg Except.ok (Connection.mk.inj same).2

/-- A command is run on a channel, and the channel is closed. -/
def Host.converse (h : Host σ) (c : Connection) (command : String) :
    StateM σ (Executed × Except Failure Unit) := do
  let answer ← h.execute c command
  let closed ← h.closeChannel c
  pure (answer, closed)

/-- A command is run on a channel, and the channel is closed. -/
def Run.converse (h : Host σ) (c : Connection) (command : String) (sink : Sink) :
    Run σ (Except Failure Int × Except Failure Unit) := do
  let status ← RemoteShell.speak h c command sink
  let closed ← Run.closeChannel h c sink
  pure (status, closed)

/-- The world in which a command was run on a channel with that answer, and the channel was closed
    with that one. -/
def World.conversed (w : World σ) (c : Connection) (command : String) (sink : Sink)
    (answer : Executed) (closed : Except Failure Unit) (s : σ) : World σ :=
  let ran := World.relay
    { w with host := s, events := w.events ++ [.executed c command sink answer] }
    answer.stdout sink
  { ran.2 with
    host := s
    events := ran.2.events ++ RemoteShell.noteUnflushed command ran.1 ++
      [.channelClosed c sink closed] }

theorem Run.converse_apply (h : Host σ) (c : Connection) (command : String) (sink : Sink)
    (w : World σ) : Run.converse h c command sink w =
      let ((answer, closed), s) := h.converse c command w.host
      ((answer.status, closed), w.conversed c command sink answer closed s) := by
  unfold Run.converse
  rw [Run.bind_apply, RemoteShell.speak_apply]
  cases sink <;> rfl

theorem Plays.conversed (w : World σ) (c : Connection) (command : String) (sink : Sink)
    (answer : Executed) (closed : Except Failure Unit) (s : σ) : ∃ flushed,
      Plays w (.executed c command sink answer ::
        (RemoteShell.noteUnflushed command flushed ++ [.channelClosed c sink closed]))
        (w.conversed c command sink answer closed s) := by
  have ran := Plays.relaying w s c command sink answer
  unfold World.conversed
  generalize World.relay _ answer.stdout sink = r at ran ⊢
  obtain ⟨flushed, w'⟩ := r
  have silent := RemoteShell.noteUnflushed_silent command flushed
  have noted := ran.trans (Plays.told w' w'.host silent)
  exact ⟨flushed, noted.trans (Plays.silent _ s rfl)⟩

/-- What a host cannot tell apart, and what is seen of buffers and events. -/
structure Likeness (h : Host σ) where
  Hosts : σ → σ → Prop
  Auths : List AuthMethod → List AuthMethod → Prop
  Links : Connection → Connection → Prop
  Buffers : List Bytes → List Bytes → Prop
  see : Event → Option Event
  write : ∀ {bs bs'}, Buffers bs bs' → ∀ id bytes,
    Buffers (bs.modify id (· ++ bytes)) (bs'.modify id (· ++ bytes))
  dial : ∀ {d d'}, d.Like Auths d' → AskedAlike Hosts (fun a a' =>
    Granted Links (a.map (Connection.mk d.address)) (a'.map (Connection.mk d'.address)))
    (h.dial d) (h.dial d')
  openChannel : ∀ {c c'}, Links c c' → AskedAlike Hosts Eq (h.openChannel c) (h.openChannel c')
  converse : ∀ {c c'}, Links c c' → ∀ command,
    AskedAlike Hosts Eq (h.converse c command) (h.converse c' command)
  disconnect : ∀ {c c'}, Links c c' → AskedAlike Hosts Eq (h.disconnect c) (h.disconnect c')
  spawn : ∀ p, AskedAlike Hosts Eq (h.spawn p) (h.spawn p)
  see_dialed : ∀ {d d' a a'}, d.Like Auths d' →
    Granted Links (a.map (Connection.mk d.address)) (a'.map (Connection.mk d'.address)) →
    see (.dialed d a) = see (.dialed d' a')
  see_opened : ∀ {c c'}, Links c c' → ∀ errand a, see (.opened c errand a) = see (.opened c' errand a)
  see_executed : ∀ {c c'}, Links c c' → ∀ command sink a,
    see (.executed c command sink a) = see (.executed c' command sink a)
  see_channelClosed : ∀ {c c'}, Links c c' → ∀ sink a,
    see (.channelClosed c sink a) = see (.channelClosed c' sink a)
  see_disconnected : ∀ {c c'}, Links c c' → ∀ a, see (.disconnected c a) = see (.disconnected c' a)

namespace Likeness

variable {h : Host σ} (l : Likeness h)

/-- The same was written, and the same is seen of what happened. -/
structure Worlds (w w' : World σ) : Prop where
  host : l.Hosts w.host w'.host
  outlet : w.outlet = w'.outlet
  buffers : l.Buffers w.buffers w'.buffers
  events : w.events.filterMap l.see = w'.events.filterMap l.see

theorem Worlds.stdout {l : Likeness h} {w w' : World σ} (related : l.Worlds w w') :
    w.stdout = w'.stdout := congrArg Outlet.out related.outlet

/-- On a host that is in the same state in both runs, only methods are told apart. -/
def ofAuths (Auths : List AuthMethod → List AuthMethod → Prop) (see : Event → Option Event)
    (dial : ∀ {d d' : Dial}, d.Like Auths d' → h.dial d = h.dial d')
    (see_dialed : ∀ {d d' : Dial}, d.Like Auths d' → ∀ a, see (.dialed d a) = see (.dialed d' a)) :
    Likeness h where
  Hosts := Eq
  Auths := Auths
  Links := Eq
  Buffers := Eq
  see := see
  write same id bytes := congrArg (·.modify id (· ++ bytes)) same
  dial {d d'} like := by
    rw [dial like, like.address]
    exact .refl (fun a => .refl _) _
  openChannel same := same ▸ .refl (fun _ => rfl) _
  converse same command := same ▸ .refl (fun _ => rfl) _
  disconnect same := same ▸ .refl (fun _ => rfl) _
  spawn p := .refl (fun _ => rfl) _
  see_dialed {d d' a a'} like granted := by
    rw [like.address] at granted
    rw [granted.answer, see_dialed like]
  see_opened same _ _ := same ▸ rfl
  see_executed same _ _ _ := same ▸ rfl
  see_channelClosed same _ _ := same ▸ rfl
  see_disconnected same _ := same ▸ rfl

/-- Worlds that are alike. -/
def pairing : Pairing σ σ where
  Worlds := l.Worlds
  note related n := by
    refine ⟨related.host, related.outlet, related.buffers, ?_⟩
    rw [World.record, World.record, List.filterMap_append, List.filterMap_append, related.events]

/-! ## The questions to a host -/

theorem Worlds.append {w w' : World σ} (related : l.Worlds w w') (sink : Sink) (bytes : Bytes) :
    l.Worlds (w.append sink bytes) (w'.append sink bytes) := by
  cases sink with
  | stdout =>
    refine ⟨related.host, ?_, related.buffers, related.events⟩
    exact congrArg (Outlet.pass · bytes) related.outlet
  | buffer id =>
    exact ⟨related.host, related.outlet, l.write related.buffers id bytes, related.events⟩

theorem Worlds.relay {w w' : World σ} (related : l.Worlds w w') (bytes : Bytes) (sink : Sink) :
    (w.relay bytes sink).1 = (w'.relay bytes sink).1 ∧
      l.Worlds (w.relay bytes sink).2 (w'.relay bytes sink).2 := by
  cases sink with
  | stdout =>
    have relayed : w.outlet.relay bytes = w'.outlet.relay bytes := by rw [related.outlet]
    have told : (w.outlet.relay bytes).1 = (w'.outlet.relay bytes).1 := congrArg Prod.fst relayed
    have out : (w.outlet.relay bytes).2 = (w'.outlet.relay bytes).2 := congrArg Prod.snd relayed
    exact ⟨told, related.host, out, related.buffers, related.events⟩
  | buffer id => exact ⟨rfl, related.append l (.buffer id) bytes⟩

theorem writeAlike (sink : Sink) (bytes : Bytes) :
    (Run.write sink bytes).Alike l.pairing Eq (Run.write sink bytes) :=
  fun _ _ related => ⟨rfl, related.append l sink bytes⟩

/-- Worlds in which one more question was asked, and the same is seen of it. -/
theorem Worlds.asked {w w' : World σ} (related : l.Worlds w w') {s s' : σ} {e e' : Event}
    (hosts : l.Hosts s s') (seen : l.see e = l.see e') :
    l.Worlds { w with host := s, events := w.events ++ [e] }
      { w' with host := s', events := w'.events ++ [e'] } := by
  refine ⟨hosts, related.outlet, related.buffers, ?_⟩
  rw [List.filterMap_append, List.filterMap_append, related.events, List.filterMap_cons,
    List.filterMap_cons, seen]

/-- Worlds in which the same was put down. -/
theorem Worlds.report {w w' : World σ} (related : l.Worlds w w') (es : List Event) :
    l.Worlds { w with events := w.events ++ es } { w' with events := w'.events ++ es } := by
  refine ⟨related.host, related.outlet, related.buffers, ?_⟩
  rw [List.filterMap_append, List.filterMap_append, related.events]

/-- A notice in one of two runs makes no difference if notices are not seen. -/
theorem noteLeft {β : Type} {n : Notice} {f : Unit → Run σ α} {m' : Run σ β} {Q : α → β → Prop}
    (silent : l.see (.notice n) = none) (hf : (f ()).Alike l.pairing Q m') :
    (Run.note n >>= f).Alike l.pairing Q m' := by
  refine Run.alike_left (P := fun _ => True) (fun w w' related => ⟨trivial, ?_⟩) fun _ _ => hf
  refine ⟨related.host, related.outlet, related.buffers, ?_⟩
  rw [Run.note, World.record, List.filterMap_append, List.filterMap_cons, silent,
    List.filterMap_nil, List.append_nil, related.events]

theorem ask {Q : α → α → Prop} {q q' : StateM σ α} {event event' : α → Event}
    (asked : AskedAlike l.Hosts Q q q')
    (seen : ∀ a a', Q a a' → l.see (event a) = l.see (event' a')) :
    (Run.ask q event).Alike l.pairing Q (Run.ask q' event') := by
  intro w w' related
  obtain ⟨answers, hosts⟩ := asked _ _ related.host
  exact ⟨answers, related.asked l hosts (seen _ _ answers)⟩

theorem dialAlike {d d' : Dial} (like : d.Like l.Auths d') :
    (Run.dial h d).Alike l.pairing (Granted l.Links) (Run.dial h d') := by
  refine Run.alike_bind (l.ask (l.dial like) fun a a' granted => l.see_dialed like granted) ?_
  intro a a' granted
  exact Run.alike_pure granted

variable {c c' : Connection} (link : l.Links c c')
include link

theorem openAlike (errand : Errand) :
    (Run.openChannel h c errand).Alike l.pairing Eq (Run.openChannel h c' errand) := by
  refine l.ask (l.openChannel link) ?_
  rintro a _ rfl
  exact l.see_opened link errand a

theorem converseAlike (command : String) (sink : Sink) :
    (Run.converse h c command sink).Alike l.pairing Eq (Run.converse h c' command sink) := by
  intro w w' related
  obtain ⟨answers, hosts⟩ := l.converse link command _ _ related.host
  rw [Run.converse_apply, Run.converse_apply]
  generalize h.converse c command w.host = x, h.converse c' command w'.host = x' at answers hosts
  obtain ⟨⟨answer, closed⟩, s⟩ := x
  obtain ⟨_, s'⟩ := x'
  obtain rfl := answers
  obtain ⟨flushed, ran⟩ := (related.asked l hosts
    (l.see_executed link command sink answer)).relay l answer.stdout sink
  refine ⟨rfl, ?_⟩
  have noted := ran.report l (RemoteShell.noteUnflushed command
    (World.relay { w with host := s, events := w.events ++ [.executed c command sink answer] }
      answer.stdout sink).1)
  have closing := noted.asked l hosts (l.see_channelClosed link sink closed)
  dsimp only [World.conversed]
  rw [← flushed]
  exact closing

theorem disconnectAlike :
    (Run.disconnect h c).Alike l.pairing Eq (Run.disconnect h c') := by
  refine l.ask (l.disconnect link) ?_
  rintro a _ rfl
  exact l.see_disconnected link a

omit link in
theorem spawnAlike (p : Process) (sink : Sink) :
    (Run.spawn h p sink).Alike l.pairing Eq (Run.spawn h p sink) := by
  refine Run.alike_bind (l.ask (l.spawn p) ?_) ?_
  · rintro a _ rfl
    rfl
  · rintro (e | f) _ rfl
    · exact Run.alike_pure rfl
    · exact Run.alike_bind (l.writeAlike sink _) fun _ _ _ => Run.alike_pure rfl

omit link in
theorem runAlike (s : LocalShell) (command : String) :
    (s.run h command).Alike l.pairing Eq (s.run h command) := by
  refine Run.alike_bind (l.spawnAlike _ _) ?_
  rintro ended _ rfl
  exact Run.alike_pure rfl

end Likeness

/-! ## Sessions -/

variable {h : Host σ} (l : Likeness h)

theorem RemoteShell.runOn_eq (r : RemoteShell) (c : Connection) (command : String) :
    r.runOn h c command = (do
      match ← Run.openChannel h c ⟨command, r.sink⟩ with
      | .error f => pure (.error (.failed r.identify command f.text))
      | .ok () => do
        let (status, closed) ← Run.converse h c command r.sink
        match closed with
        | .ok () => pure ()
        | .error f => Run.note (.channelCloseFailed r.identify f)
        pure (RemoteShell.outcome r.identify command status)) := by
  refine bind_congr ?_
  rintro (f | u)
  · rfl
  · dsimp only [Run.converse]
    rw [bind_assoc]
    refine bind_congr fun status => ?_
    rw [bind_assoc]
    exact bind_congr fun closed => (pure_bind _ _).symm

/-- Sessions that the host cannot tell apart. -/
structure RemoteShell.Like (r r' : RemoteShell) : Prop where
  address : r.params.address = r'.params.address
  user : r.params.user = r'.params.user
  auth : l.Auths r.params.auth r'.params.auth
  timeoutMs : r.settings.timeoutMs = r'.settings.timeoutMs
  policy : r.settings.policy = r'.settings.policy
  connection : Option.Rel l.Links r.connection r'.connection
  sink : r.sink = r'.sink
  fallback : r.fallback = r'.fallback

/-- Sessions that the host cannot tell apart. Only sessions on other machines are compared: scopes of
    documents have no others. -/
inductive Session.Like : Session → Session → Prop where
  | remote {r r'} (like : r.Like l r') : Session.Like (.remote r) (.remote r')

variable {l}

namespace RemoteShell.Like

variable {r r' : RemoteShell} (like : r.Like l r')
include like

theorem identify : r.identify = r'.identify := by
  rw [RemoteShell.identify, RemoteShell.identify, like.address]

theorem isConnected : r.isConnected = r'.isConnected := by
  have links := like.connection
  unfold RemoteShell.isConnected
  generalize r.connection = c, r'.connection = c' at links ⊢
  cases links <;> rfl

theorem dialRequest : r.dialRequest.Like l.Auths r'.dialRequest :=
  ⟨like.address, like.user, like.auth, like.timeoutMs, like.policy⟩

theorem linked {c c' : Connection} (link : l.Links c c') :
    { r with connection := some c }.Like l { r' with connection := some c' } :=
  { like with connection := .some link }

theorem unlinked : { r with connection := none }.Like l { r' with connection := none } :=
  { like with connection := .none }

theorem setSink (sink : Sink) : (r.setSink sink).Like l (r'.setSink sink) :=
  { like with sink := rfl, fallback := congrArg (fun f => { f with sink }) like.fallback }

theorem withAuth {auth auth' : List AuthMethod} (alike : l.Auths auth auth') :
    { r with params := { r.params with auth } }.Like l
      { r' with params := { r'.params with auth := auth' } } :=
  { like with auth := alike }

theorem connect : (r.connect h).Alike l.pairing (Both (RemoteShell.Like l)) (r'.connect h) := by
  unfold RemoteShell.connect
  rw [like.address, like.isConnected, like.user]
  split
  · exact Run.alike_pure ⟨rfl, like⟩
  · refine Run.alike_bind (Run.alike_note _ _) fun _ _ _ => ?_
    refine Run.alike_bind (l.dialAlike like.dialRequest) ?_
    rintro _ _ (f | link)
    · refine Run.alike_bind (Run.alike_note _ _) fun _ _ _ => ?_
      exact Run.alike_pure ⟨rfl, like⟩
    · exact Run.alike_pure ⟨rfl, like.linked link⟩

theorem runOn {c c' : Connection} (link : l.Links c c') (command : String) :
    (r.runOn h c command).Alike l.pairing Eq (r'.runOn h c' command) := by
  rw [RemoteShell.runOn_eq, RemoteShell.runOn_eq, like.sink, like.identify]
  refine Run.alike_bind (l.openAlike link _) ?_
  rintro (f | u) _ rfl
  · exact Run.alike_pure rfl
  · refine Run.alike_bind (l.converseAlike link command r'.sink) ?_
    rintro ⟨status, f | u⟩ _ rfl
    · exact Run.alike_bind (Run.alike_note _ _) fun _ _ _ => Run.alike_pure rfl
    · exact Run.alike_pure rfl

theorem run (command : String) :
    (r.run h command).Alike l.pairing (Both (RemoteShell.Like l)) (r'.run h command) := by
  unfold RemoteShell.run
  rw [like.address, like.fallback]
  split
  · refine Run.alike_bind (l.runAlike r'.fallback command) ?_
    rintro o _ rfl
    exact Run.alike_pure ⟨rfl, like⟩
  · refine Run.alike_bind like.connect ?_
    rintro ⟨e | u, t⟩ ⟨_, t'⟩ ⟨rfl, after⟩
    · exact Run.alike_pure ⟨rfl, after⟩
    · dsimp only at after ⊢
      have links := after.connection
      rcases hc : t.connection with _ | c <;> rcases hc' : t'.connection with _ | c' <;>
        rw [hc, hc'] at links <;> cases links
      · rw [after.identify]
        exact Run.alike_pure ⟨rfl, after⟩
      · next link =>
        refine Run.alike_bind (after.runOn link command) ?_
        rintro o _ rfl
        exact Run.alike_pure ⟨rfl, after⟩

theorem close : (r.close h).Alike l.pairing (Both (RemoteShell.Like l)) (r'.close h) := by
  unfold RemoteShell.close
  have links := like.connection
  rcases hc : r.connection with _ | c <;> rcases hc' : r'.connection with _ | c' <;>
    rw [hc, hc'] at links <;> cases links
  · exact Run.alike_pure ⟨rfl, like⟩
  · next link =>
    rw [like.address]
    refine Run.alike_bind (Run.alike_note _ _) fun _ _ _ => ?_
    refine Run.alike_bind (l.disconnectAlike link) ?_
    rintro (f | u) _ rfl
    · exact Run.alike_pure ⟨rfl, like.unlinked⟩
    · exact Run.alike_pure ⟨rfl, like.unlinked⟩

end RemoteShell.Like

namespace Session.Like

variable {s s' : Session}

theorem identify (like : s.Like l s') : s.identify = s'.identify := by
  cases like with
  | remote like => exact like.identify

theorem isPassThrough (like : s.Like l s') : s.isPassThrough = s'.isPassThrough := by
  cases like with
  | remote like =>
    rw [Session.isPassThrough, Session.isPassThrough, RemoteShell.isAddressless,
      RemoteShell.isAddressless, like.address]

theorem connect (like : s.Like l s') :
    (s.connect h).Alike l.pairing (Both (Session.Like l)) (s'.connect h) := by
  cases like with
  | remote like =>
    refine Run.alike_bind like.connect ?_
    rintro ⟨o, t⟩ ⟨_, t'⟩ ⟨rfl, after⟩
    exact Run.alike_pure ⟨rfl, .remote after⟩

theorem run (like : s.Like l s') (command : String) :
    (s.run h command).Alike l.pairing (Both (Session.Like l)) (s'.run h command) := by
  cases like with
  | remote like =>
    refine Run.alike_bind (like.run command) ?_
    rintro ⟨o, t⟩ ⟨_, t'⟩ ⟨rfl, after⟩
    exact Run.alike_pure ⟨rfl, .remote after⟩

theorem close (like : s.Like l s') :
    (s.close h).Alike l.pairing (Both (Session.Like l)) (s'.close h) := by
  cases like with
  | remote like =>
    refine Run.alike_bind like.close ?_
    rintro ⟨o, t⟩ ⟨_, t'⟩ ⟨rfl, after⟩
    exact Run.alike_pure ⟨rfl, .remote after⟩

end Session.Like

/-- Buffers have to be the same for captured commands to answer the same. -/
def Likeness.Buffered (l : Likeness h) : Prop := ∀ bs bs', l.Buffers bs bs' ↔ bs = bs'

/-- Methods that are alike learn keys alike. -/
def Likeness.Learns (l : Likeness h) : Prop :=
  ∀ {auth auth' keys}, l.Auths auth auth' → (∀ key ∈ keys, key.IsKey) →
    addedCount auth keys = addedCount auth' keys ∧ l.Auths (addKeys auth keys) (addKeys auth' keys)

/-- **Sessions that are alike do the same**, discovery included. -/
theorem Likeness.twins (buffered : l.Buffered) (learns : l.Learns) :
    (Session.kind h).Twins (Session.kind h) l.pairing (Session.Like l) where
  buffered :=
    { buffers := fun related => (buffered _ _).1 related.buffers
      withBuffers := fun related bs =>
        ⟨related.host, related.outlet, (buffered bs bs).2 rfl, related.events⟩ }
  identify like := like.identify
  isPassThrough like := like.isPassThrough
  address like := by
    cases like with
    | remote like => exact congrArg some like.address
  changeable like := by
    cases like with
    | remote like => exact congrArg some like.address
  learn like hp hp' keys areKeys := by
    cases like with
    | remote like =>
      obtain rfl := Option.some.inj hp
      obtain rfl := Option.some.inj hp'
      obtain ⟨count, learned⟩ := learns like.auth areKeys
      exact ⟨count, .remote (like.withAuth learned)⟩
  swapSink like sink := by
    cases like with
    | remote like => exact ⟨like.sink, .remote (like.setSink sink)⟩
  connect like := like.connect
  run like := like.run
  close like := like.close

end Runbook
