/-
  In which order a session on another machine uses the network.

  * `Channel c es`: a channel of `c` is asked for; if it is opened, one command runs on it, and it
    is closed;
  * `Conversation live es`: connections are dialed, used and ended one after the other, and `live`
    is the one that is open at the end. `visits` and `channels` are the same as languages of
    `Sign`s, where connections are not told apart;
  * `extends_keeping`: every action on a session extends its conversation;
  * `Orderly r o r' es`: how a session is connected, or used, once;
  * `network_grammar`: whatever is done with a session that is not connected, it uses the network
    in this order.
-/
import Mathlib.Computability.Language
import Runbook.Proofs.Chain.Compiled
import Runbook.Proofs.Session.Actions

namespace Runbook

open scoped Computability

variable {σ : Type}

/-! ## Conversations -/

/-- The network is used. -/
def Event.isTransport : Event → Bool
  | .dialed .. | .opened .. | .executed .. | .channelClosed .. | .disconnected .. => true
  | _ => false

/-- A host is dialed. -/
def Event.isDial : Event → Bool
  | .dialed .. => true
  | _ => false

/-- How the network was used. -/
def transported (es : List Event) : List Event := es.filter Event.isTransport

/-- Which hosts were dialed. -/
def dialsOf (es : List Event) : List Event := es.filter Event.isDial

@[simp] theorem transported_nil : transported [] = [] := rfl

@[simp] theorem transported_append (es es' : List Event) :
    transported (es ++ es') = transported es ++ transported es' := List.filter_append ..

@[simp] theorem dialsOf_append (es es' : List Event) :
    dialsOf (es ++ es') = dialsOf es ++ dialsOf es' := List.filter_append ..

/-- A channel is asked for. If it is opened, one command is run on it, and it is closed. -/
inductive Channel (c : Connection) : List Event → Prop where
  | refused (errand) (f) : Channel c [.opened c errand (.error f)]
  | used (errand) (answer) (closed) :
      Channel c [.opened c errand (.ok ()), .executed c errand.command errand.sink answer,
        .channelClosed c errand.sink closed]

/-- Hosts are dialed, and connections used and ended, one after the other. At the end `live` is
    open. -/
inductive Conversation : Option Connection → List Event → Prop where
  | nil : Conversation none []
  | refused {es} (before : Conversation none es) (d) (f) :
      Conversation none (es ++ [.dialed d (.error f)])
  | connected {es} (before : Conversation none es) (d) (serial) :
      Conversation (some ⟨d.address, serial⟩) (es ++ [.dialed d (.ok serial)])
  | channel {c es es'} (before : Conversation (some c) es) (channel : Channel c es') :
      Conversation (some c) (es ++ es')
  | ended {c es} (before : Conversation (some c) es) (answer) :
      Conversation none (es ++ [.disconnected c answer])

/-! ## Signs -/

/-- A way to use the network. -/
inductive Sign where
  | dialFailed | dialed | openFailed | opened | executed | channelClosed | disconnected
  deriving DecidableEq, Repr

/-- How an event uses the network. -/
def Event.sign? : Event → Option Sign
  | .dialed _ (.error _) => some .dialFailed
  | .dialed _ (.ok _) => some .dialed
  | .opened _ _ (.error _) => some .openFailed
  | .opened _ _ (.ok _) => some .opened
  | .executed .. => some .executed
  | .channelClosed .. => some .channelClosed
  | .disconnected .. => some .disconnected
  | _ => none

/-- How the network was used, without what was said. -/
def signs (es : List Event) : List Sign := es.filterMap Event.sign?

/-- Channels, one after the other. -/
def channels : Language Sign := ({[.openFailed]} + {[.opened, .executed, .channelClosed]})∗

/-- Dials that failed, and connections from their dial to their end. -/
def visits : Language Sign := ({[.dialFailed]} + {[.dialed]} * channels * {[.disconnected]})∗

@[simp] theorem signs_append (es es' : List Event) : signs (es ++ es') = signs es ++ signs es' :=
  List.filterMap_append ..

/-- Whatever is no use of the network has no sign. -/
theorem signs_transported (es : List Event) : signs (transported es) = signs es := by
  rw [signs, transported, List.filterMap_filter]
  refine List.filterMap_congr fun e _ => ?_
  cases e <;> rfl

/-- One more word of a language behind any number of them. -/
theorem append_mem_kstar {L : Language Sign} {w w' : List Sign} (before : w ∈ L∗) (next : w' ∈ L) :
    w ++ w' ∈ L∗ :=
  Set.mem_of_mem_of_subset (Language.append_mem_mul before next)
    (kstar_mul_le_kstar (a := L))

theorem Channel.signs {c : Connection} {es : List Event} (channel : Channel c es) :
    signs es ∈ ({[.openFailed]} + {[.opened, .executed, .channelClosed]} : Language Sign) := by
  cases channel with
  | refused => exact .inl rfl
  | used => exact .inr rfl

/-- **Conversations are in the grammar**: whole visits, and one that goes on if a connection is
    open. -/
theorem Conversation.signs {live : Option Connection} {es : List Event}
    (conversation : Conversation live es) :
    signs es ∈ if live.isSome then visits * {[.dialed]} * channels else visits := by
  induction conversation with
  | nil => exact Language.nil_mem_kstar _
  | refused _ d f ih =>
    rw [signs_append]
    exact append_mem_kstar ih (.inl rfl)
  | connected _ d serial ih =>
    have fresh := Language.append_mem_mul ih (show [Sign.dialed] ∈ {[Sign.dialed]} from rfl)
    have idle := Language.append_mem_mul fresh (Language.nil_mem_kstar
      ({[.openFailed]} + {[.opened, .executed, .channelClosed]} : Language Sign))
    rw [List.append_nil] at idle
    rw [signs_append]
    exact idle
  | channel _ channel ih =>
    obtain ⟨word, opened, used, inside, parts⟩ := Language.mem_mul.1 ih
    rw [signs_append, ← parts, List.append_assoc]
    exact Language.append_mem_mul opened (append_mem_kstar inside channel.signs)
  | ended _ answer ih =>
    obtain ⟨word, opened, used, inside, parts⟩ := Language.mem_mul.1 ih
    obtain ⟨before, whole, dial, rfl, parts'⟩ := Language.mem_mul.1 opened
    -- the visit that was open until now is whole
    have visit : [Sign.dialed] ++ used ++ [Sign.disconnected] ∈
        {[Sign.dialed]} * channels * ({[Sign.disconnected]} : Language Sign) :=
      Language.append_mem_mul (Language.append_mem_mul rfl inside) rfl
    have all := append_mem_kstar whole (.inr visit)
    rw [signs_append, ← parts, ← parts']
    simpa [Runbook.signs, Event.sign?, visits] using all

/-! ## One session -/

namespace RemoteShell

/-- The session goes on with a conversation. -/
def Extends (r : RemoteShell) (es : List Event) (r' : RemoteShell) : Prop :=
  ∀ earlier, Conversation r.connection earlier →
    Conversation r'.connection (earlier ++ transported es)

/-- How a session is connected or runs a command, once: it comes to `o`, the session is `r'`
    afterwards, and `es` happens. -/
structure Orderly (r : RemoteShell) (o : Outcome) (r' : RemoteShell) (es : List Event) :
    Prop where
  once : (dialsOf es).length ≤ 1
  /-- A host is dialed only if there is an address and no connection. -/
  needed : dialsOf es ≠ [] → r.connection = none ∧ r.params.address ≠ ""
  /-- A channel that was opened is used once and closed once, and nothing follows. -/
  channel : ∀ c errand, .opened c errand (.ok ()) ∈ es → ∃ answer closed, transported es =
    dialsOf es ++ [.opened c errand (.ok ()), .executed c errand.command errand.sink answer,
      .channelClosed c errand.sink closed]
  params : r'.params = r.params
  sinks : r'.sink = r.sink ∧ r'.fallback = r.fallback
  live : ∀ c, r.connection = some c → r'.connection = some c
  /-- Where a dial failed, nothing else comes of it. -/
  refused : ∀ d f, .dialed d (.error f) ∈ es → o ≠ .ok () ∧ r'.connection = none

section

variable {r r' r'' : RemoteShell} {o : Outcome} {es es' : List Event} {c : Connection}
  {name command : String} {sink : Sink}

theorem Extends.refl (r : RemoteShell) : r.Extends [] r := fun earlier before => by simpa using before

theorem Extends.trans (first : r.Extends es r') (second : r'.Extends es' r'') :
    r.Extends (es ++ es') r'' := fun earlier before => by
  have after := second _ (first earlier before)
  rwa [List.append_assoc, ← transported_append] at after

theorem Speaks.channel (speak : Speaks name c sink command o es) : Channel c (transported es) := by
  rcases speak with f | ⟨answer, e | u, closed⟩
  · exact .refused ⟨command, sink⟩ f
  · rcases closed with f | u
    · exact .used ⟨command, sink⟩ answer (.error f)
    · exact .used ⟨command, sink⟩ answer (.ok u)
  · rcases closed with f | u
    · exact .used ⟨command, sink⟩ answer (.error f)
    · exact .used ⟨command, sink⟩ answer (.ok u)

theorem Speaks.dialsOf (speak : Speaks name c sink command o es) : dialsOf es = [] := by
  rcases speak with f | ⟨answer, e | u, f | u⟩ <;> rfl

theorem Links.extends (link : r.Links (o, r') es) : r.Extends es r' := by
  cases link with
  | idle => exact .refl r
  | linked _ apart serial =>
    intro earlier before
    rw [apart] at before
    exact before.connected r.dialRequest serial
  | refused _ apart f =>
    intro earlier before
    rw [apart] at before ⊢
    exact before.refused r.dialRequest f

theorem Runs.extends (run : r.Runs command (o, r') es) : r.Extends es r' := by
  cases run with
  | here _ run =>
    obtain ⟨answer⟩ := run
    exact .refl r
  | unlinked _ link => exact link.extends
  | @there _ _ c _ _ _ link connection speak =>
    refine link.extends.trans fun earlier before => ?_
    rw [connection] at before ⊢
    exact before.channel speak.channel

theorem Closes.extends (close : r.Closes (o, r') es) : r.Extends es r' := by
  cases close with
  | idle => exact .refl r
  | ended connection answer =>
    intro earlier before
    rw [connection] at before
    exact before.ended answer

theorem Links.orderly (link : r.Links (o, r') es) : r.Orderly o r' es := by
  cases link with
  | idle =>
    exact ⟨Nat.zero_le 1, nofun, nofun, rfl, ⟨rfl, rfl⟩, fun _ => id, nofun⟩
  | linked addressed apart serial =>
    refine ⟨Nat.le_refl 1, fun _ => ⟨apart, addressed⟩, by simp, rfl, ⟨rfl, rfl⟩, ?_, by simp⟩
    rw [apart]
    exact nofun
  | refused addressed apart f =>
    exact ⟨Nat.le_refl 1, fun _ => ⟨apart, addressed⟩, by simp, rfl, ⟨rfl, rfl⟩, fun _ => id,
      fun _ _ _ => ⟨nofun, apart⟩⟩

theorem Links.transported (link : r.Links (o, r') es) : transported es = Runbook.dialsOf es := by
  cases link <;> rfl

/-- A channel that was opened is used once and closed once. -/
theorem used_of_opened {c' : Connection} {errand : Errand} (channel : Channel c es)
    (opened : .opened c' errand (.ok ()) ∈ es) : ∃ answer closed,
      es = [.opened c' errand (.ok ()), .executed c' errand.command errand.sink answer,
        .channelClosed c' errand.sink closed] := by
  cases channel with
  | refused => simp at opened
  | used _ answer closed =>
    obtain ⟨rfl, rfl⟩ : c' = c ∧ errand = _ := by simpa using opened
    exact ⟨answer, closed, rfl⟩

/-- A command is run in order, whatever it comes to. -/
theorem Runs.orderly (run : r.Runs command (o, r') es) : r.Orderly o r' es := by
  cases run with
  | here _ run =>
    obtain ⟨answer⟩ := run
    exact ⟨Nat.zero_le 1, by simp [Runbook.dialsOf, Event.isDial], by simp, rfl, ⟨rfl, rfl⟩,
      fun _ => id, by simp⟩
  | unlinked _ link => exact link.orderly
  | @there _ es₁ c _ es₂ _ link connection speak =>
    have linked := link.orderly
    -- whatever is dialed is dialed before the channel is opened
    have dials : Runbook.dialsOf (es₁ ++ es₂) = Runbook.dialsOf es₁ := by
      rw [dialsOf_append, speak.dialsOf, List.append_nil]
    refine ⟨dials ▸ linked.once, dials ▸ linked.needed, fun c' errand opened => ?_, linked.params,
      linked.sinks, linked.live, fun d f refused => ?_⟩
    · have onChannel : .opened c' errand (.ok ()) ∈ Runbook.transported es₂ := by
        rcases List.mem_append.1 opened with linking | speaking
        · have linking := List.mem_filter_of_mem (p := Event.isTransport) linking rfl
          rw [← Runbook.transported, link.transported] at linking
          exact absurd (List.mem_filter.1 linking).2 nofun
        · exact List.mem_filter_of_mem speaking rfl
      obtain ⟨answer, closed, used⟩ := used_of_opened speak.channel onChannel
      exact ⟨answer, closed, by rw [dials, transported_append, link.transported, used]⟩
    · rcases List.mem_append.1 refused with linking | speaking
      · exact absurd rfl (linked.refused d f linking).1
      · have dial := List.mem_filter_of_mem (p := Event.isDial) speaking rfl
        rw [← Runbook.dialsOf, speak.dialsOf] at dial
        cases dial

end

/-- **Every action extends the conversation** of a session on another machine. -/
theorem extends_keeping : Keeping (fun _ => True) fun s es t => ∀ r, s = .remote r →
    ∃ r', t = .remote r' ∧ r.Extends es r' where
  refl s r remote := ⟨r, remote, .refl r⟩
  trans first second r remote := by
    obtain ⟨r', remote', first⟩ := first r remote
    obtain ⟨r'', remote'', second⟩ := second r' remote'
    exact ⟨r'', remote'', first.trans second⟩
  connect connect := by
    rintro r rfl
    rcases connect with _ | link
    exact ⟨_, rfl, link.extends⟩
  run run := by
    rintro r rfl
    rcases run with _ | run
    exact ⟨_, rfl, run.extends⟩
  close close := by
    rintro r rfl
    rcases close with _ | close
    exact ⟨_, rfl, close.extends⟩
  configure := by
    rintro _ d r rfl
    exact ⟨_, rfl, .refl r⟩
  redirect := by
    rintro _ k - r rfl
    exact ⟨_, rfl, .refl r⟩
  within {s k es t} inside := by
    rintro r rfl
    obtain ⟨r', rfl, meanwhile⟩ := inside (r.setSink k) rfl
    exact ⟨_, rfl, meanwhile⟩

/-- **The grammar of the network.** Whatever is done with a session that is not connected, it uses
    the network in conversations, and what is open at the end is its connection. Each time that
    it is connected, or runs a command, it does so in order. -/
theorem network_grammar (h : Host σ) :
    (∀ (r : RemoteShell), r.connection = none → ∀ (strict : Bool) (as : List Action) (w : World σ),
      ∃ r' es, (performAll h strict as (.remote r) w).1.2 = .remote r' ∧
        (performAll h strict as (.remote r) w).2.events = w.events ++ es ∧
        Conversation r'.connection (transported es) ∧
        signs es ∈ if r'.isConnected then visits * {[.dialed]} * channels else visits) ∧
    ∀ (r : RemoteShell) (w : World σ),
      (∃ es, (r.connect h w).2.events = w.events ++ es ∧
        r.Orderly (r.connect h w).1.1 (r.connect h w).1.2 es) ∧
      ∀ command, ∃ es, (r.run h command w).2.events = w.events ++ es ∧
        r.Orderly (r.run h command w).1.1 (r.run h command w).1.2 es := by
  refine ⟨fun r apart strict as w => ?_, fun r w => ⟨?_, fun command => ?_⟩⟩
  · obtain ⟨es, plays, kept⟩ :=
      extends_keeping.performAll h strict as (.remote r) (fun _ _ => trivial) w
    obtain ⟨r', remote, kept⟩ := kept r rfl
    have conversation : Conversation r'.connection (transported es) :=
      kept [] (apart ▸ .nil)
    refine ⟨r', es, remote, plays.events, conversation, ?_⟩
    rw [← signs_transported]
    exact conversation.signs
  · obtain ⟨es, plays, link⟩ := r.connect_plays h w
    exact ⟨es, plays.events, link.orderly⟩
  · obtain ⟨es, plays, run⟩ := r.run_plays h command w
    exact ⟨es, plays.events, run.orderly⟩

/-- A session is used on another machine, then on this one while its connection stays open, and is
    connected to a third. -/
def moves : List Action :=
  [.configure { addr := some "web:22" }, .run "restart", .configure { addr := some "" },
    .capture "make", .close, .configure { addr := some "db:22" }, .connect]

/-- The moves are in the grammar, and leave the last connection open. -/
theorem moves_in_grammar : (RemoteShell.ofSettings {}).connection = none ∧
    ∃ r' es, (performAll Host.granting true moves (.remote (.ofSettings {}))
        { host := () }).1.2 = .remote r' ∧
      r'.connection = some ⟨"db:22", 7⟩ ∧ Conversation r'.connection (transported es) ∧
      signs es = [.dialed, .opened, .executed, .channelClosed, .disconnected, .dialed] ∧
      signs es ∈ visits * {[.dialed]} * channels := by
  obtain ⟨r', es, remote, events, conversation, word⟩ := (network_grammar Host.granting).1
    (.ofSettings {}) rfl true moves { host := () }
  obtain rfl : r' = { RemoteShell.ofSettings {} with
      params := { address := "db:22" }
      connection := some ⟨"db:22", 7⟩ } := by
    refine Session.remote.inj (remote.symm.trans ?_)
    decide +kernel
  refine ⟨rfl, _, es, remote, rfl, conversation, ?_, word⟩
  rw [List.nil_append] at events
  rw [← events]
  decide +kernel

end RemoteShell

end Runbook
