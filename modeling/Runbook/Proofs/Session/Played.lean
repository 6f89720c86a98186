/-
  Runs as their events show them.

  * `outputTo sink es` is what the events `es` wrote to a sink, and `Outlet.after` is what an
    event does to standard output;
  * `Plays w es w'`: from `w` to `w'` exactly the events `es` happened, and standard output
    and the capture buffers took what these wrote. The view `played` is made of it;
  * `Plays.idle`: if nothing is held back at first, all that the events wrote is out, and again
    nothing is held back;
  * every question to a host leaves one event, and `capture_leads`: what a captured command
    answers is what it wrote to the buffer, and no buffer is left behind.
-/
import Runbook.Proofs.View
import Runbook.Session.Capture

namespace Runbook

variable {σ S α : Type}

/-- What an event wrote, and where. -/
def Event.output? : Event → Option (Sink × Bytes)
  | .executed _ _ sink answer => some (sink, answer.stdout)
  | .spawned _ sink (.ok finished) => some (sink, finished.stdout)
  | .customRan _ _ sink answer => some (sink, answer.stdout)
  | _ => none

/-- What an event wrote to a sink. -/
def Event.outputTo (sink : Sink) (e : Event) : Bytes :=
  match e.output? with
  | some (own, bytes) => if own = sink then bytes else []
  | none => []

/-- What events wrote to a sink. -/
def outputTo (sink : Sink) (es : List Event) : Bytes := es.flatMap (·.outputTo sink)

@[simp] theorem outputTo_nil (sink : Sink) : outputTo sink [] = [] := rfl

@[simp] theorem outputTo_append (sink : Sink) (es es' : List Event) :
    outputTo sink (es ++ es') = outputTo sink es ++ outputTo sink es' := by
  simp [outputTo]

theorem outputTo_singleton (sink : Sink) (e : Event) : outputTo sink [e] = e.outputTo sink := by
  simp [outputTo]

/-- Standard output after an event. The output of a command on another machine goes through the
    writer, which is flushed when the command has ended; other output passes the writer by. -/
def Outlet.after (o : Outlet) : Event → Outlet
  | .executed _ _ .stdout answer => (o.relay answer.stdout).2
  | .spawned _ .stdout (.ok finished) => o.pass finished.stdout
  | .customRan _ _ .stdout answer => o.pass answer.stdout
  | _ => o

/-- The event writes nothing to standard output, not even no bytes. -/
def Event.Spares (e : Event) : Prop := ∀ out, e.output? = some out → out.1 ≠ .stdout

theorem Event.spares_of_silent {e : Event} (h : e.output? = none) : e.Spares := by
  intro out wrote
  rw [h] at wrote
  cases wrote

theorem Event.spares_of_buffered {e : Event} {id : Nat} {bytes : Bytes}
    (h : e.output? = some (.buffer id, bytes)) : e.Spares := by
  intro out wrote
  obtain rfl := Option.some.inj (h.symm.trans wrote)
  exact nofun

theorem Event.Spares.outputTo {e : Event} (spares : e.Spares) : e.outputTo .stdout = [] := by
  unfold Event.outputTo
  rcases h : e.output? with _ | ⟨sink, bytes⟩
  · rfl
  · exact if_neg (spares _ h)

/-- An event that writes nothing to standard output leaves it as it is. -/
theorem Event.Spares.after {e : Event} (spares : e.Spares) (o : Outlet) : o.after e = o := by
  unfold Outlet.after
  split
  · exact absurd rfl (spares _ rfl)
  · exact absurd rfl (spares _ rfl)
  · exact absurd rfl (spares _ rfl)
  · rfl

/-- What an event writes to standard output goes through the writer or passes it by. -/
theorem Outlet.after_of_output {e : Event} {bytes : Bytes} (h : e.output? = some (.stdout, bytes))
    (o : Outlet) : o.after e = (o.relay bytes).2 ∨ o.after e = o.pass bytes := by
  unfold Event.output? at h
  split at h
  · obtain ⟨rfl, rfl⟩ := Prod.mk.inj (Option.some.inj h)
    exact .inl rfl
  · obtain ⟨rfl, rfl⟩ := Prod.mk.inj (Option.some.inj h)
    exact .inr rfl
  · obtain ⟨rfl, rfl⟩ := Prod.mk.inj (Option.some.inj h)
    exact .inr rfl
  · cases h

/-- **What an event writes is out**, and nothing is held back, if nothing was before. -/
theorem Outlet.after_idle {o : Outlet} (idle : o.writer = {}) (e : Event) :
    o.after e = { out := o.out ++ e.outputTo .stdout, writer := {} } := by
  obtain ⟨out, writer⟩ := o
  obtain rfl : writer = {} := idle
  have unwritten : e.Spares → Outlet.after ⟨out, {}⟩ e = ⟨out ++ e.outputTo .stdout, {}⟩ := by
    intro spares
    rw [spares.after, spares.outputTo, List.append_nil]
  rcases h : e.output? with _ | ⟨_ | id, bytes⟩
  · exact unwritten (Event.spares_of_silent h)
  · have wrote : e.outputTo .stdout = bytes := by simp [Event.outputTo, h]
    rw [wrote]
    rcases Outlet.after_of_output h ⟨out, {}⟩ with relayed | passed
    · rw [relayed, Outlet.relay_idle rfl]
    · exact passed
  · exact unwritten (Event.spares_of_buffered h)

theorem Outlet.foldl_idle (es : List Event) {o : Outlet} (idle : o.writer = {}) :
    es.foldl Outlet.after o = { out := o.out ++ outputTo .stdout es, writer := {} } := by
  induction es generalizing o with
  | nil =>
    rw [List.foldl_nil, outputTo_nil, List.append_nil, ← idle]
  | cons e es ih =>
    have all : outputTo .stdout (e :: es) = e.outputTo .stdout ++ outputTo .stdout es :=
      List.flatMap_cons
    rw [List.foldl_cons, Outlet.after_idle idle, ih rfl, all, List.append_assoc]

theorem Outlet.foldl_spared {es : List Event} (spare : ∀ e ∈ es, e.Spares) (o : Outlet) :
    es.foldl Outlet.after o = o := by
  induction es with
  | nil => rfl
  | cons e es ih =>
    obtain ⟨first, rest⟩ := List.forall_mem_cons.1 spare
    rw [List.foldl_cons, first.after, ih rest]

/-- From one world to another, exactly these events happened and wrote what they say. -/
structure Plays (w : World σ) (es : List Event) (w' : World σ) : Prop where
  events : w'.events = w.events ++ es
  outlet : w'.outlet = es.foldl Outlet.after w.outlet
  buffers : w'.buffers = w.buffers.mapIdx fun i bytes => bytes ++ outputTo (.buffer i) es

namespace Plays

/-- Buffers that nothing is written to stay as they are. -/
theorem buffers_kept (buffers : List Bytes) {es : List Event}
    (unwritten : ∀ id, outputTo (.buffer id) es = []) :
    (buffers.mapIdx fun i bytes => bytes ++ outputTo (.buffer i) es) = buffers := by
  refine List.ext_getElem (by simp) fun i _ _ => ?_
  simp [unwritten]

theorem refl (w : World σ) : Plays w [] w where
  events := (List.append_nil w.events).symm
  outlet := rfl
  buffers := (buffers_kept w.buffers fun _ => rfl).symm

theorem trans {w₀ w₁ w₂ : World σ} {es es' : List Event} (h : Plays w₀ es w₁)
    (h' : Plays w₁ es' w₂) : Plays w₀ (es ++ es') w₂ where
  events := by rw [h'.events, h.events, List.append_assoc]
  outlet := by rw [h'.outlet, h.outlet, List.foldl_append]
  buffers := by
    rw [h'.buffers, h.buffers]
    refine List.ext_getElem (by simp) fun i _ _ => ?_
    simp

/-- **Nothing is held back.** If nothing was held back before some events, then all that they
    wrote is out afterwards, and again nothing is held back. -/
theorem idle {w w' : World σ} {es : List Event} (plays : Plays w es w') (idle : w.writer = {}) :
    w'.writer = {} ∧ w'.stdout = w.stdout ++ outputTo .stdout es := by
  have out := plays.outlet.trans (Outlet.foldl_idle es idle)
  exact ⟨congrArg Outlet.writer out, congrArg Outlet.out out⟩

/-- Events that write nothing to standard output leave it as it is, whatever is held back. -/
theorem spared {w w' : World σ} {es : List Event} (plays : Plays w es w')
    (spare : ∀ e ∈ es, e.Spares) : w'.outlet = w.outlet :=
  plays.outlet.trans (Outlet.foldl_spared spare w.outlet)

/-- Events that write nothing. -/
theorem told (w : World σ) (s : σ) {es : List Event} (silent : ∀ e ∈ es, e.output? = none) :
    Plays w es { w with host := s, events := w.events ++ es } where
  events := rfl
  outlet := by
    have spare : ∀ e ∈ es, e.Spares := fun e he => Event.spares_of_silent (silent e he)
    exact (Outlet.foldl_spared spare w.outlet).symm
  buffers := by
    refine (buffers_kept w.buffers fun id => List.flatMap_eq_nil_iff.2 fun e he => ?_).symm
    simp [Event.outputTo, silent e he]

/-- An event that writes nothing. -/
theorem silent (w : World σ) (s : σ) {e : Event} (h : e.output? = none) :
    Plays w [e] { w with host := s, events := w.events ++ [e] } :=
  told w s (List.forall_mem_singleton.2 h)

/-- An event that writes to a buffer, with what it writes. -/
theorem buffered (w : World σ) (s : σ) {e : Event} {id : Nat} {bytes : Bytes}
    (h : e.output? = some (.buffer id, bytes)) :
    Plays w [e]
      (World.append { w with host := s, events := w.events ++ [e] } (.buffer id) bytes) := by
  refine ⟨rfl, ((Event.spares_of_buffered h).after w.outlet).symm, ?_⟩
  refine List.ext_getElem (by simp [World.append]) fun i _ _ => ?_
  by_cases hi : id = i
  · simp [World.append, outputTo_singleton, Event.outputTo, h, hi]
  · simp [World.append, outputTo_singleton, Event.outputTo, h, hi]

/-- An event that writes to standard output, with what is out afterwards. -/
theorem printed (w : World σ) (s : σ) {e : Event} {bytes : Bytes} {o : Outlet}
    (h : e.output? = some (.stdout, bytes)) (out : o = w.outlet.after e) :
    Plays w [e] (World.withOutlet { w with host := s, events := w.events ++ [e] } o) := by
  refine ⟨rfl, out, (buffers_kept w.buffers fun id => ?_).symm⟩
  simp [outputTo_singleton, Event.outputTo, h]

/-- An event whose output passes the writer by, with what it writes. -/
theorem writing (w : World σ) (s : σ) {e : Event} {sink : Sink} {bytes : Bytes}
    (h : e.output? = some (sink, bytes))
    (passing : sink = .stdout → ∀ o : Outlet, o.after e = o.pass bytes) :
    Plays w [e] (World.append { w with host := s, events := w.events ++ [e] } sink bytes) := by
  cases sink with
  | stdout => exact printed w s h (passing rfl _).symm
  | buffer id => exact buffered w s h

end Plays

/-- Runs as their events show them. -/
def played : View σ Event := ⟨Plays, Plays.refl, Plays.trans⟩

namespace Run

/-! ## The questions to a host -/

variable (h : Host σ)

theorem note_plays (n : Notice) :
    (note n : Run σ Unit).Gives played fun _ es => es = [.notice n] :=
  fun w => ⟨_, Plays.silent w w.host rfl, rfl⟩

/-- A question whose answer writes nothing. -/
theorem ask_plays {question : StateM σ α} {event : α → Event}
    (silent : ∀ a, (event a).output? = none) :
    (ask question event).Gives played fun a es => es = [event a] :=
  fun w => ⟨_, Plays.silent w (question w.host).2 (silent _), rfl⟩

theorem dial_plays (d : Dial) : (dial h d).Gives played fun r es =>
    ∃ answer, r = answer.map (Connection.mk d.address) ∧ es = [.dialed d answer] :=
  gives_map (ask_plays fun _ => rfl) fun answer _ hes => ⟨answer, rfl, hes⟩

theorem openChannel_plays (c : Connection) (errand : Errand) :
    (openChannel h c errand).Gives played fun r es => es = [.opened c errand r] :=
  ask_plays fun _ => rfl

theorem closeChannel_plays (c : Connection) (sink : Sink) :
    (closeChannel h c sink).Gives played fun r es => es = [.channelClosed c sink r] :=
  ask_plays fun _ => rfl

theorem disconnect_plays (c : Connection) :
    (disconnect h c).Gives played fun r es => es = [.disconnected c r] :=
  ask_plays fun _ => rfl

theorem customConnect_plays (id : CustomId) :
    (customConnect h id).Gives played fun r es => es = [.customConnected id r] :=
  ask_plays fun _ => rfl

theorem customClose_plays (id : CustomId) :
    (customClose h id).Gives played fun r es => es = [.customClosed id r] :=
  ask_plays fun _ => rfl

theorem customRun_plays (id : CustomId) (command : String) (sink : Sink) :
    (customRun h id command sink).Gives played fun r es =>
      ∃ answer, r = answer.outcome ∧ es = [.customRan id command sink answer] :=
  fun w => ⟨_, Plays.writing w _ rfl (by rintro rfl o; rfl), _, rfl, rfl⟩

theorem spawn_plays (p : Process) (sink : Sink) : (spawn h p sink).Gives played fun r es =>
    ∃ answer, r = answer.map (·.ending) ∧ es = [.spawned p sink answer] := by
  intro w
  rcases hs : h.spawn p w.host with ⟨e | f, s⟩
  · have step : spawn h p sink w =
        (.error e, { w with host := s, events := w.events ++ [.spawned p sink (.error e)] }) := by
      simp only [spawn, ask, bind_apply, hs, pure_apply]
    rw [step]
    exact ⟨_, Plays.silent w s rfl, _, rfl, rfl⟩
  · have step : spawn h p sink w = (.ok f.ending, World.append
        { w with host := s, events := w.events ++ [.spawned p sink (.ok f)] } sink f.stdout) := by
      simp only [spawn, ask, bind_apply, hs, write, pure_apply]
    rw [step]
    exact ⟨_, Plays.writing w s rfl (by rintro rfl o; rfl), _, rfl, rfl⟩

end Run

/-! ## Commands on other machines -/

/-- Hands bytes to the writer of a sink and flushes it. -/
def World.relay (w : World σ) (bytes : Bytes) : Sink → Except String Unit × World σ
  | .stdout => ((w.outlet.relay bytes).1, w.withOutlet (w.outlet.relay bytes).2)
  | .buffer id => (.ok (), w.append (.buffer id) bytes)

theorem Run.flush_hand (sink : Sink) (bytes : Bytes) (w : World σ) :
    Run.flush sink (Run.hand sink bytes w).2 = w.relay bytes sink := by
  cases sink <;> rfl

theorem Plays.relaying (w : World σ) (s : σ) (c : Connection) (command : String) (sink : Sink)
    (answer : Executed) : Plays w [.executed c command sink answer] (World.relay
      { w with host := s, events := w.events ++ [.executed c command sink answer] }
      answer.stdout sink).2 := by
  cases sink with
  | stdout => exact Plays.printed w s rfl rfl
  | buffer id => exact Plays.buffered w s rfl

namespace RemoteShell

/-- The notice about output that could not be written out. -/
def noteUnflushed (command : String) : Except String Unit → List Event
  | .ok () => []
  | .error e => [.notice (.flushFailed command e)]

theorem noteUnflushed_silent (command : String) (flushed : Except String Unit) :
    ∀ e ∈ noteUnflushed command flushed, e.output? = none := by
  rcases flushed with e | u <;> simp [noteUnflushed, Event.output?]

theorem speak_apply (h : Host σ) (c : Connection) (command : String) (sink : Sink) (w : World σ) :
    speak h c command sink w =
      let (answer, s) := h.execute c command w.host
      let (flushed, ran) := World.relay
        { w with host := s, events := w.events ++ [.executed c command sink answer] }
        answer.stdout sink
      (answer.status, { ran with events := ran.events ++ noteUnflushed command flushed }) := by
  rcases hx : h.execute c command w.host with ⟨answer, s⟩
  have ran : Run.execute h c command sink w = (answer.status, (Run.hand sink answer.stdout
      { w with host := s, events := w.events ++ [.executed c command sink answer] }).2) := by
    simp only [Run.execute, Run.ask, Run.bind_apply, hx, Run.pure_apply]
  simp only [speak, Run.bind_apply, ran, Run.flush_hand]
  generalize World.relay _ answer.stdout sink = r
  obtain ⟨_ | _, w'⟩ := r
  · rfl
  · simp only [Run.pure_apply, noteUnflushed, List.append_nil]

/-- What a command on another machine writes goes to its sink, and nothing of it is left in the
    writer unless that is told. -/
theorem speak_plays (h : Host σ) (c : Connection) (command : String) (sink : Sink) :
    (speak h c command sink).Gives played fun r es => ∃ answer flushed,
      r = answer.status ∧ es = .executed c command sink answer :: noteUnflushed command flushed := by
  intro w
  rw [speak_apply]
  obtain ⟨answer, s⟩ := h.execute c command w.host
  have ran := Plays.relaying w s c command sink answer
  dsimp only
  generalize World.relay _ answer.stdout sink = r at ran
  obtain ⟨flushed, w'⟩ := r
  have noted := ran.trans (Plays.told w' w'.host (noteUnflushed_silent command flushed))
  exact ⟨_, noted, answer, flushed, rfl, rfl⟩

end RemoteShell

/-! ## Capturing -/

/-- **What a captured command answers is what it wrote** to the next free buffer, which is gone
    afterwards. -/
theorem capture_leads {k : SessionKind σ S} {command : String} {s : S} (w : World σ)
    {Q : Outcome × S → List Event → Prop}
    (ran : (k.run (k.swapSink (.buffer w.buffers.length) s).2 command).Gives played Q) :
    ∃ es o t, Plays w es (k.capture s command w).2 ∧ Q (o, t) es ∧ (k.capture s command w).1 =
      (o.map fun _ => Bytes.decodeLossy (outputTo (.buffer w.buffers.length) es),
        (k.swapSink (k.swapSink (.buffer w.buffers.length) s).1 t).2) := by
  obtain ⟨es, hes, hq⟩ := ran { w with buffers := w.buffers ++ [[]] }
  rcases hr : k.run (k.swapSink (.buffer w.buffers.length) s).2 command
      { w with buffers := w.buffers ++ [[]] } with ⟨⟨o, t⟩, w'⟩
  rw [hr] at hes hq
  -- the new buffer is the last one, and the command wrote all that is in it
  have hb : w'.buffers = (w.buffers.mapIdx fun i bytes => bytes ++ outputTo (.buffer i) es) ++
      [outputTo (.buffer w.buffers.length) es] := by
    rw [hes.buffers, List.mapIdx_append]; simp
  have text : w'.buffers.getD w.buffers.length [] = outputTo (.buffer w.buffers.length) es := by
    simp [hb]
  have left : w'.buffers.take w.buffers.length =
      w.buffers.mapIdx fun i bytes => bytes ++ outputTo (.buffer i) es := by
    rw [hb, List.take_left' (by simp)]
  rw [SessionKind.capture_apply rfl hr rfl, text]
  exact ⟨es, o, t, ⟨hes.events, hes.outlet, left⟩, hq, rfl⟩

theorem capture_plays {k : SessionKind σ S} {command : String} {s : S}
    {Q : Nat → Outcome × S → List Event → Prop}
    (hQ : ∀ id, (k.run (k.swapSink (.buffer id) s).2 command).Gives played (Q id)) :
    (k.capture s command).Gives played fun r es => ∃ id o t, Q id (o, t) es ∧
      r = (o.map fun _ => Bytes.decodeLossy (outputTo (.buffer id) es),
        (k.swapSink (k.swapSink (.buffer id) s).1 t).2) := fun w => by
  obtain ⟨es, o, t, plays, hq, answer⟩ := capture_leads w (hQ w.buffers.length)
  exact ⟨es, plays, _, o, t, hq, answer⟩

end Runbook
