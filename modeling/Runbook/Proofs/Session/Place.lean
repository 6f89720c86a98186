/-
  The sessions of a compiled document, and the places that its commands run at.

  A scope of a document owns a session that is either at rest or linked: it differs from a
  fresh one only in its parameters and its connection. Commands run at a `Place`: over a
  connection, or on this machine.

  * `RunsAt st pl s`: commands given to the session `s` run at the place `pl`;
  * `RunsAt.runs`, `RunsAt.captures`: a command leaves the session as it was, and what
    happens is an exchange at that place (`Exchanges`);
  * `connects_resting`, `closes_resting`, `closes_linked`: from rest to a link and back.
-/
import Runbook.Proofs.Session.Conduct

namespace Runbook

/-- Where commands run: over a connection, or on this machine. -/
abbrev Place := Option Connection

/-- The name of a place in messages. -/
def Place.name : Place → String
  | none => localName
  | some c => c.address

/-- A session of a document that is not connected. -/
def Session.resting (st : Settings) (p : Params) : Session :=
  .remote { params := p, settings := st, fallback := LocalShell.ofSettings st }

/-- A session of a document that is connected. -/
def Session.linked (st : Settings) (p : Params) (c : Connection) : Session :=
  .remote { params := p, settings := st, connection := some c,
            fallback := LocalShell.ofSettings st }

open Session (resting linked)

/-- Commands given to the session run at the place. -/
inductive RunsAt (st : Settings) : Place → Session → Prop where
  | here {p} (unaddressed : p.address = "") : RunsAt st none (resting st p)
  | there {p c} (addressed : p.address ≠ "") (dialed : c.address = p.address) :
      RunsAt st (some c) (linked st p c)

/-- A command is run at a place, and its output goes to `sink`. -/
inductive Exchanges (st : Settings) (sink : Sink) (command : String) :
    Place → Outcome → List Event → Prop where
  | here {o es} (run : { LocalShell.ofSettings st with sink }.Runs command o es) :
      Exchanges st sink command none o es
  | there {c o es} (speak : RemoteShell.Speaks c.address c sink command o es) :
      Exchanges st sink command (some c) o es

variable {st : Settings} {p : Params} {c : Connection}

@[simp] theorem identify_resting :
    (resting st p).identify = if p.address = "" then localName else p.address := by
  simp [resting, Session.identify, RemoteShell.identify]

@[simp] theorem isPassThrough_resting :
    (resting st p).isPassThrough = true ↔ p.address = "" := by
  simp [resting, Session.isPassThrough, RemoteShell.isAddressless]

theorem isPassThrough_resting_eq_false :
    (resting st p).isPassThrough = false ↔ p.address ≠ "" := by
  rw [← Bool.not_eq_true, isPassThrough_resting]

theorem resting_inj {q : Params} : resting st p = resting st q ↔ p = q := by
  simp [resting]

namespace RunsAt

variable {pl : Place} {s : Session}

theorem identify (h : RunsAt st pl s) : s.identify = pl.name := by
  cases h with
  | here unaddressed => simp [unaddressed, Place.name]
  | there addressed dialed =>
    simp [linked, Session.identify, RemoteShell.identify, Place.name, addressed, dialed]

/-- A session runs at one place only. -/
theorem unique {pl' : Place} (h : RunsAt st pl s) (h' : RunsAt st pl' s) : pl = pl' := by
  cases h <;> cases h' <;> rfl

theorem setSink_stdout (h : RunsAt st pl s) : s.setSink .stdout = s := by
  cases h <;> rfl

theorem sink (h : RunsAt st pl s) : s.sink = .stdout := by
  cases h <;> rfl

/-- A command with its output sent to `sink` leaves the session as it was. -/
theorem runs_setSink {sink : Sink} {command : String} {o : Outcome} {t : Session}
    {es : List Event} (h : RunsAt st pl s)
    (run : Session.Runs command (s.setSink sink) (o, t) es) :
    t = s.setSink sink ∧ Exchanges st sink command pl o es := by
  cases h with
  | here unaddressed =>
    rcases run with _ | run
    rcases run with ⟨-, run⟩ | ⟨addressed, -⟩ | ⟨addressed, -⟩
    · exact ⟨rfl, .here run⟩
    · exact absurd unaddressed addressed
    · exact absurd unaddressed addressed
  | @there p c addressed dialed =>
    rcases run with _ | run
    rcases run with ⟨unaddressed, -⟩ | ⟨-, link⟩ | ⟨-, link, connection, speak⟩
    · exact absurd unaddressed addressed
    · rcases link with _ | _ | ⟨-, apart, -⟩
      cases apart
    · rcases link with _ | ⟨-, apart, -⟩
      · obtain rfl := Option.some.inj connection
        refine ⟨rfl, .there ?_⟩
        simpa [RemoteShell.identify, RemoteShell.setSink, addressed, dialed] using speak
      · cases apart

/-- A command leaves the session as it was. -/
theorem runs {command : String} {o : Outcome} {t : Session} {es : List Event}
    (h : RunsAt st pl s) (run : Session.Runs command s (o, t) es) :
    t = s ∧ Exchanges st .stdout command pl o es := by
  rw [← h.setSink_stdout] at run
  simpa [h.setSink_stdout] using h.runs_setSink run

/-- A captured command leaves the session as it was, and its answer is what was written to
    its buffer. -/
theorem captures {command : String} {r : Except Fault String} {t : Session} {es : List Event}
    (h : RunsAt st pl s) (capture : Session.Captures command s (r, t) es) :
    t = s ∧ ∃ id o, Exchanges st (.buffer id) command pl o es ∧
      r = o.map fun _ => Bytes.decodeLossy (outputTo (.buffer id) es) := by
  obtain @⟨id, o, t, _, run⟩ := capture
  obtain ⟨rfl, exchange⟩ := h.runs_setSink run
  exact ⟨by rw [h.sink, Session.setSink_setSink, h.setSink_stdout], id, o, exchange, rfl⟩

end RunsAt

/-! ## From rest to a link and back -/

/-- The request of a session with these parameters. -/
def Params.dial (st : Settings) (p : Params) : Dial where
  address := p.address
  user := p.user
  auth := p.auth
  timeoutMs := st.timeoutMs
  policy := st.policy

/-- A session at rest is connected: it is linked, or refused and stays at rest. -/
theorem connects_resting {o : Outcome} {s : Session} {es : List Event} (addressed : p.address ≠ "")
    (connect : Session.Connects (resting st p) (o, s) es) :
    (∃ serial, o = .ok () ∧ s = linked st p ⟨p.address, serial⟩ ∧
      es = [.notice (.connecting p.user p.address), .dialed (p.dial st) (.ok serial)]) ∨
    ∃ f : Failure, o = .error (.unreachable p.address f.text) ∧ s = resting st p ∧
      es = [.notice (.connecting p.user p.address), .dialed (p.dial st) (.error f),
        .notice (.dialFailed p.address f)] := by
  rcases connect with _ | link
  rcases link with ⟨unaddressed | connected⟩ | ⟨-, -, serial⟩ | ⟨-, -, f⟩
  · exact absurd unaddressed addressed
  · cases connected
  · exact .inl ⟨serial, rfl, rfl, rfl⟩
  · exact .inr ⟨f, rfl, rfl, rfl⟩

theorem closes_resting {o : Outcome} {s : Session} {es : List Event}
    (close : Session.Closes (resting st p) (o, s) es) :
    o = .ok () ∧ s = resting st p ∧ es = [] := by
  rcases close with _ | close
  rcases close with _ | ⟨connection, -⟩
  · exact ⟨rfl, rfl, rfl⟩
  · cases connection

theorem closes_linked {o : Outcome} {s : Session} {es : List Event}
    (close : Session.Closes (linked st p c) (o, s) es) :
    ∃ answer, o = RemoteShell.hangUp p.address answer ∧ s = resting st p ∧
      es = [.notice (.disconnecting p.address), .disconnected c answer] := by
  rcases close with _ | close
  rcases close with ⟨apart⟩ | ⟨connection, answer⟩
  · cases apart
  · obtain rfl := Option.some.inj connection
    exact ⟨answer, rfl, rfl, rfl⟩

end Runbook
