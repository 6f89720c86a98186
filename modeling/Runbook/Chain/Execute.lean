/-
  Running a chain, whatever kind its sessions are of.

  * `executeScope` opens a scope, runs a body on its target and closes its session
    whatever happened: the body's fault wins over the fault of the closing;
  * `enter` chooses the target: a scope without a target of its own borrows the session of
    the enclosing one, any other connects its own;
  * `executeItem` and `executeAll` run the items in order and stop at the first fault.
-/
import Runbook.Chain.Tree
import Runbook.Discovery

namespace Runbook

variable {σ S : Type}

/-- The phase that a scope ends in. -/
def finalPhase (result closed : Outcome) : Phase :=
  if result.isOk && closed.isOk then .closed else .failed

@[simp] theorem finalPhase_error (e : Fault) (closed : Outcome) :
    finalPhase (.error e) closed = .failed := rfl

@[simp] theorem finalPhase_ok_error (e : Fault) : finalPhase (.ok ()) (.error e) = .failed := rfl

@[simp] theorem finalPhase_ok_ok : finalPhase (.ok ()) (.ok ()) = .closed := rfl

/-- Runs the body of a scope on its target. It answers what the body came to, the session
    it ran on, and its items afterwards. -/
abbrev Body (σ S : Type) (α : Type) := S → Run σ (Outcome × S × α)

namespace SessionKind

variable (k : SessionKind σ S)

/-- Runs a command on the session of its scope. -/
def executeCommand (line : String) : Option S → Run σ (Outcome × Option S)
  | none => do
    Run.note (.commandUnbound line)
    pure (.error (.unbound line), none)
  | some s => do
    Run.note (.attempt (k.identify s) line)
    let (o, s) ← k.run s line
    match o with
    | .ok () => pure (.ok (), some s)
    | .error e => do
      Run.note (.commandFailed e)
      pure (.error e, some s)

/-- Connects a scope's own session. Keys are discovered first, through the session of the
    enclosing scope. -/
def connectHost (s : S) (parent : Option S) (discovery : Option DiscoverySettings) :
    Run σ (Outcome × S × Option S) :=
  if k.isPassThrough s then pure (.ok (), s, parent)
  else do
    let (s, parent) ← match discovery, parent with
      | none, parent => pure (s, parent)
      | some _, none => do
        Run.note (.noDiscoverySession (k.identify s))
        pure (s, none)
      | some settings, some p => do
        let (_, s, p) ← k.enrich s p settings
        pure (s, some p)
    let (o, s) ← k.connect s
    pure (o, s, parent)

/-- Runs the body of a scope on its target. -/
def enter {α : Type} (s : Scope S) (parent : Option S) (items : α) (body : Body σ S α) :
    Run σ (Outcome × Option S × Scope S × α) :=
  match parent, k.isPassThrough s.session with
  | some p, true => do
    Run.note (.chainBorrows s.name (k.identify p))
    let (o, p, items) ← body p
    pure (o, some p, { s with phase := .ready }, items)
  | parent, _ => do
    let (o, own, parent) ← k.connectHost s.session parent s.discovery
    match o with
    | .error e => pure (.error e, parent, { s with session := own, phase := .failed }, items)
    | .ok () => do
      let (o, own, items) ← body own
      pure (o, parent, { s with session := own, phase := .ready }, items)

/-- Runs a scope around a body. Its session is closed on the way out, whatever happened. -/
def executeScope {α : Type} (s : Scope S) (parent : Option S) (items : α) (body : Body σ S α) :
    Run σ (Outcome × Option S × Scope S × α) := do
  Run.note (.chainStarted s.name)
  let (result, parent, s, items) ← k.enter s parent items body
  let (closed, session) ← k.close s.session
  match closed with
  | .ok () => pure ()
  | .error e => Run.note (.closeFailed s.name e)
  Run.note (.chainFinished s.name)
  pure (result.and closed, parent, { s with session, phase := finalPhase result closed }, items)

mutual

/-- Runs an item on the session of its enclosing scope. -/
def executeItem (target : Option S) : Item S → Run σ (Outcome × Option S × Item S)
  | .command line => do
    let (o, target) ← k.executeCommand line target
    pure (o, target, .command line)
  | .chain s items => do
    let (o, target, s, items) ← k.executeScope s target items fun t => executeAll t items
    pure (o, target, .chain s items)

/-- Runs items in order, up to the first fault. -/
def executeAll (target : S) : List (Item S) → Run σ (Outcome × S × List (Item S))
  | [] => pure (.ok (), target, [])
  | i :: is => do
    let (o, t, i) ← executeItem (some target) i
    let target := t.getD target
    match o with
    | .error e => pure (.error e, target, i :: is)
    | .ok () => do
      let (o, target, is) ← executeAll target is
      pure (o, target, i :: is)

end

/-- Runs a chain, with the session of an enclosing scope if there is one. -/
def execute (c : Chain S) (parent : Option S) : Run σ (Outcome × Option S × Chain S) := do
  let (o, parent, scope, items) ← k.executeScope c.scope parent c.items fun t =>
    k.executeAll t c.items
  pure (o, parent, { scope, items })

end SessionKind

/-- Runs a command on the session of its scope. -/
def executeCommand (h : Host σ) (line : String) (target : Option Session) :
    Run σ (Outcome × Option Session) :=
  (Session.kind h).executeCommand line target

/-- Runs an item on the session of its enclosing scope. -/
def Item.execute (h : Host σ) (target : Option Session) (i : Item) :
    Run σ (Outcome × Option Session × Item) :=
  (Session.kind h).executeItem target i

/-- Runs a chain, with the session of an enclosing scope if there is one. -/
def Chain.execute (h : Host σ) (c : Chain) (parent : Option Session) :
    Run σ (Outcome × Option Session × Chain) :=
  (Session.kind h).execute c parent

end Runbook
