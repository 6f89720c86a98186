/-
  A scripted network, to rehearse chains without one.

  A script says for each address which operations fail, and how often, and has rules for
  commands: the first rule that fits a command and is not used up answers it. A command
  that no rule fits succeeds without output.
-/
import Runbook.Session.Host

namespace Runbook.Rehearsal

/-- A failure that an operation meets on its first calls, or on every call. -/
structure Refusal where
  failure : Failure
  /-- How many more calls meet it; all, if not limited. -/
  left : Option Nat := none

/-- Whether a call meets the refusal, and the refusal for the calls after it. -/
def Refusal.meet (r : Refusal) : Except Failure Unit × Refusal :=
  match r.left with
  | none => (.error r.failure, r)
  | some 0 => (.ok (), r)
  | some (n + 1) => (.error r.failure, { r with left := some n })

/-- What happens at an address. -/
structure Place where
  address : String
  dial : Option Refusal := none
  openChannel : Option Refusal := none
  disconnect : Option Refusal := none
  closeChannel : Option Refusal := none

/-- An answer to the commands that fit. -/
structure Rule where
  address : Option String := none
  command : Option String := none
  part : Option String := none
  /-- How many more commands it answers; all, if not limited. -/
  left : Option Nat := none
  stdout : Bytes := []
  status : Int := 0
  failure : Option Failure := none

/-- A command at an address fits a rule that is not used up. -/
def Rule.fits (r : Rule) (address command : String) : Bool :=
  r.address.all (· == address) && r.command.all (· == command)
    && r.part.all (Text.contains command ·) && r.left.all (0 < ·)

/-- The rule after it has answered a command. -/
def Rule.used (r : Rule) : Rule := { r with left := r.left.map (· - 1) }

/-- What happens to custom sessions. -/
structure Guest where
  id : CustomId
  connect : Option Failure := none
  close : Option Failure := none

/-- A script. -/
structure Script where
  places : List Place := []
  rules : List Rule := []
  guests : List Guest := []

namespace Script

/-- Puts an operation at an address to the refusal that stands for it. -/
def refuse (get : Place → Option Refusal) (set : Place → Option Refusal → Place)
    (address : String) : StateM Script (Except Failure Unit) := fun s =>
  match s.places.find? (·.address == address) with
  | none => (.ok (), s)
  | some place =>
    match get place with
    | none => (.ok (), s)
    | some refusal =>
      let (answer, refusal) := refusal.meet
      (answer, { s with places := s.places.map fun p =>
        if p.address == address then set p (some refusal) else p })

/-- Dials an address. -/
def dial : String → StateM Script (Except Failure Unit) :=
  refuse (·.dial) fun p r => { p with dial := r }

/-- Opens a channel at an address. -/
def openChannel : String → StateM Script (Except Failure Unit) :=
  refuse (·.openChannel) fun p r => { p with openChannel := r }

/-- Closes a channel at an address. -/
def closeChannel : String → StateM Script (Except Failure Unit) :=
  refuse (·.closeChannel) fun p r => { p with closeChannel := r }

/-- Ends a connection to an address. -/
def disconnect : String → StateM Script (Except Failure Unit) :=
  refuse (·.disconnect) fun p r => { p with disconnect := r }

/-- Takes the first rule of a list that fits, and the list with that rule used. -/
def takeRule (address command : String) : List Rule → Option Rule × List Rule
  | [] => (none, [])
  | r :: rs =>
    if r.fits address command then (some r, r.used :: rs)
    else
      let (found, rs) := takeRule address command rs
      (found, r :: rs)

/-- Answers a command. -/
def execute (address command : String) : StateM Script Executed := fun s =>
  let (found, rules) := takeRule address command s.rules
  let answer : Executed := match found with
    | none => ⟨[], .ok 0⟩
    | some r => ⟨r.stdout, match r.failure with
      | some f => .error f
      | none => .ok r.status⟩
  (answer, { s with rules })

/-- What a custom session answers when it is connected or closed. -/
def guestAnswer (get : Guest → Option Failure) (id : CustomId) : StateM Script Outcome := fun s =>
  (match (s.guests.find? (·.id == id)).bind get with
    | none => .ok ()
    | some f => .error (.unreachable id.name f.text), s)

/-- Answers a command on a custom session; its exit status does not count. -/
def customRun (id : CustomId) (command : String) : StateM Script CustomRun := do
  let answer ← execute id.name command
  pure ⟨answer.stdout, match answer.status with
    | .ok _ => .ok ()
    | .error f => .error (.failed id.name command f.text)⟩

end Script

end Runbook.Rehearsal
