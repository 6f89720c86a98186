/-
  Joining descriptors to files, to other descriptors and to text.
-/
import Runbook.Shell.State

namespace Runbook.Shell

/-- The descriptor that a path of the system stands for. -/
def deviceDescriptor? (p : Path) : Option Nat :=
  match p with
  | ["dev", "stdin"] => some 0
  | ["dev", "stdout"] => some 1
  | ["dev", "stderr"] => some 2
  | ["dev", "fd", n] | ["proc", "self", "fd", n] => n.toNat?
  | _ => none

/-- How a file is opened, and what is said if it cannot be. -/
structure Opening where
  /-- Made, if it is not there. -/
  makes : Bool := false
  /-- Made empty. -/
  empties : Bool := false
  /-- Left alone, if it is there. -/
  spares : Bool := false
  appends : Bool := false

/-- What is done to open a file. -/
def Opening.verb (o : Opening) : String := if o.makes then "create" else "open"

/-- Why a file is not opened, in words. -/
def Opening.reason (o : Opening) : FileFault → String
  | .missing | .notDirectory => if o.makes then "Directory nonexistent" else "No such file"
  | e => e.reason

/-- What kind of redirection opens a file how. -/
def openingOf (protected_ : Bool) : RedirectKind → Opening
  | .write force => { makes := true, empties := true, spares := protected_ && !force }
  | .append => { makes := true, appends := true }
  | .readWrite => { makes := true }
  | _ => {}

/-- Opens a file, or says why not. -/
def openFile (s : State) (o : Opening) (text : String) : Except FileFault (Nat × State) := do
  let p := Path.of s.cwd text
  let device := (deviceDescriptor? p).bind fun d => s.descriptors.lookup d
  let same := device.bind fun i => (s.opened[i]?).map (i, ·)
  match same with
  | some (i, .pipe _) | some (i, .nowhere) | some (i, .loose _ _ _) => pure (i, s)
  | some (_, .file p _ _) => opened s p
  | none =>
    match s.files.findText s.cwd text with
    | .ok .null => pure (s.openNew .nowhere)
    | .ok .directory => if o.makes then throw .isDirectory else opened s p
    | .ok _ => if o.spares then throw .present else opened s p
    | .error .missing =>
      if !o.makes then throw .missing
      if let some e := s.files.unmakable? s.cwd text then throw e
      opened s p
    | .error e => throw e
where
  /-- Opens the file at a path. -/
  opened (s : State) (p : Path) : Except FileFault (Nat × State) := do
    let s ← if o.makes then do
        let files ← s.files.write p (if o.empties then fun _ => [] else id)
        pure { s with files }
      else pure s
    pure (s.openNew (.file p 0 o.appends))

/-- Opens what a redirection joins its descriptor to; answers whether it could. -/
def redirectTo (descriptor : Nat) (kind : RedirectKind) (word : String) : Eval Bool := do
  let s ← get
  let joined (i : Nat) (s : State) : Eval Bool := do
    set (s.point descriptor i)
    pure true
  match kind with
  | .copy =>
    if word == "-" then
      set { s with descriptors := s.descriptors.filter (·.1 ≠ descriptor) }
      pure true
    else match word.toList with
    | [c] =>
      if !c.isDigit then abort "Syntax error: Bad fd number"
      match s.descriptors.lookup (c.toNat - 48) with
      | some i => joined i s
      | none => do
        complain (word ++ ": Bad file descriptor")
        pure false
    | _ => abort "Syntax error: Bad fd number"
  | .here =>
    let (i, s) := s.openNew (.pipe (Bytes.ofUnits word))
    joined i s
  | kind =>
    let o := openingOf (s.has .noclobber) kind
    match openFile s o word with
    | .ok (i, s) => joined i s
    | .error e => do
      complain ("cannot " ++ o.verb ++ " " ++ word ++ ": " ++ o.reason e)
      pure false

end Runbook.Shell
