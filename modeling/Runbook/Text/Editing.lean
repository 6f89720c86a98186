/-
  Editing of lines by a script.

  * a `Step` changes the lines that its `Address` chooses: it drops them, prints them once
    more, replaces what a pattern matches, exchanges characters, or ends the work;
  * `Editing.script?` reads steps from their notation;
  * `Editing.run` follows a script through numbered lines.
-/
import Runbook.Text.Posix

namespace Runbook.Text

namespace Editing

/-- The lines that a step is for. -/
inductive Address where
  | every
  | line (number : Nat)
  | last
  | matching (r : Regex)

/-- What a step does to a line. -/
inductive Action where
  | drop
  | print
  | stop
  /-- Replaces matches of `r`, from one with a given number on: that one, or all. -/
  | replace (r : Regex) (by_ : List Char) (first : Nat) (all print : Bool)
  | exchange (old new : List Char)

/-- One step of a script. -/
structure Step where
  address : Address
  action : Action

/-! ## Reading -/

/-- The fields of a step between its separators, and the text after the last of `n`. -/
def fields (sep : Char) : Nat → List Char → List Char → List (List Char) × List Char
  | 0, _, s => ([], s)
  | _, field, [] => ([field.reverse], [])
  | n + 1, field, '\\' :: c :: r =>
    if c == sep then fields sep (n + 1) (c :: field) r
    else fields sep (n + 1) (c :: '\\' :: field) r
  | n + 1, field, c :: r =>
    if c == sep then
      let (more, rest) := fields sep n [] r
      (field.reverse :: more, rest)
    else fields sep (n + 1) (c :: field) r

/-- Reads the address at the start of a step. -/
def address? (full : Bool) (s : List Char) : Option (Address × List Char) :=
  match s with
  | '$' :: r => some (.last, r)
  | '/' :: r =>
    match fields '/' 1 [] r with
    | ([p], r) => (Posix.read? full p).map fun p => (.matching p, r)
    | _ => none
  | s =>
    let ds := s.takeWhile Char.isDigit
    if ds.isEmpty then some (.every, s)
    else some (.line ((String.ofList ds).toNat?.getD 0), s.drop ds.length)

/-- Reads what a step does. -/
def action? (full : Bool) (s : List Char) : Option (Action × List Char) :=
  match s with
  | 'd' :: r => some (.drop, r)
  | 'p' :: r => some (.print, r)
  | 'q' :: r => some (.stop, r)
  | 's' :: sep :: r =>
    match fields sep 2 [] r with
    | ([p, by_], r) =>
      let flags := r.takeWhile fun c => c.isAlphanum
      let number := (String.ofList (flags.filter Char.isDigit)).toNat?.getD 1
      (Posix.read? full p).map fun p =>
        (.replace p by_ number (flags.contains 'g') (flags.contains 'p'), r.drop flags.length)
    | _ => none
  | 'y' :: sep :: r =>
    match fields sep 2 [] r with
    | ([old, new], r) => if old.length = new.length then some (.exchange old new, r) else none
    | _ => none
  | _ => none

/-- Reads steps that semicolons or line ends separate. -/
def script? (full : Bool) : Nat → List Char → Option (List Step)
  | 0, _ => none
  | fuel + 1, s => do
    let skip (s : List Char) := s.dropWhile fun c => c == ' ' || c == ';' || c == '\n'
    match skip s with
    | [] => some []
    | s =>
      let (address, s) ← address? full s
      let (action, s) ← action? full (s.dropWhile (· == ' '))
      let s := s.dropWhile (· == ' ')
      guard (s.isEmpty || s.head? = some ';' || s.head? = some '\n')
      let more ← script? full fuel s
      pure (⟨address, action⟩ :: more)

/-! ## Following a script -/

/-- The text that a replacement gives for a match. -/
def replacement (found : List Char) : List Char → List Char
  | '\\' :: 'n' :: r => '\n' :: replacement found r
  | '\\' :: c :: r => c :: replacement found r
  | '&' :: r => found ++ replacement found r
  | c :: r => c :: replacement found r
  | [] => []

/-- A text with matches replaced, the `skip` first ones left as they are, and whether any
    was replaced. Behind a match, which `bound` says, none is found that is empty. -/
def replaced (r : Regex) (by_ : List Char) (all : Bool) :
    Nat → Nat → Bool → Option Char → List Char → List Char × Bool
  | 0, _, _, _, s => (s, false)
  | fuel + 1, skip, bound, before, s =>
    let after (n : Nat) : List Char × Bool :=
      let found := s.take n
      let made := if skip = 0 then replacement found by_ else found
      match s.drop n with
      | [] => (made, skip = 0)
      | c :: cs =>
        if skip = 0 && !all then (made ++ c :: cs, true)
        else if n = 0 then
          let (rest, any) := replaced r by_ all fuel (skip - 1) false (some c) cs
          (made ++ c :: rest, any || skip = 0)
        else
          let before := found.getLast?.or before
          let (rest, any) := replaced r by_ all fuel (skip - 1) true before (c :: cs)
          (made ++ rest, any || skip = 0)
    match (r.longest? before s).filter fun n => n > 0 || !bound, s with
    | some n, _ => after n
    | none, [] => ([], false)
    | none, c :: cs =>
      let (rest, any) := replaced r by_ all fuel skip false (some c) cs
      (c :: rest, any)

/-- An address chooses a line. -/
def Address.chooses (number : Nat) (isLast : Bool) (line : List Char) : Address → Bool
  | every => true
  | .line n => n = number
  | last => isLast
  | matching r => r.occursIn (String.ofList line)

/-- What becomes of one line. -/
structure Edited where
  /-- The line as it stands now; none if it was dropped. -/
  line : Option (List Char)
  /-- The lines printed so far. -/
  printed : List (List Char) := []
  stopped : Bool := false

/-- Applies steps to a line in turn, until one drops it or stops. -/
def edit (number : Nat) (isLast : Bool) (steps : List Step) (line : List Char) : Edited :=
  steps.foldl (fun e s =>
    match e.line with
    | none => e
    | some l =>
      if e.stopped || !s.address.chooses number isLast l then e
      else match s.action with
      | .drop => { e with line := none }
      | .print => { e with printed := e.printed ++ [l] }
      | .stop => { e with stopped := true }
      | .replace r by_ first all print =>
        let (l, any) := replaced r by_ all (2 * l.length + 2) (first - 1) false none l
        { e with line := some l, printed := if print && any then e.printed ++ [l] else e.printed }
      | .exchange old new =>
        { e with line := some (l.map fun c => ((old.zip new).lookup c).getD c) })
    { line := some line }

/-- The lines that a script makes of lines, and how many of those it does not look at;
    `quiet` if only printing steps make any. -/
def run (quiet : Bool) (steps : List Step) : Nat → List (List Char) → List (List Char) × Nat
  | _, [] => ([], 0)
  | number, l :: ls =>
    let e := edit number ls.isEmpty steps l
    let shown := e.printed ++ if quiet then [] else e.line.toList
    if e.stopped then (shown, ls.length)
    else
      let (more, left) := run quiet steps (number + 1) ls
      (shown ++ more, left)

end Editing

end Runbook.Text
