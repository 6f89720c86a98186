/-
  Regular expressions in the notation of the tools for lines of text.

  There are two of it. In a full pattern parentheses, braces, bars and some other signs have
  a meaning of their own; in a basic one a backslash gives it to them. `Posix.read?` gives
  the expression of a pattern.
-/
import Runbook.Text.Regex

namespace Runbook.Text.Posix

/-- What a pattern is made of. -/
inductive Sign where
  | op (c : Char)
  | set (s : CharSet)
  | anchor (a : Anchor)
  /-- Limits of a repetition. -/
  | limits (low : Nat) (high : Option Nat)

/-! ## Sets in brackets -/

/-- The rest of a name between brackets, and what follows it. -/
def named? (mark : Char) (s : List Char) : Option (String × List Char) :=
  let name := s.takeWhile (· ≠ mark)
  match s.drop name.length with
  | _ :: ']' :: r => some (String.ofList name, r)
  | _ => none

/-- One character of a set. -/
def member? : List Char → Option (Char × List Char)
  | '[' :: '.' :: r => (named? '.' r).bind fun (n, r) => n.toList.head?.map (·, r)
  | c :: r => some (c, r)
  | [] => none

/-- The members of a set up to its closing bracket, which may be its first member. -/
def members? : Nat → Bool → List Char → Option (CharSet × List Char)
  | 0, _, _ => none
  | fuel + 1, first, s =>
    match s with
    | '[' :: ':' :: r => do
      let (name, r) ← named? ':' r
      let set ← CharSet.ofName? name
      let (others, r) ← members? fuel false r
      pure (set.or others, r)
    | s =>
      if !first && s.head? == some ']' then some (.none, s.drop 1)
      else do
        let (low, r) ← member? s
        let (set, r) ← match r with
          | '-' :: ']' :: _ => some (CharSet.one low, r)
          | '-' :: r => (member? r).map fun (high, r) => (CharSet.range low high, r)
          | r => some (CharSet.one low, r)
        let (others, r) ← members? fuel false r
        pure (set.or others, r)

/-- A set after its opening bracket. -/
def set? (s : List Char) : Option (CharSet × List Char) :=
  match s with
  | '^' :: r => (members? (r.length + 1) true r).map fun (s, r) => (.not s, r)
  | r => members? (r.length + 1) true r

/-! ## Signs -/

/-- The sign for an escaped letter. -/
def escaped (c : Char) : Sign :=
  match c with
  | 'w' => .set .word
  | 'W' => .set (.not .word)
  | 's' => .set .blank
  | 'S' => .set (.not .blank)
  | 'b' => .anchor (.word .boundary false)
  | 'B' => .anchor (.word .noBoundary false)
  | '<' => .anchor (.word .start false)
  | '>' => .anchor (.word .finish false)
  | 'n' => .set (.one '\n')
  | 't' => .set (.one '\t')
  | c => .set (.one c)

/-- Limits after their opening brace, and what follows the closing one. -/
def limits? (full : Bool) (s : List Char) : Option (Sign × List Char) := do
  let body := s.takeWhile fun c => c.isDigit || c == ','
  let r ← match s.drop body.length with
    | '\x7d' :: r => if full then some r else none
    | '\\' :: '\x7d' :: r => if full then none else some r
    | _ => none
  let number (ds : List Char) : Option Nat := (String.ofList ds).toNat?
  match pieces ',' body with
  | [n] => do
    let n ← number n
    pure (.limits n (some n), r)
  | [n, []] => pure (.limits ((number n).getD 0) none, r)
  | [n, m] => do
    let low := (number n).getD 0
    let high ← number m
    guard (low ≤ high)
    pure (.limits low (some high), r)
  | _ => none

/-- Nothing that a repetition could be about stands before a place. -/
def startsPart : Option Sign → Bool
  | none | some (.op '(') | some (.op '|') => true
  | _ => false

/-- The end of a pattern or of one of its parts comes next. -/
def endsPart (s : List Char) : Bool :=
  match s with
  | [] | '\\' :: ')' :: _ | '\\' :: '|' :: _ => true
  | _ => false

/-- The signs of a pattern; `last` is the one before. -/
def signs? (full : Bool) : Nat → Option Sign → List Char → Option (List Sign)
  | 0, _, _ => none
  | fuel + 1, last, s =>
    let emit (t : Sign) (r : List Char) : Option (List Sign) :=
      (t :: ·) <$> signs? full fuel (some t) r
    match s with
    | [] => some []
    | '[' :: r => do
      let (set, r) ← set? r
      emit (.set set) r
    | '.' :: r => emit (.set .all) r
    | '\\' :: c :: r =>
      if c == '\x7b' && !full then (limits? full r).bind fun (t, r) => emit t r
      else if "()|+?".contains c && !full then emit (.op c) r
      else if c.isDigit then none
      else emit (escaped c) r
    | ['\\'] => none
    | c :: r =>
      if c == '^' && (full || startsPart last) then emit (.anchor .start) r
      else if c == '$' && (full || endsPart r) then emit (.anchor .finish) r
      else if c == '*' then
        match full, last with
        | false, some (.anchor .start) => emit (.set (.one c)) r
        | _, _ => if startsPart last && !full then emit (.set (.one c)) r else emit (.op c) r
      else if c == '\x7b' && full then
        match limits? full r with
        | some (t, r) => emit t r
        | none => emit (.set (.one c)) r
      else if "()|+?".contains c && full then emit (.op c) r
      else emit (.set (.one c)) r

/-! ## Expressions -/

/-- Reads the repetitions after an expression. -/
def repeated : Regex → List Sign → Regex × List Sign
  | r, .op '*' :: ts => repeated r.many ts
  | r, .op '+' :: ts => repeated (r.repeated 1 none) ts
  | r, .op '?' :: ts => repeated (r.repeated 0 (some 1)) ts
  | r, .limits low high :: ts => repeated (r.repeated low high) ts
  | r, ts => (r, ts)

mutual

/-- Reads alternatives, up to the end of their group. -/
def either? : Nat → List Sign → Option (Regex × List Sign)
  | 0, _ => none
  | fuel + 1, ts => do
    let (r, ts) ← seq? fuel ts
    match ts with
    | .op '|' :: ts => do
      let (s, ts) ← either? fuel ts
      pure (r.or s, ts)
    | ts => pure (r, ts)

/-- Reads expressions one after the other. A repetition of nothing means nothing. -/
def seq? : Nat → List Sign → Option (Regex × List Sign)
  | 0, _ => none
  | fuel + 1, ts => do
    let (r, ts) ← match ts with
      | [] => return (.empty, [])
      | .op '|' :: _ | .op ')' :: _ => return (.empty, ts)
      | .op '(' :: ts => do
        match ← either? fuel ts with
        | (r, .op ')' :: ts) => some (r, ts)
        | _ => none
      | .set s :: ts => some (.oneOf s, ts)
      | .anchor a :: ts => some (.anchor a, ts)
      | _ :: ts => some (.empty, ts)
    let (r, ts) := repeated r ts
    let (s, ts) ← seq? fuel ts
    pure (r.andThen s, ts)

end

/-- The expression of a pattern, a basic one unless `full`. -/
def read? (full : Bool) (s : List Char) : Option Regex := do
  let ts ← signs? full (s.length + 1) none s
  match ← either? (3 * ts.length + 3) ts with
  | (r, []) => some r
  | _ => none

end Runbook.Text.Posix
