/-
  Reading patterns.

  A pattern is a list of alternatives, each a list of expressions with their repetitions.
  The flag `spaced` lets blanks and comments stand between them. `read` gives the pattern
  as it is written, or the first fault in it.
-/
import Runbook.Text.Bytes
import Runbook.Text.Written

namespace Runbook.Text.Written

/-- A place in a pattern. -/
structure Place where
  rest : List Char
  /-- The number of characters before this place. -/
  offset : Nat := 0
  /-- Blanks and comments mean nothing. -/
  spaced : Bool := false
  /-- The names of groups so far, and where they are. -/
  names : List (String × Span) := []

/-- A reader of patterns. -/
abbrev Read := StateT Place (Except Fault)

namespace Read

/-! ## Places -/

/-- The next character. -/
def peek : Read (Option Char) := do pure (← get).rest.head?

/-- The number of characters before this place. -/
def offset : Read Nat := do pure (← get).offset

/-- The characters from a place up to this one. -/
def since (start : Nat) : Read Span := do pure ⟨start, ← offset⟩

/-- The next character as a part of the pattern, or the place at its end. -/
def here : Read Span := do
  let p ← get
  pure ⟨p.offset, p.offset + min 1 p.rest.length⟩

/-- This place, without any character. -/
def point : Read Span := do since (← offset)

/-- Moves over `n` characters. -/
def skip (n : Nat) : Read Unit := modify fun p =>
  { p with rest := p.rest.drop n, offset := p.offset + min n p.rest.length }

/-- Moves over the next character; says whether another one comes after it. -/
def bump : Read Bool := do
  skip 1
  pure (← peek).isSome

/-- Refuses the pattern. -/
def fail {α : Type} (kind : FaultKind) (span : Span) (other : Option Span) : Read α :=
  throw { kind, span, other }

/-- Refuses the pattern if something holds. -/
def failIf (condition : Bool) (kind : FaultKind) (span : Span) : Read Unit :=
  if condition then fail kind span none else pure ()

/-- The number of characters in blanks and comments at the start of a text. -/
def gapLength : Bool → List Char → Nat
  | _, [] => 0
  | true, c :: cs => gapLength (c != '\n') cs + 1
  | false, c :: cs =>
    if isBlank c then gapLength false cs + 1
    else if c == '#' then gapLength true cs + 1
    else 0

/-- Moves over blanks and comments where they mean nothing. -/
def skipGap : Read Unit := do
  let p ← get
  if p.spaced then skip (gapLength false p.rest)

/-- Moves over the next character and a gap; says whether another character comes. -/
def advance : Read Bool := do
  if ← bump then
    skipGap
    pure (← peek).isSome
  else pure false

/-- Moves over a text if it comes next. -/
def take (s : String) : Read Bool := do
  if s.toList.isPrefixOf (← get).rest then
    skip s.length
    pure true
  else pure false

/-- The next character is `c`. -/
def sees (c : Char) : Read Bool := do pure ((← peek) == some c)

/-- The character that counts after the next one. In a comment its first character that is
    no blank counts. -/
def peekAfter : Read (Option Char) := do
  let p ← get
  let rest := p.rest.drop 1
  pure <| if !p.spaced then rest.head? else
    match rest.dropWhile isBlank with
    | '#' :: r => (r.dropWhile isBlank).head?
    | r => r.head?

end Read

open Read

/-! ## Escapes -/

/-- Characters with a meaning of their own, or none at all: a backslash takes it away. -/
def isEscapable (c : Char) : Bool :=
  c.toNat < 0x80 && !c.isAlphanum && c != '<' && c != '>'

/-- Moves over digits of a number of a certain length. -/
def hexDigits : Nat → Nat → Read Nat
  | 0, n => pure n
  | more + 1, n => do
    match (← peek).bind Bytes.hexValue? with
    | none => fail .escapeHexInvalidDigit (← here) none
    | some d =>
      let next ← advance
      if more ≠ 0 && !next then fail .escapeUnexpectedEnd (← point) none
      else hexDigits more (n * 16 + d)

/-- Moves over digits up to a closing brace, at which it stops; gives those there were. -/
def bracedHexDigits : Nat → List Nat → Read (List Nat)
  | 0, ds => pure ds.reverse
  | fuel + 1, ds => do
    let next ← advance
    if !next || (← sees '\x7d') then pure ds.reverse
    else match (← peek).bind Bytes.hexValue? with
    | none => fail .escapeHexInvalidDigit (← here) none
    | some d => bracedHexDigits fuel (d :: ds)

/-- The character with a number, which was written at a part of the pattern. -/
def charOf (n : Nat) (span : Span) : Read Char :=
  if n.isValidChar then pure (Char.ofNat n) else fail .escapeHexInvalid span none

/-- A character by its number, after the letter of its escape. -/
def hexEscape (start digits : Nat) : Read Literal := do
  if !(← advance) then fail .escapeUnexpectedEnd (← point) none
  let first ← offset
  if ← sees '\x7b' then do
    let ds ← bracedHexDigits (← get).rest.length []
    if !(← sees '\x7d') then fail .escapeUnexpectedEnd (← since first) none
    let inner : Span := ⟨first + 1, ← offset⟩
    let _ ← advance
    failIf ds.isEmpty .escapeHexEmpty (← since first)
    let c ← charOf (ds.foldl (fun n d => n * 16 + d) 0) inner
    pure ⟨← since start, c, false⟩
  else do
    let n ← hexDigits digits 0
    let c ← charOf n (← since first)
    pure ⟨← since start, c, digits == 2⟩

/-- Moves to the closing brace of a name, or to the end of the pattern. -/
def skipName : Nat → Read Unit
  | 0 => pure ()
  | fuel + 1 => do
    let next ← advance
    if next && !(← sees '\x7d') then skipName fuel

/-- A property of characters, after the letter of its escape. -/
def propertyEscape (start : Nat) : Read Span := do
  if !(← advance) then fail .escapeUnexpectedEnd (← point) none
  if ← sees '\x7b' then do
    skipName (← get).rest.length
    if !(← sees '\x7d') then fail .escapeUnexpectedEnd (← point) none
    skip 1
  else do
    failIf (← sees '\\') .propertyInvalid (← here)
    let _ ← advance
  since start

/-- The places at words that have a name. -/
def wordPlace? (name : String) : Option WordPlace :=
  [("start", .start), ("end", .finish), ("start-half", .halfStart),
   ("end-half", .halfFinish)].lookup name

/-- Moves over the letters and hyphens of a name. -/
def wordPlaceName : Nat → List Char → Read (List Char)
  | 0, name => pure name.reverse
  | fuel + 1, name => do
    match (← peek).filter fun c => c.isAlpha || c == '-' with
    | none => pure name.reverse
    | some c =>
      let _ ← advance
      wordPlaceName fuel (c :: name)

/-- The place that a name in braces asks for after `\b`. What does not start like a name is
    left to be read as a repetition. -/
def namedWordPlace (start : Nat) : Read (Option WordPlace) := do
  let before ← get
  if !(← advance) then fail .wordPlaceUnexpectedEnd (← since start) none
  let first ← offset
  if !((← peek).any fun c => c.isAlpha || c == '-') then do
    set before
    return none
  let name ← wordPlaceName (← get).rest.length []
  if !(← sees '\x7d') then fail .wordPlaceUnclosed (← since before.offset) none
  let inner ← since first
  skip 1
  match wordPlace? (String.ofList name) with
  | some p => pure (some p)
  | none => fail .wordPlaceUnrecognized inner none

/-- The set that an escaped letter stands for, and whether what is not in it is meant. -/
def perl? (c : Char) : Option (Perl × Bool) :=
  [('d', (.digit, false)), ('s', (.space, false)), ('w', (.word, false)),
   ('D', (.digit, true)), ('S', (.space, true)), ('W', (.word, true))].lookup c

/-- The character that an escaped letter stands for. -/
def control? (c : Char) : Option Char :=
  [('a', '\x07'), ('f', '\x0c'), ('t', '\t'), ('n', '\n'), ('r', '\r'), ('v', '\x0b')].lookup c

/-- The anchor that an escaped character stands for. -/
def anchor? (c : Char) : Option Assertion :=
  [('A', .textStart), ('z', .textFinish), ('B', .word .noBoundary), ('<', .word .start),
   ('>', .word .finish)].lookup c

/-- An escape, from its backslash on. -/
def escape : Read Ast := do
  let start ← offset
  if !(← bump) then fail .escapeUnexpectedEnd (← since start) none
  let c := (← peek).getD '\\'
  if c.isDigit then fail .unsupportedBackreference ⟨start, (← offset) + 1⟩ none
  else if c == 'x' then .literal <$> hexEscape start 2
  else if c == 'u' then .literal <$> hexEscape start 4
  else if c == 'U' then .literal <$> hexEscape start 8
  else if c == 'p' || c == 'P' then .property <$> propertyEscape start
  else do
    skip 1
    let span ← since start
    if let some (kind, negated) := perl? c then pure (.perl span kind negated)
    else if isEscapable c then pure (.literal ⟨span, c, false⟩)
    else if let some d := control? c then pure (.literal ⟨span, d, false⟩)
    else if let some a := anchor? c then pure (.assertion span a)
    else if c == 'b' then do
      let place ← if ← sees '\x7b' then namedWordPlace start else pure none
      match place with
      | some p => pure (.assertion (← since start) (.word p))
      | none => pure (.assertion span (.word .boundary))
    else fail .escapeUnrecognized span none

/-! ## Classes -/

/-- A member of a class that is one character or one escape. -/
def classItem : Read Ast := do
  if ← sees '\\' then escape
  else do
    let span ← here
    let c := (← peek).getD ' '
    skip 1
    pure (.literal ⟨span, c, false⟩)

/-- An expression as a member of a class. -/
def asMember (a : Ast) : Read ClassSet :=
  match a with
  | .literal l => pure (.literal l)
  | .perl span kind negated => pure (.perl span kind negated)
  | .property span => pure (.property span)
  | a => fail .classEscapeInvalid a.span none

/-- An expression as the end of a range. -/
def asBound (a : Ast) : Read Literal :=
  match a with
  | .literal l => pure l
  | a => fail .classRangeLiteral a.span none

/-- One member of a class or a range; `opened` is where the class was opened. -/
def classRange (opened : Span) : Read ClassSet := do
  let first ← classItem
  skipGap
  failIf (← peek).isNone .classUnclosed opened
  let next ← peekAfter
  if !(← sees '-') || next == some ']' || next == some '-' then asMember first
  else do
    if !(← advance) then fail .classUnclosed opened none
    let last ← classItem
    let span : Span := ⟨first.span.start, last.span.stop⟩
    let low ← asBound first
    let high ← asBound last
    failIf (high.char < low.char) .classRangeInvalid span
    pure (.range span low high)

/-- A set of characters by its name, between brackets and colons, if one starts here. -/
def namedClass? : Read (Option ClassSet) := do
  let start ← offset
  match (← get).rest with
  | '[' :: ':' :: r =>
    let (negated, r) := match r with
      | '^' :: r => (true, r)
      | r => (false, r)
    let name := r.takeWhile (· ≠ ':')
    match (r.drop name.length).take 2, CharSet.ofName? (String.ofList name) with
    | [':', ']'], some set =>
      skip (name.length + (if negated then 5 else 4))
      pure (some (.named (← since start) set negated))
    | _, _ => pure none
  | _ => pure none

/-- The members of a class as one set; `start` is where they begin if there are none. -/
def unionOf (start : Nat) (sets : List ClassSet) : ClassSet :=
  match sets.reverse with
  | [] => .empty ⟨start, start⟩
  | [s] => s
  | s :: ss => .union ⟨s.span.start, (sets.head?.getD s).span.stop⟩ (s :: ss)

/-- Joins a set to what stands before it. -/
def joined (left : Option (ClassSet × ClassOp)) (right : ClassSet) : ClassSet :=
  match left with
  | none => right
  | some (s, op) => .join ⟨s.span.start, right.span.stop⟩ op s right

/-- The sign between two sets that comes next. -/
def classOp? : Read (Option ClassOp) := do
  if ← take "&&" then pure (some .intersection)
  else if ← take "--" then pure (some .difference)
  else if ← take "~~" then pure (some .symmetricDifference)
  else pure none

/-- The hyphens at the start of a class. -/
def leadingHyphens (start : Nat) : Nat → List ClassSet → Read (List ClassSet)
  | 0, sets => pure sets
  | fuel + 1, sets => do
    if ← sees '-' then do
      let l : Literal := ⟨← here, '-', false⟩
      if !(← advance) then fail .classUnclosed ⟨start, start⟩ none
      leadingHyphens start fuel (.literal l :: sets)
    else pure sets

/-- The opening bracket of a class: where its members begin, those that only may stand at
    the start, and whether the others are meant. -/
def openClass (start : Nat) : Read (Nat × List ClassSet × Bool) := do
  if !(← advance) then fail .classUnclosed (← since start) none
  let negated ← sees '^'
  if negated then
    if !(← advance) then fail .classUnclosed (← since start) none
  let first ← offset
  let sets ← leadingHyphens start (← get).rest.length []
  if sets.isEmpty && (← sees ']') then do
    let l : Literal := ⟨← here, ']', false⟩
    if !(← advance) then fail .classUnclosed (← since start) none
    pure (first, [.literal l], negated)
  else pure (first, sets, negated)

mutual

/-- A class, from its opening bracket on: its set, and whether the others are meant. -/
def classSet : Nat → Read (ClassSet × Bool)
  | 0 => do fail .classUnclosed (← point) none
  | fuel + 1 => do
    let start ← offset
    let (first, sets, negated) ← openClass start
    let set ← members fuel (← since start) none first sets
    pure (set, negated)

/-- The members of a class up to its closing bracket. `left` is what stands before the last
    sign, `sets` the members since then, the last one first. -/
def members : Nat → Span → Option (ClassSet × ClassOp) → Nat → List ClassSet → Read ClassSet
  | 0, opened, _, _, _ => fail .classUnclosed opened none
  | fuel + 1, opened, left, first, sets => do
    skipGap
    failIf (← peek).isNone .classUnclosed opened
    if ← sees '[' then
      match ← namedClass? with
      | some s => members fuel opened left first (s :: sets)
      | none => do
        let start ← offset
        let (set, negated) ← classSet fuel
        let s := .bracketed (← since start) set negated
        members fuel opened left first (s :: sets)
    else if ← sees ']' then do
      skip 1
      pure (joined left (unionOf first sets))
    else match ← classOp? with
    | some op =>
      members fuel opened (some (joined left (unionOf first sets), op)) (← offset) []
    | none => do
      let s ← classRange opened
      members fuel opened left first (s :: sets)

end

/-! ## Groups -/

/-- A character of the name of a group. -/
def isNameChar (first : Bool) (c : Char) : Bool :=
  c == '_' || if first then isAlphanumeric c && !c.isDigit else isAlphanumeric c || ".[]".contains c

/-- The name of a group, up to the sign after it. -/
def groupName : Nat → Bool → List Char → Read (List Char)
  | 0, _, name => pure name.reverse
  | fuel + 1, first, name => do
    match ← peek with
    | none | some '>' => pure name.reverse
    | some c =>
      failIf (!isNameChar first c) .groupNameInvalid (← here)
      skip 1
      groupName fuel false (c :: name)

/-- The name of a group, after the sign before it. Every name names one group. -/
def namedGroup : Read Unit := do
  let start ← offset
  let name ← groupName ((← get).rest.length + 1) true []
  failIf (← peek).isNone .groupNameUnexpectedEnd (← point)
  let span ← since start
  skip 1
  failIf name.isEmpty .groupNameEmpty ⟨start, start⟩
  let name := String.ofList name
  if let some other := (← get).names.lookup name then fail .groupNameDuplicate span (some other)
  modify fun p => { p with names := (name, span) :: p.names }

/-- The flag of a letter. -/
def flag? (c : Char) : Option Flag :=
  [('i', .caseInsensitive), ('m', .multiLine), ('s', .dotAll), ('U', .swapGreed),
   ('u', .unicode), ('R', .carriageReturn), ('x', .spaced)].lookup c

/-- Flags up to a colon or a closing parenthesis, each at most once; those after a hyphen are
    turned off. `seen` are those before, where they are, and the hyphen as none. -/
def flags : Nat → List (Option Flag × Span) → Read (List (Option Flag × Span))
  | 0, seen => pure seen.reverse
  | fuel + 1, seen => do
    let c := (← peek).getD ')'
    if c == ':' || c == ')' then
      match seen with
      | (none, span) :: _ => fail .flagDanglingNegation span none
      | _ => pure seen.reverse
    else do
      let span ← here
      let item := if c == '-' then none else flag? c
      failIf (c != '-' && item.isNone) .flagUnrecognized span
      if let some other := seen.lookup item then
        fail (if c == '-' then .flagRepeatedNegation else .flagDuplicate) span (some other)
      if !(← bump) then fail .flagUnexpectedEnd (← point) none
      flags fuel ((item, span) :: seen)

/-- The settings that flags make. -/
def settingsOf (items : List (Option Flag × Span)) : Settings :=
  let on := items.takeWhile (·.1.isSome)
  (on.filterMap (·.1)).map (·, true) ++ ((items.drop on.length).filterMap (·.1)).map (·, false)

/-- What an opening parenthesis starts. -/
inductive Opening where
  | settings (s : Settings)
  | group (s : Settings)

/-- The opening of a group, up to its first expression. -/
def opening : Read Opening := do
  let start ← here
  skip 1
  skipGap
  for look in ["?=", "?!", "?<=", "?<!"] do
    if ← take look then fail .unsupportedLookAround (← since start.start) none
  let inner ← point
  if (← take "?P<") || (← take "?<") then do
    namedGroup
    pure (.group [])
  else if ← take "?" then do
    failIf (← peek).isNone .groupUnclosed start
    let items ← flags ((← get).rest.length + 1) []
    let closed ← sees ')'
    skip 1
    failIf (closed && items.isEmpty) .repetitionMissing inner
    pure (if closed then .settings (settingsOf items) else .group (settingsOf items))
  else pure (.group [])

/-! ## Repetitions -/

/-- The expression that a repetition is about, the last one so far. -/
def repeatable (done : List Ast) : Read (Ast × List Ast) := do
  match done with
  | [] | .flags .. :: _ | .empty _ :: _ => fail .repetitionMissing (← point) none
  | a :: done => pure (a, done)

/-- Moves over the question mark that asks for few repetitions. -/
def skipLazy : Read Unit := do
  let _ ← take "?"

/-- Moves over decimal digits and gives them. -/
def decimalDigits : Nat → List Char → Read (List Char)
  | 0, ds => pure ds.reverse
  | fuel + 1, ds => do
    match (← peek).filter Char.isDigit with
    | none => pure ds.reverse
    | some d =>
      let _ ← advance
      decimalDigits fuel (d :: ds)

/-- Moves over blanks. -/
def skipBlanks : Read Unit := do
  skip ((← get).rest.takeWhile isBlank).length

/-- A count of at most 32 bits between blanks, or the fault in its place. -/
def count : Read (Except Fault Nat) := do
  skipBlanks
  let start ← offset
  let ds ← decimalDigits (← get).rest.length []
  let span ← since start
  skipBlanks
  let n := ds.foldl (fun n d => n * 10 + (d.toNat - 48)) 0
  pure <| if ds.isEmpty then .error ⟨.repetitionCountEmpty, span, none⟩
    else if n < Nat.pow 2 32 then .ok n
    else .error ⟨.decimalInvalid, span, none⟩

/-- The limits of a counted repetition, from its brace on. -/
def limits : Read (Nat × Option Nat) := do
  let start ← offset
  let unclosed : Read Unit := do fail .repetitionCountUnclosed (← since start) none
  if !(← advance) then unclosed
  let low ← count
  if (← peek).isNone then unclosed
  let range : Nat × Option Nat ←
    if ← sees ',' then do
      if !(← advance) then unclosed
      if ← sees '\x7d' then do
        let low ← low
        pure (low, none)
      else do
        let low ← low
        let high ← count
        let high ← high
        pure (low, some high)
    else do
      let n ← low
      pure (n, some n)
  if !(← sees '\x7d') then unclosed
  if ← advance then skipLazy
  failIf (range.2.any (· < range.1)) .repetitionCountInvalid (← since start)
  pure range

/-! ## Expressions -/

/-- One character or escape. -/
def primitive : Read Ast := do
  let span ← here
  match ← peek with
  | some '\\' => escape
  | some '.' => do
    skip 1
    pure (.dot span)
  | some '^' => do
    skip 1
    pure (.assertion span .lineStart)
  | some '$' => do
    skip 1
    pure (.assertion span .lineFinish)
  | c => do
    skip 1
    pure (.literal ⟨span, c.getD ' ', false⟩)

/-- Expressions one after the other as one. -/
def concatOf (span : Span) (subs : List Ast) : Ast :=
  match subs with
  | [] => .empty span
  | [a] => a
  | as => .concat span as

mutual

/-- Alternatives up to the end of their group; `done` are those before, the last one first,
    and `start` is where the first one begins. -/
def alternatives (start : Nat) : Nat → List Ast → Read Ast
  | 0, _ => do pure (.empty (← point))
  | fuel + 1, done => do
    let first ← offset
    let subs ← sequence fuel []
    let part := concatOf (← since first) subs
    if ← sees '|' then do
      skip 1
      alternatives start fuel (part :: done)
    else if done.isEmpty then pure part
    else pure (.alternation (← since start) (part :: done).reverse)

/-- Expressions up to the end of an alternative; `done` are those before, the last one
    first. -/
def sequence : Nat → List Ast → Read (List Ast)
  | 0, done => pure done.reverse
  | fuel + 1, done => do
    skipGap
    let start ← offset
    match ← peek with
    | none | some '|' | some ')' => pure done.reverse
    | some '(' => do
      let spaced := (← get).spaced
      match ← opening with
      | .settings s => do
        modify fun p => { p with spaced := (s.lookup .spaced).getD p.spaced }
        sequence fuel (.flags (← since start) s :: done)
      | .group s => do
        modify fun p => { p with spaced := (s.lookup .spaced).getD p.spaced }
        let sub ← alternatives (← offset) fuel []
        failIf (← peek).isNone .groupUnclosed ⟨start, start + 1⟩
        skip 1
        modify ({ · with spaced })
        sequence fuel (.group (← since start) s sub :: done)
    | some '[' => do
      let (set, negated) ← classSet fuel
      sequence fuel (.bracketed (← since start) set negated :: done)
    | some '\x7b' => do
      let (a, done) ← repeatable done
      let (low, high) ← limits
      sequence fuel (.repetition ⟨a.span.start, ← offset⟩ a low high :: done)
    | some c =>
      if "?*+".contains c then do
        let (a, done) ← repeatable done
        skip 1
        skipLazy
        let low := if c == '+' then 1 else 0
        let high := if c == '?' then some 1 else none
        sequence fuel (.repetition ⟨a.span.start, ← offset⟩ a low high :: done)
      else do
        let a ← primitive
        sequence fuel (a :: done)

end

/-- The whole of a pattern. -/
def wholePattern : Read Ast := do
  let a ← alternatives 0 (2 * (← get).rest.length + 4) []
  failIf (← sees ')') .groupUnopened (← here)
  pure a

/-- The pattern in a text. -/
def read (s : String) : Except Fault Ast := (wholePattern.run { rest := s.toList }).map (·.1)

end Runbook.Text.Written
