/-
  The tokens of a YAML text.

  Indentation opens and closes block collections, and a colon turns what stands before
  it into a key. Where a key began is only known when its colon is met: the lexer writes
  its tokens in order, keeps beside them the places where a key began, and puts both
  together at the end (`splice`).

  A key that may still come (`PendingKey`) must end in its line and within 1024
  bytes. There is one at most for the block collections and one for each open flow
  collection.
-/
import Runbook.Yaml.Scalar
import Runbook.Yaml.Tag

namespace Runbook.Yaml

/-- A place where a key may have begun. -/
structure PendingKey where
  /-- The number of the token at this place. -/
  token : Nat
  index : Nat
  line : Nat
  column : Nat
  /-- Only a key can stand here. -/
  required : Bool

/-- A place where a key began. -/
structure KeyStart where
  token : Nat
  /-- The key is the first one of a block mapping. -/
  opensMapping : Bool

/-- The lexer between two tokens. -/
structure Lexer where
  cursor : Cursor
  /-- The tokens so far, the last one first, and their number. -/
  tokens : List Token := []
  count : Nat := 0
  keyStarts : List KeyStart := []
  /-- The column of the innermost block collection, `-1` outside of all. -/
  indent : Int := -1
  /-- The columns of the collections around it. -/
  indents : List Int := []
  /-- A key may start here. -/
  keyAllowed : Bool := true
  /-- The pending key of the innermost collection. -/
  pending : Option PendingKey := none
  /-- The pending keys around the open flow collections. -/
  outer : List (Option PendingKey) := []

namespace Lexer

/-- The place is inside a flow collection. -/
def inFlow (l : Lexer) : Bool := !l.outer.isEmpty

/-- Writes a token. -/
def push (l : Lexer) (t : Token) : Lexer :=
  { l with tokens := t :: l.tokens, count := l.count + 1 }

/-- Runs a scanner at the lexer's place. -/
def scan {α : Type} (l : Lexer) (s : Scan α) : Option (α × Lexer) :=
  (s l.cursor).map fun (a, c) => (a, { l with cursor := c })

/-! ## Keys -/

/-- Gives up the pending key, unless only a key can stand there. -/
def dropKey (l : Lexer) : Option Lexer :=
  if l.pending.any (·.required) then none else some { l with pending := none }

/-- A key may begin at this place, if one is allowed. -/
def startKey (l : Lexer) : Option Lexer :=
  if !l.keyAllowed then some l
  else do
    let l ← l.dropKey
    let c := l.cursor
    pure { l with
      pending := some
        ⟨l.count, c.index, c.line, c.column, !l.inFlow && l.indent == (c.column : Int)⟩ }

/-- A pending key lies in an earlier line or too far behind. -/
def isStale (c : Cursor) (k : PendingKey) : Bool := k.line < c.line || k.index + 1024 < c.index

/-- Gives up a key that cannot end any more, unless only a key can stand there. -/
def expire (c : Cursor) (k : Option PendingKey) : Option (Option PendingKey) :=
  match k with
  | none => some none
  | some k => if isStale c k then (if k.required then none else some none) else some (some k)

/-- Gives up all keys that cannot end any more. -/
def expireKeys (l : Lexer) : Option Lexer := do
  let pending ← expire l.cursor l.pending
  let outer ← l.outer.mapM (expire l.cursor)
  pure { l with pending, outer }

/-! ## Indentation -/

/-- Closes the block collections that are indented deeper than `column`. -/
def closeBlocks (column : Int) : List Int → Lexer → Lexer
  | [], l => l
  | outer :: indents, l =>
    if l.inFlow || l.indent ≤ column then l
    else closeBlocks column indents ({ l with indent := outer, indents }.push .blockEnd)

/-- A collection starts at `column`: it is opened if it is indented deeper. -/
def openBlock (l : Lexer) (column : Nat) (start : Token) : Lexer :=
  if l.inFlow || (column : Int) ≤ l.indent then l
  else { l with indent := column, indents := l.indent :: l.indents }.push start

/-! ## Tokens -/

/-- Moves `n` characters forward and writes a token for them. -/
def mark (l : Lexer) (n : Nat) (t : Token) : Lexer :=
  { l with cursor := l.cursor.forward n }.push t

/-- A directive or a document mark, which ends all block collections. -/
def documentMark (l : Lexer) (s : Scan Token) : Option Lexer := do
  let l ← (closeBlocks (-1) l.indents l).dropKey
  let (t, l) ← { l with keyAllowed := false }.scan s
  pure (l.push t)

/-- An opening bracket. -/
def openFlow (l : Lexer) (t : Token) : Option Lexer := do
  let l ← l.startKey
  pure ({ l with outer := l.pending :: l.outer, pending := none, keyAllowed := true }.mark 1 t)

/-- A closing bracket. -/
def closeFlow (l : Lexer) (t : Token) : Option Lexer := do
  let l ← l.dropKey
  let l := match l.outer with
    | [] => l
    | k :: outer => { l with pending := k, outer }
  pure ({ l with keyAllowed := false }.mark 1 t)

/-- A comma between the entries of a flow collection. -/
def flowEntry (l : Lexer) : Option Lexer := do
  let l ← l.dropKey
  pure ({ l with keyAllowed := true }.mark 1 .flowEntry)

/-- A place for an entry or a key of a block collection, which opens the collection. -/
def blockPlace (l : Lexer) (start : Token) : Option Lexer :=
  if l.inFlow then some l
  else if l.keyAllowed then some (l.openBlock l.cursor.column start)
  else none

/-- A hyphen before an entry of a block sequence. -/
def blockEntry (l : Lexer) : Option Lexer := do
  let l ← l.blockPlace .blockSequenceStart
  let l ← l.dropKey
  pure ({ l with keyAllowed := true }.mark 1 .blockEntry)

/-- A question mark before a key. -/
def explicitKey (l : Lexer) : Option Lexer := do
  let l ← l.blockPlace .blockMappingStart
  let l ← l.dropKey
  pure ({ l with keyAllowed := !l.inFlow }.mark 1 .key)

/-- A colon before a value. It makes a key of what began at the pending key. -/
def value (l : Lexer) : Option Lexer :=
  match l.pending with
  | some k =>
    let opens := !l.inFlow && l.indent < (k.column : Int)
    let l := { l with
      keyStarts := ⟨k.token, opens⟩ :: l.keyStarts, pending := none, keyAllowed := false }
    let l := if opens then { l with indent := k.column, indents := l.indent :: l.indents } else l
    some (l.mark 1 .value)
  | none => do
    let l ← l.blockPlace .blockMappingStart
    pure ({ l with keyAllowed := !l.inFlow }.mark 1 .value)

/-- A token that a key may start with. -/
def keyPart (l : Lexer) (s : Scan Token) : Option Lexer := do
  let l ← l.startKey
  let (t, l) ← { l with keyAllowed := false }.scan s
  pure (l.push t)

/-- A block scalar. -/
def blockScalar (l : Lexer) (folded : Bool) : Option Lexer := do
  let l ← l.dropKey
  let (text, l) ← { l with keyAllowed := true }.scan do
    Scan.skip 1
    scanBlockScalar folded l.indent
  pure (l.push (.scalar text false))

/-- A quoted scalar. -/
def quotedScalar (l : Lexer) (quote : Char) : Option Lexer :=
  l.keyPart do
    Scan.skip 1
    let text ← scanQuoted quote ((← get).rest.length + 1) ""
    pure (.scalar text false)

/-- A plain scalar. After a line end a key may start again. -/
def plainScalar (l : Lexer) : Option Lexer := do
  let l ← l.startKey
  let fuel := l.cursor.rest.length + 1
  let ((text, crossed), l) ← l.scan (scanPlain l.inFlow (l.indent + 1) fuel "" {})
  pure ({ l with keyAllowed := crossed }.push (.scalar text true))

/-- A plain scalar starts here. -/
def startsPlain (l : Lexer) (x : Char) : Bool :=
  let c := l.cursor
  if x == '-' then !(c.ahead 1).any isBlank
  else if x == '?' || x == ':' then !l.inFlow && !c.wordEndsAt 1
  else !isSpace x && !",[]\x7b\x7d#&*!|>'\"%@\x60".contains x

/-- Moves over blanks, comments and line ends, and over a byte-order mark at the start of
    a line. Tabs count as blanks where no key may start. -/
def skipToToken : Nat → Lexer → Lexer
  | 0, l => l
  | fuel + 1, l =>
    let c := l.cursor
    let isGap (x : Char) : Bool := x == ' ' || (x == '\t' && (l.inFlow || !l.keyAllowed))
    let c := if c.column == 0 && c.sees '\ufeff' then c.forward 1 else c
    let c := c.forward (c.rest.takeWhile isGap).length
    let c := if c.sees '#' then c.forward (c.rest.takeWhile (!isBreak ·)).length else c
    if c.seesAny isBreak then
      skipToToken fuel
        { l with cursor := c.takeBreak.2, keyAllowed := l.keyAllowed || !l.inFlow }
    else { l with cursor := c }

/-- The lexer after the next token, which starts with `x`. -/
def token (l : Lexer) (x : Char) : Option Lexer :=
  let c := l.cursor
  if c.column == 0 && x == '%' then l.documentMark scanDirective
  else if c.atDocumentMark then
    l.documentMark do
      Scan.skip 3
      pure (if x == '-' then .documentStart else .documentEnd)
  else match x with
  | '[' => l.openFlow .flowSequenceStart
  | '\x7b' => l.openFlow .flowMappingStart
  | ']' => l.closeFlow .flowSequenceEnd
  | '\x7d' => l.closeFlow .flowMappingEnd
  | ',' => l.flowEntry
  | '*' => l.keyPart do pure (.alias (← scanAnchorName))
  | '&' => l.keyPart do pure (.anchor (← scanAnchorName))
  | '!' => l.keyPart (scanTag l.inFlow)
  | '\'' => l.quotedScalar '\''
  | '"' => l.quotedScalar '"'
  | x =>
    if x == '-' && c.wordEndsAt 1 then l.blockEntry
    else if x == '?' && (l.inFlow || c.wordEndsAt 1) then l.explicitKey
    else if x == ':' && (l.inFlow || c.wordEndsAt 1) then l.value
    else if x == '|' && !l.inFlow then l.blockScalar false
    else if x == '>' && !l.inFlow then l.blockScalar true
    else if l.startsPlain x then l.plainScalar
    else none

/-- The lexer at the end of the text. Each step moves at least one character forward, so
    the length of the text is fuel enough. -/
def run : Nat → Lexer → Option Lexer
  | 0, _ => none
  | fuel + 1, l => do
    let l ← (skipToToken (l.cursor.rest.length + 1) l).expireKeys
    let l := closeBlocks l.cursor.column l.indents l
    match l.cursor.ahead 0 with
    | none => (closeBlocks (-1) l.indents l).dropKey
    | some x => do
      let l ← l.token x
      run fuel l

/-- The tokens with the marks of the keys put in, the first one being number `n`. -/
def splice (starts : List KeyStart) : Nat → List Token → List Token
  | _, [] => []
  | n, t :: ts =>
    let rest := t :: splice starts (n + 1) ts
    match starts.find? (·.token == n) with
    | none => rest
    | some k => if k.opensMapping then .blockMappingStart :: .key :: rest else .key :: rest

end Lexer

/-- The tokens of a text. -/
def tokens? (s : List Char) : Option (List Token) := do
  let l ← Lexer.run (s.length + 1) { cursor := { rest := s } }
  pure (Lexer.splice l.keyStarts 0 l.tokens.reverse)

end Runbook.Yaml
