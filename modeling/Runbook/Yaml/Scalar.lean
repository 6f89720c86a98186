/-
  Scalars of a YAML text: plain, between quotes, and block scalars.

  A line end inside a plain or quoted scalar is folded: alone it reads as a space, and
  with empty lines after it as the ends of these. A block scalar keeps its line ends, or
  folds those between two lines that do not start with a blank.
-/
import Runbook.Yaml.Cursor
import Runbook.Text.Bytes

namespace Runbook.Yaml

/-! ## White space inside scalars -/

/-- White space between two words of a scalar. -/
structure Gap where
  /-- The first line end is behind. -/
  crossed : Bool := false
  /-- The blanks before the first line end. -/
  blanks : List Char := []
  first : List Char := []
  later : List Char := []

/-- What the white space reads as. -/
def Gap.text (g : Gap) : List Char :=
  if !g.crossed then g.blanks
  else if g.first.head? ≠ some '\n' then g.first ++ g.later
  else if g.later.isEmpty then [' ']
  else g.later

/-- The rest of a gap. A tab left of column `margin` is refused after the first line
    end. -/
def scanGap (margin : Int) : Nat → Gap → Scan Gap
  | 0, _ => failure
  | fuel + 1, g => do
    let c ← get
    match c.ahead 0 with
    | none => pure g
    | some x =>
      if isBlank x then
        Scan.require !(g.crossed && x == '\t' && c.column < margin)
        Scan.skip 1
        scanGap margin fuel (if g.crossed then g else { g with blanks := g.blanks ++ [x] })
      else if isBreak x then
        let b ← Scan.takeBreak
        scanGap margin fuel
          (if g.crossed then { g with later := g.later ++ b }
          else { g with crossed := true, first := b })
      else pure g

/-! ## Plain scalars -/

/-- The leading word of a text inside a plain scalar. It ends before a colon at the end
    of a word, and in a flow collection before its punctuation; there a colon straight
    before punctuation is refused. -/
def plainWord (flow : Bool) : List Char → List Char → Option (List Char)
  | word, [] => some word.reverse
  | word, x :: r =>
    if isSpace x then some word.reverse
    else if flow && x == ':' && r.head?.any (",?[]\x7b\x7d".contains ·) then none
    else if x == ':' && r.head?.all isSpace then some word.reverse
    else if flow && ",[]\x7b\x7d".contains x then some word.reverse
    else plainWord flow (x :: word) r

/-- The rest of a plain scalar after `text` and `gap`, and whether the scan went over a
    line end after the last word. -/
def scanPlain (flow : Bool) (margin : Int) : Nat → String → Gap → Scan (String × Bool)
  | 0, _, _ => failure
  | fuel + 1, text, gap => do
    let c ← get
    if c.atDocumentMark || c.sees '#' then return (text, gap.crossed)
    let word ← plainWord flow [] c.rest
    if word.isEmpty then return (text, gap.crossed)
    Scan.skip word.length
    let text := text ++ String.ofList (gap.text ++ word)
    let c ← get
    if !c.seesAny isSpace then return (text, false)
    let gap ← scanGap margin (c.rest.length + 1) {}
    if !flow && (← get).column < margin then return (text, gap.crossed)
    scanPlain flow margin fuel text gap

/-! ## Quoted scalars -/

/-- The character of a one-letter escape. -/
def escaped? : Char → Option Char
  | '0' => some '\x00'
  | 'a' => some '\x07'
  | 'b' => some '\x08'
  | 't' => some '\t'
  | '\t' => some '\t'
  | 'n' => some '\n'
  | 'v' => some '\x0b'
  | 'f' => some '\x0c'
  | 'r' => some '\r'
  | 'e' => some '\x1b'
  | ' ' => some ' '
  | '"' => some '"'
  | '/' => some '/'
  | '\\' => some '\\'
  | 'N' => some '\u0085'
  | '_' => some '\u00a0'
  | 'L' => some '\u2028'
  | 'P' => some '\u2029'
  | _ => none

/-- The number of digits in an escape that gives a code point. -/
def escapeDigits? : Char → Option Nat
  | 'x' => some 2
  | 'u' => some 4
  | 'U' => some 8
  | _ => none

/-- The character with a code point, if there is one. -/
def charOf? (n : Nat) : Option Char :=
  if n.isValidChar then some (Char.ofNat n) else none

/-- An escape, from its backslash on. -/
def scanEscape : Scan Char := do
  let mark ← (← get).ahead 1
  match escapeDigits? mark with
  | none => do
    let x ← escaped? mark
    Scan.skip 2
    pure x
  | some n => do
    let digits := ((← get).rest.drop 2).take n
    Scan.require (digits.length == n)
    let ds ← (digits.mapM Bytes.hexValue? : Option (List Nat))
    Scan.skip (n + 2)
    charOf? (ds.foldl (fun v d => v * 16 + d) 0)

/-- The characters up to the next white space or the closing quote, and whether an
    escaped line end was met there. -/
def scanQuotedWord (quote : Char) : Nat → List Char → Scan (List Char × Bool)
  | 0, _ => failure
  | fuel + 1, word => do
    match (← get).rest with
    | [] => pure (word.reverse, false)
    | x :: r =>
      if isSpace x then pure (word.reverse, false)
      else if quote == '\'' && x == quote && r.head? == some quote then do
        Scan.skip 2
        scanQuotedWord quote fuel (quote :: word)
      else if x == quote then pure (word.reverse, false)
      else if quote == '"' && x == '\\' then
        if r.head?.any isBreak then do
          Scan.skip 1
          let _ ← Scan.takeBreak
          pure (word.reverse, true)
        else do
          let e ← scanEscape
          scanQuotedWord quote fuel (e :: word)
      else do
        Scan.skip 1
        scanQuotedWord quote fuel (x :: word)

/-- The rest of a quoted scalar after `text`. -/
def scanQuoted (quote : Char) : Nat → String → Scan String
  | 0, _ => failure
  | fuel + 1, text => do
    let c ← get
    Scan.require !(c.atDocumentMark || c.atEnd)
    let (word, crossed) ← scanQuotedWord quote (c.rest.length + 1) []
    let text := text ++ String.ofList word
    let c ← get
    if c.sees quote then do
      Scan.skip 1
      pure text
    else do
      let gap ← scanGap 0 (c.rest.length + 1) { crossed }
      scanQuoted quote fuel (text ++ String.ofList gap.text)

/-! ## Block scalars -/

/-- Which line ends at the end of a block scalar are kept. -/
inductive Chomping where
  | strip
  | clip
  | keep

/-- The chomping mark and the indentation digit of a block scalar, in either order. -/
def scanBlockHeader : Scan (Chomping × Nat) := do
  let chomping : Scan (Option Chomping) := do
    match (← get).ahead 0 with
    | some '+' => do
      Scan.skip 1
      pure (some .keep)
    | some '-' => do
      Scan.skip 1
      pure (some .strip)
    | _ => pure none
  let digit : Scan Nat := do
    match (← get).ahead 0 with
    | some x =>
      if x.isDigit then do
        Scan.require (x != '0')
        Scan.skip 1
        pure (x.toNat - 48)
      else pure 0
    | none => pure 0
  match ← chomping with
  | some k => do
    let d ← digit
    pure (k, d)
  | none => do
    let d ← digit
    let k ← if d = 0 then pure none else chomping
    pure (k.getD .clip, d)

/-- Moves over empty lines and over the indentation of the next line; gives the deepest
    column reached and the line ends. With `indent` 0 the indentation is not known yet. -/
def scanEmptyLines (indent : Nat) : Nat → Nat → String → Scan (Nat × String)
  | 0, _, _ => failure
  | fuel + 1, deepest, breaks => do
    let c ← get
    let spaces := (c.rest.takeWhile (· == ' ')).length
    Scan.skip (if indent = 0 then spaces else min spaces (indent - c.column))
    let c ← get
    let deepest := max deepest c.column
    Scan.require !((indent = 0 || c.column < indent) && c.sees '\t')
    if c.seesAny isBreak then
      let b ← Scan.takeBreak
      scanEmptyLines indent fuel deepest (breaks ++ String.ofList b)
    else pure (deepest, breaks)

/-- A block scalar while its lines are read. -/
structure BlockText where
  text : String := ""
  /-- The end of the last line. -/
  lineEnd : List Char := []
  /-- The ends of the empty lines after it. -/
  breaks : String := ""
  /-- The last line started with a blank. -/
  blankStart : Bool := false

/-- The lines of a block scalar, as long as they start at column `indent`. -/
def scanBlockLines (folded : Bool) (indent : Nat) : Nat → BlockText → Scan BlockText
  | 0, _ => failure
  | fuel + 1, b => do
    let c ← get
    if c.column != indent || c.atEnd then return b
    let blankStart := c.seesAny isBlank
    let joint :=
      if folded && b.lineEnd.head? == some '\n' && !b.blankStart && !blankStart then
        if b.breaks.isEmpty then " " else ""
      else String.ofList b.lineEnd
    let line ← Scan.takeWhile (!isBreak ·)
    let lineEnd ← Scan.takeBreak
    let (_, breaks) ← scanEmptyLines indent (c.rest.length + 1) 0 ""
    scanBlockLines folded indent fuel
      ⟨b.text ++ joint ++ b.breaks ++ String.ofList line, lineEnd, breaks, blankStart⟩

/-- A block scalar after its mark, in a block indented by `parent`. -/
def scanBlockScalar (folded : Bool) (parent : Int) : Scan String := do
  let (chomping, digit) ← scanBlockHeader
  Scan.restOfLine
  let fuel := (← get).rest.length + 2
  let given := if digit = 0 then 0 else digit + parent.toNat
  let (deepest, breaks) ← scanEmptyLines given fuel 0 ""
  let indent := if given = 0 then max (max deepest (parent + 1).toNat) 1 else given
  let b ← scanBlockLines folded indent fuel { breaks }
  pure <| match chomping with
    | .strip => b.text
    | .clip => b.text ++ String.ofList b.lineEnd
    | .keep => b.text ++ String.ofList b.lineEnd ++ b.breaks

end Runbook.Yaml
