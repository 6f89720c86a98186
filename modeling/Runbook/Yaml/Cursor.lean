/-
  A place in a YAML text, and the steps that scanning takes from it.

  * `Cursor` is what is left of the text, with the bytes, lines and columns before it;
  * `Scan` is a scanner: it moves a cursor and gives a result, or refuses the text;
  * a line end is a carriage return, a line feed, both in this order, a next-line
    character, or one of the two separators; all but the separators read as a line feed.
-/

namespace Runbook.Yaml

/-! ## Characters -/

/-- A space or a tab. -/
def isBlank (c : Char) : Bool := c == ' ' || c == '\t'

/-- A character that ends a line. -/
def isBreak (c : Char) : Bool :=
  c == '\r' || c == '\n' || c == '\u0085' || c == '\u2028' || c == '\u2029'

/-- A character between words. -/
def isSpace (c : Char) : Bool := isBlank c || isBreak c

/-- A character of a name: a letter or a digit of ASCII, a hyphen or an underscore. -/
def isNameChar (c : Char) : Bool := c.isAlphanum || c == '-' || c == '_'

/-- Characters that a text may hold as they are. -/
def isAllowed (c : Char) : Bool :=
  let n := c.toNat
  n == 0x9 || n == 0xA || n == 0xD || (0x20 ≤ n && n ≤ 0x7E) || n == 0x85 ||
    (0xA0 ≤ n && n ≤ 0xD7FF) || (0xE000 ≤ n && n ≤ 0xFFFD) || 0x10000 ≤ n

/-! ## Cursors -/

/-- A place in a text. -/
structure Cursor where
  rest : List Char
  /-- The number of bytes before this place. -/
  index : Nat := 0
  line : Nat := 0
  column : Nat := 0

namespace Cursor

/-- The character `n` places ahead. -/
def ahead (c : Cursor) (n : Nat) : Option Char := c.rest[n]?

/-- No character is left. -/
def atEnd (c : Cursor) : Bool := c.rest.isEmpty

/-- The next character is `x`. -/
def sees (c : Cursor) (x : Char) : Bool := c.ahead 0 == some x

/-- The next character is in a class. -/
def seesAny (c : Cursor) (p : Char → Bool) : Bool := (c.ahead 0).any p

/-- The character `n` places ahead is not part of a word. -/
def wordEndsAt (c : Cursor) (n : Nat) : Bool := (c.ahead n).all isSpace

/-- The place `n` characters further in the same line. -/
def forward (c : Cursor) (n : Nat) : Cursor :=
  let bytes := (c.rest.take n).foldl (fun k x => k + x.utf8Size) 0
  { c with rest := c.rest.drop n, index := c.index + bytes, column := c.column + n }

/-- The line end at this place, as it reads, and the place after it. -/
def takeBreak (c : Cursor) : List Char × Cursor :=
  let after (rest : List Char) (n : Nat) : Cursor := ⟨rest, c.index + n, c.line + 1, 0⟩
  match c.rest with
  | '\r' :: '\n' :: r => (['\n'], after r 2)
  | x :: r =>
    if x == '\u2028' || x == '\u2029' then ([x], after r x.utf8Size)
    else if isBreak x then (['\n'], after r x.utf8Size)
    else ([], c)
  | [] => ([], c)

/-- A line of three hyphens or three dots starts here, alone or before a blank. -/
def atDocumentMark (c : Cursor) : Bool :=
  c.column == 0 && (['-', '-', '-'].isPrefixOf c.rest || ['.', '.', '.'].isPrefixOf c.rest) &&
    c.wordEndsAt 3

end Cursor

/-! ## Scanners -/

/-- A scanner. -/
abbrev Scan := StateT Cursor Option

namespace Scan

/-- Moves `n` characters forward. -/
def skip (n : Nat) : Scan Unit := modify (·.forward n)

/-- Moves over the characters of a class and gives them. No line end is in the class. -/
def takeWhile (p : Char → Bool) : Scan (List Char) := do
  let word := (← get).rest.takeWhile p
  skip word.length
  pure word

/-- Moves over a line end, if one is here, and gives it. -/
def takeBreak : Scan (List Char) := modifyGet Cursor.takeBreak

/-- Moves over spaces and tabs. -/
def skipBlanks : Scan Unit := do
  let _ ← takeWhile isBlank

/-- Moves over a comment, if one starts here. -/
def skipComment : Scan Unit := do
  if (← get).sees '#' then
    let _ ← takeWhile (!isBreak ·)

/-- Refuses a text that does not meet a condition. -/
def require (condition : Bool) : Scan Unit := if condition then pure () else failure

/-- Moves over the rest of a line, which is blank or a comment. -/
def restOfLine : Scan Unit := do
  skipBlanks
  skipComment
  require ((← get).ahead 0 |>.all isBreak)
  let _ ← takeBreak

end Scan

end Runbook.Yaml
