/-
  Regular expressions, and whether one occurs in a text.

  * `CharSet` are sets of characters, `Anchor` asks for a place in the text and takes no
    character, `Regex` are the expressions;
  * `Regex.rest c` is what may follow after the character `c`, and `Regex.occursIn`
    follows the expression from every place of a text at once.
-/
import Runbook.Text.Alphanumeric
import Runbook.Text.Blank

namespace Runbook.Text

/-! ## Sets of characters -/

/-- A character that words are made of. -/
def isWordChar (c : Char) : Bool := c == '_' || isAlphanumeric c || graphemeExtend.has c.toNat

/-- A set of characters. -/
inductive CharSet where
  | none
  | range (first last : Char)
  | digit
  | blank
  | word
  | not (s : CharSet)
  | or (s t : CharSet)
  | and (s t : CharSet)
  /-- With the letters of ASCII in either case. -/
  | anyCase (s : CharSet)
  deriving DecidableEq, Repr

namespace CharSet

/-- A character belongs to a set. -/
def has (c : Char) : CharSet → Bool
  | none => false
  | range first last => first ≤ c && c ≤ last
  | digit => c.isDigit
  | blank => isBlank c
  | word => isWordChar c
  | not s => !s.has c
  | or s t => s.has c || t.has c
  | and s t => s.has c && t.has c
  | anyCase s => s.has c || s.has c.toLower || s.has c.toUpper

/-- One character. -/
def one (c : Char) : CharSet := range c c

/-- All characters. -/
def all : CharSet := not none

/-- What one set has and another one does not. -/
def without (s t : CharSet) : CharSet := and s (not t)

/-- What one of two sets has but not both. -/
def either (s t : CharSet) : CharSet := or (s.without t) (t.without s)

/-- The characters of several sets. -/
def ofList (sets : List CharSet) : CharSet := sets.foldr or none

/-- The sets of ASCII characters that have a name. -/
def ofName? (name : String) : Option CharSet :=
  let upper := range 'A' 'Z'
  let lower := range 'a' 'z'
  let digits := range '0' '9'
  let alnum := ofList [digits, upper, lower]
  [("alnum", alnum), ("alpha", upper.or lower), ("ascii", range '\x00' '\x7f'),
   ("blank", (one '\t').or (one ' ')), ("cntrl", (range '\x00' '\x1f').or (one '\x7f')),
   ("digit", digits), ("graph", range '!' '~'), ("lower", lower), ("print", range ' ' '~'),
   ("punct", (range '!' '~').without alnum), ("space", (range '\t' '\r').or (one ' ')),
   ("upper", upper), ("word", alnum.or (one '_')),
   ("xdigit", ofList [digits, range 'A' 'F', range 'a' 'f'])].lookup name

end CharSet

/-! ## Anchors -/

/-- A place at a word. -/
inductive WordPlace where
  /-- Between a word and what is no word. -/
  | boundary
  | noBoundary
  | start
  | finish
  /-- No word ends here or goes on. -/
  | halfStart
  /-- No word starts here or goes on. -/
  | halfFinish
  deriving DecidableEq, Repr

/-- A place is one at a word, given whether words are before and after it. -/
def WordPlace.holds (before after : Bool) : WordPlace → Bool
  | boundary => before != after
  | noBoundary => before == after
  | start => !before && after
  | finish => before && !after
  | halfStart => !before
  | halfFinish => !after

/-- A place in a text. -/
inductive Anchor where
  | start
  | finish
  | lineStart
  | lineFinish
  /-- The start of a line, where a carriage return and a line feed after it end one line. -/
  | returnStart
  | returnFinish
  /-- A place at a word, of ASCII only if `ascii` says so. -/
  | word (place : WordPlace) (ascii : Bool)
  deriving DecidableEq, Repr

/-- A place is what an anchor asks for, given the characters before and after it. -/
def Anchor.holds (before after : Option Char) : Anchor → Bool
  | start => before.isNone
  | finish => after.isNone
  | lineStart => before.all (· == '\n')
  | lineFinish => after.all (· == '\n')
  | returnStart => before.all fun c => c == '\n' || (c == '\r' && after != some '\n')
  | returnFinish => after.all fun c => c == '\r' || (c == '\n' && before != some '\r')
  | word place ascii =>
    let isWord (c : Char) : Bool := isWordChar c && (!ascii || c.toNat < 0x80)
    place.holds (before.any isWord) (after.any isWord)

/-! ## Expressions -/

/-- A regular expression. -/
inductive Regex where
  | never
  | empty
  | anchor (a : Anchor)
  | oneOf (s : CharSet)
  | seq (r s : Regex)
  | either (r s : Regex)
  /-- At least `low` times, and at most `high` times if there is a limit. -/
  | times (r : Regex) (low : Nat) (high : Option Nat)
  deriving DecidableEq, Repr

namespace Regex

/-- A single character. -/
def char (c : Char) : Regex := oneOf (.one c)

/-- An expression takes no character at a place. -/
def isNullable (before after : Option Char) : Regex → Bool
  | never | oneOf _ => false
  | empty => true
  | anchor a => a.holds before after
  | seq r s => r.isNullable before after && s.isNullable before after
  | either r s => r.isNullable before after || s.isNullable before after
  | times r low _ => low == 0 || r.isNullable before after

/-- The alternatives of an expression. -/
def alternatives : Regex → List Regex
  | either r s => r.alternatives ++ s.alternatives
  | never => []
  | r => [r]

/-- One of two expressions, each alternative once. -/
def or (r s : Regex) : Regex :=
  (r.alternatives ++ s.alternatives).eraseDups.foldr
    (fun a b => if b = never then a else either a b) never

/-- Two expressions one after the other. -/
def andThen (r s : Regex) : Regex :=
  if r = never ∨ s = never then never else if r = empty then s else seq r s

/-- An expression asks for a place. -/
def hasAnchor : Regex → Bool
  | never | empty | oneOf _ => false
  | anchor _ => true
  | seq r s | either r s => r.hasAnchor || s.hasAnchor
  | times r _ _ => r.hasAnchor

/-- Repetitions that may be none at all, or of an expression that asks for no place: then it
    takes no character everywhere or nowhere. -/
def upTo (r : Regex) (low : Nat) (high : Option Nat) : Regex :=
  if high = some 0 then empty else times r low high

/-- `r` at least `low` times, and at most `high` times if there is a limit. -/
def repeated (r : Regex) (low : Nat) (high : Option Nat) : Regex :=
  if r.hasAnchor then
    (List.replicate low r).foldr andThen (r.upTo 0 (high.map (· - low)))
  else r.upTo low high

/-- An expression any number of times. -/
def many (r : Regex) : Regex := r.repeated 0 none

/-- What may follow after a character; `before` is the character in front of it. -/
def rest (before : Option Char) (c : Char) : Regex → Regex
  | never | empty | anchor _ => never
  | oneOf s => if s.has c then empty else never
  | seq r s =>
    let after := (r.rest before c).andThen s
    if r.isNullable before (some c) then after.or (s.rest before c) else after
  | either r s => (r.rest before c).or (s.rest before c)
  | times r low high =>
    if high = some 0 then never
    else (r.rest before c).andThen (r.upTo (low - 1) (high.map (· - 1)))

/-- Follows an expression through a text, starting it again at every place; `r` is what is
    left of the expressions that were started before. -/
def follow (whole : Regex) (before : Option Char) (r : Regex) : List Char → Bool
  | [] => (r.or whole).isNullable before none
  | c :: cs =>
    let r := r.or whole
    r.isNullable before (some c) || follow whole (some c) (r.rest before c) cs

/-- An expression matches somewhere in a text. -/
def occursIn (r : Regex) (s : String) : Bool := r.follow none never s.toList

/-- The length of the longest start of a text that an expression matches; `before` is the
    character in front of the text. -/
def longest? (before : Option Char) (r : Regex) : List Char → Option Nat
  | [] => if r.isNullable before none then some 0 else none
  | c :: cs =>
    if r = .never then none
    else match longest? (some c) (r.rest before c) cs with
    | some n => some (n + 1)
    | none => if r.isNullable before (some c) then some 0 else none

/-- An expression with the letters of ASCII in either case. -/
def anyCase : Regex → Regex
  | never => never
  | empty => empty
  | anchor a => anchor a
  | oneOf s => oneOf (.anyCase s)
  | seq r s => seq r.anyCase s.anyCase
  | either r s => either r.anyCase s.anyCase
  | times r low high => times r.anyCase low high

end Regex

end Runbook.Text
