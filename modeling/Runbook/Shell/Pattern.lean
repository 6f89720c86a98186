/-
  Patterns of the shell: `*` for any text, `?` for a character, and brackets for one of
  several characters. A protected character stands for itself, and so does one behind a
  backslash that is not protected itself.
-/
import Runbook.Shell.Syntax

namespace Runbook.Shell

/-- A character of a word after expansion. -/
structure Glyph where
  char : Char
  /-- Protected by quotes: no operator of a pattern and no separator. -/
  quoted : Bool
  /-- Comes from a parameter or a command: separates words if it is a separator. -/
  expanded : Bool := false
  deriving DecidableEq

/-- The text of glyphs. -/
def textOf (gs : List Glyph) : String := String.ofList (gs.map (·.char))

/-- The glyphs of a text. -/
def glyphsOf (s : String) (quoted : Bool) (expanded : Bool) : List Glyph :=
  s.toList.map (⟨·, quoted, expanded⟩)

/-- A glyph is a character that is not protected. -/
def Glyph.isBare (g : Glyph) (c : Char) : Bool := g.char == c && !g.quoted

/-- A pattern in which quotes do the work of backslashes. -/
def withoutEscapes : List Glyph → List Glyph
  | g :: h :: gs =>
    if g.isBare '\\' then { h with quoted := true } :: withoutEscapes gs
    else g :: withoutEscapes (h :: gs)
  | gs => gs

/-- A pattern without escapes has operators. Brackets are one only if they are closed in
    the same component of a path. -/
def hasOperators : List Glyph → Bool
  | [] => false
  | g :: gs =>
    g.isBare '*' || g.isBare '?' || hasOperators gs ||
      g.isBare '[' && closes (if (gs.head?.any (·.isBare '!')) then gs.drop 1 else gs)
where
  closes (gs : List Glyph) : Bool :=
    gs.head?.any (·.char != '/') &&
      ((gs.drop 1).takeWhile (·.char != '/')).any (·.isBare ']')

/-! ## Brackets -/

/-- The named sets of characters. -/
def characterSets : List (String × (Char → Bool)) :=
  let graph (c : Char) : Bool := '!' ≤ c && c ≤ '~'
  [("alnum", (·.isAlphanum)), ("alpha", (·.isAlpha)), ("digit", (·.isDigit)),
    ("lower", (·.isLower)), ("upper", (·.isUpper)), ("blank", fun c => c == ' ' || c == '\t'),
    ("space", fun c => c == ' ' || '\t' ≤ c && c ≤ '\r'), ("graph", graph),
    ("print", fun c => c == ' ' || graph c), ("punct", fun c => graph c && !c.isAlphanum),
    ("cntrl", fun c => c.toNat < 32 || c.toNat = 127),
    ("xdigit", fun c => c.isDigit || "abcdefABCDEF".contains c)]

/-- The named set at the start of the members of a set, and what follows it. -/
def namedSet? (gs : List Glyph) : Option ((Char → Bool) × List Glyph) :=
  characterSets.findSome? fun (name, set) =>
    let written := "[:" ++ name ++ ":]"
    if (gs.take written.length).all (!·.quoted) && textOf (gs.take written.length) == written then
      some (set, gs.drop written.length)
    else none

/-- The place of a byte among signed bytes. -/
def signedRank (c : Char) : Nat := (c.toNat + 128) % 256

/-- Reads the members of a set up to its closing bracket, which is none if it comes `first`:
    whether a character is among them, and what follows the bracket. -/
def inSet (c : Char) : Nat → Bool → List Glyph → Option (Bool × List Glyph)
  | 0, _, _ | _, _, [] => none
  | fuel + 1, first, g :: gs =>
    let also (holds : Bool) (rest : List Glyph) : Option (Bool × List Glyph) :=
      (inSet c fuel false rest).map fun r => (holds || r.1, r.2)
    if g.isBare ']' && !first then some (false, gs)
    else match namedSet? (g :: gs), gs with
    | some (set, rest), _ => also (set c) rest
    | none, ⟨'-', false, _⟩ :: h :: rest =>
      if h.isBare ']' then also (g.char == c) gs
      else also (signedRank g.char ≤ signedRank c && signedRank c ≤ signedRank h.char) rest
    | none, _ => also (g.char == c) gs

/-! ## Matching -/

/-- What is left of a text when some of its characters are taken from the front. -/
def tails : List Char → List (List Char)
  | [] => [[]]
  | c :: cs => (c :: cs) :: tails cs

/-- A text matches a pattern without escapes of at most `fuel` glyphs. -/
def matchesWithin : Nat → List Glyph → List Char → Bool
  | _, [], s => s.isEmpty
  | 0, _ :: _, _ => false
  | fuel + 1, g :: gs, s =>
    if g.isBare '*' then (tails s).any (matchesWithin fuel gs)
    else match s with
    | [] => false
    | c :: cs =>
      if g.isBare '?' then matchesWithin fuel gs cs
      else if g.isBare '[' then
        let excludes := gs.head?.any (·.isBare '!')
        match inSet c (gs.length + 1) true (if excludes then gs.drop 1 else gs) with
        | some (found, after) => (found != excludes) && matchesWithin fuel after cs
        | none => c == '[' && matchesWithin fuel gs cs
      else c == g.char && matchesWithin fuel gs cs

/-- A text matches a pattern. -/
def glyphsMatch (gs : List Glyph) (s : List Char) : Bool :=
  matchesWithin gs.length (withoutEscapes gs) s

/-- A text without the start that matches a pattern. -/
def withoutStart (longest : Bool) (gs : List Glyph) (s : List Char) : List Char :=
  let cuts := (List.range (s.length + 1)).filter fun n => glyphsMatch gs (s.take n)
  match if longest then cuts.getLast? else cuts.head? with
  | some n => s.drop n
  | none => s

/-- A text without the end that matches a pattern. -/
def withoutEnd (longest : Bool) (gs : List Glyph) (s : List Char) : List Char :=
  let cuts := (List.range (s.length + 1)).filter fun n => glyphsMatch gs (s.drop n)
  match if longest then cuts.head? else cuts.getLast? with
  | some n => s.take n
  | none => s

end Runbook.Shell
