/-
  Cutting a line that is read into the values of variables.

  Each variable but the last one gets the next field: the characters up to a separator.
  Around a separator, separators that are blanks do not count. The last variable gets all
  that is left, with the separators in it, but without blank separators at both ends and
  without one separator that ends a single field.
-/
import Runbook.Shell.Pattern
import Runbook.Text.Bytes

namespace Runbook.Shell

/-- The characters of a line that is read. Unless it is raw, a backslash protects the
    character behind it from being a separator, and joins lines. -/
def readGlyphs (raw : Bool) : List Char → List Glyph
  | ['\\'] => if raw then [⟨'\\', false, true⟩] else []
  | '\\' :: c :: r =>
    if raw then ⟨'\\', false, true⟩ :: readGlyphs raw (c :: r)
    else if c == '\n' then readGlyphs raw r
    else ⟨c, true, false⟩ :: readGlyphs raw r
  | c :: r => ⟨c, false, true⟩ :: readGlyphs raw r
  | [] => []

/-- The bytes up to the line feed that ends a line, and whether there is one. Unless the
    line is raw, a line feed behind a backslash does not end it. -/
def lineOf (raw : Bool) : Bytes → Bytes × Bool
  | [] => ([], false)
  | 10 :: _ => ([], true)
  | 92 :: b :: bs =>
    if raw then
      let (line, ended) := lineOf raw (b :: bs)
      (92 :: line, ended)
    else
      let (line, ended) := lineOf raw bs
      (92 :: b :: line, ended)
  | b :: bs =>
    let (line, ended) := lineOf raw bs
    (b :: line, ended)

/-- A glyph separates fields. -/
def Glyph.separates (separators : List Char) (g : Glyph) : Bool :=
  g.expanded && separators.contains g.char

/-- A glyph is a blank that separates fields. -/
def Glyph.isGap (separators : List Char) (g : Glyph) : Bool :=
  g.separates separators && " \t\n".contains g.char

/-- The value of the last variable. -/
def lastField (separators : List Char) (gs : List Glyph) : List Glyph :=
  let field := gs.takeWhile (!·.separates separators)
  let rest := gs.drop field.length
  if rest.all (·.separates separators) &&
      (rest.filter (!·.isGap separators)).length ≤ 1 then field
  else (gs.reverse.dropWhile (·.isGap separators)).reverse

/-- The values that a line gives to variables. -/
def fieldsFor (separators : List Char) : List String → List Glyph → List (String × String)
  | [], _ => []
  | x :: xs, gs =>
    let gs := gs.dropWhile (·.isGap separators)
    if xs.isEmpty then [(x, textOf (lastField separators gs))]
    else
      let field := gs.takeWhile (!·.separates separators)
      let rest := (gs.drop field.length).dropWhile (·.isGap separators)
      let rest := if rest.head?.any (·.separates separators) then rest.drop 1 else rest
      (x, textOf field) :: fieldsFor separators xs rest

end Runbook.Shell
