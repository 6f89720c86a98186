/-
  White space in text: which characters are blank, trimming at both ends, and
  cutting text into lines.

  * `isBlank` is the White_Space property of Unicode;
  * `trim` drops blanks at both ends, `dropTrailing` drops one character at the end;
  * `lines` are the lines of a text, without their line ends and without an empty
    last one.
-/

namespace Runbook.Text

/-- A character with the White_Space property. -/
def isBlank (c : Char) : Bool :=
  let n := c.toNat
  (9 ≤ n && n ≤ 13) || n == 0x20 || n == 0x85 || n == 0xA0 || n == 0x1680 ||
    (0x2000 ≤ n && n ≤ 0x200A) || n == 0x2028 || n == 0x2029 || n == 0x202F ||
    n == 0x205F || n == 0x3000

/-- Drops the characters of a class from the end of a list. -/
def dropEndWhile (p : Char → Bool) (s : List Char) : List Char :=
  (s.reverse.dropWhile p).reverse

/-- The characters left when blanks are dropped at both ends. -/
def trimChars (s : List Char) : List Char :=
  dropEndWhile isBlank (s.dropWhile isBlank)

/-- A text without the blanks at its two ends. -/
def trim (s : String) : String := String.ofList (trimChars s.toList)

/-- A text without any `c` at its end. -/
def dropTrailing (c : Char) (s : String) : String :=
  String.ofList (dropEndWhile (· == c) s.toList)

/-- The pieces of a list between the separators, one more than there are separators. -/
def pieces (sep : Char) : List Char → List (List Char)
  | [] => [[]]
  | c :: cs =>
    if c = sep then [] :: pieces sep cs
    else match pieces sep cs with
      | [] => [[c]]
      | p :: ps => (c :: p) :: ps

/-- A list without one carriage return at its end. -/
def dropReturn (s : List Char) : List Char :=
  if s.getLast? = some '\r' then s.dropLast else s

/-- The lines among the pieces of a text: each piece but the last was ended by a line
    feed and loses a carriage return before it; the last one counts if it is not empty. -/
def linesOfPieces : List (List Char) → List (List Char)
  | [] => []
  | [p] => if p.isEmpty then [] else [p]
  | p :: ps => dropReturn p :: linesOfPieces ps

/-- The lines of a text. -/
def lines (s : String) : List String :=
  (linesOfPieces (pieces '\n' s.toList)).map String.ofList

/-- `part` occurs in `s`. -/
def occursIn (part : List Char) : List Char → Bool
  | [] => part.isEmpty
  | c :: cs => part.isPrefixOf (c :: cs) || occursIn part cs

/-- The text `part` occurs in the text `s`. -/
def contains (s part : String) : Bool := occursIn part.toList s.toList

/-- The two sides of the last `sep` of a text, if it has one. -/
def cutLast (sep : Char) (s : List Char) : Option (List Char × List Char) :=
  match s.reverse.span (· ≠ sep) with
  | (_, []) => none
  | (after, _ :: before) => some (before.reverse, after.reverse)

/-- The texts joined, with `sep` between each two. -/
def joinWith (sep : String) : List String → String
  | [] => ""
  | [s] => s
  | s :: ss => s ++ sep ++ joinWith sep ss

@[simp] theorem trimChars_nil : trimChars [] = [] := rfl

theorem pieces_ne_nil (sep : Char) (s : List Char) : pieces sep s ≠ [] := by
  cases s with
  | nil => simp [pieces]
  | cons c cs =>
    unfold pieces
    split
    · simp
    · split <;> simp

end Runbook.Text
