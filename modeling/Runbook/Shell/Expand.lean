/-
  From the pieces of an expanded word to the arguments of a command: cutting at
  separators, and names of files for patterns.
-/
import Runbook.Shell.State

namespace Runbook.Shell

/-- A piece of an expanded word. -/
inductive Piece where
  | glyph (g : Glyph)
  /-- Quotes: the word counts although it may be empty. -/
  | mark
  /-- The end of an argument, also of an empty one. -/
  | cut
  /-- The end of an argument, but not of an empty one, as a blank is. -/
  | gap

/-- A piece of a text that stands in place of a parameter: it is cut like its value. -/
def Piece.cuttable : Piece → Piece
  | .glyph g => .glyph { g with expanded := !g.quoted }
  | p => p

/-- The pieces of a text. -/
def piecesOf (s : String) (quoted : Bool) : List Piece :=
  (if quoted then [.mark] else []) ++ (glyphsOf s quoted (!quoted)).map .glyph

/-- The glyphs among pieces that are not cut: the first separator, if there is one, joins
    what would be arguments. -/
def glyphsAmong (separators : List Char) (ps : List Piece) : List Glyph :=
  ps.filterMap fun
    | .glyph g => some g
    | .cut | .gap => separators.head?.map (⟨·, true, false⟩)
    | .mark => none

/-- The text of pieces that are not cut. -/
def pieceText (separators : List Char) (ps : List Piece) : String :=
  textOf (glyphsAmong separators ps)

/-- An argument while it is put together: its glyphs, the last one first, whether it counts
    although it may be empty, and whether the last separator was a blank. The arguments that
    are done stand in front of it, the last one first. -/
structure Cutting where
  done : List (List Glyph) := []
  now : List Glyph := []
  counts : Bool := false
  afterBlank : Bool := false

/-- Ends the argument, if it counts. -/
def Cutting.finish (c : Cutting) : Cutting :=
  if c.counts then { done := c.now.reverse :: c.done } else { done := c.done }

/-- Ends the argument, if it counts, at a blank. -/
def Cutting.blank (c : Cutting) : Cutting :=
  { c.finish with afterBlank := c.counts || c.afterBlank }

/-- Adds a piece. -/
def Cutting.add (separators : List Char) (c : Cutting) (p : Piece) : Cutting :=
  match p with
  | .mark => { c with counts := true, afterBlank := false }
  | .cut => { done := c.now.reverse :: c.done }
  | .gap => c.blank
  | .glyph g =>
    if g.expanded && separators.contains g.char then
      if " \t\n".contains g.char then c.blank
      else if c.counts || !c.afterBlank then { done := c.now.reverse :: c.done }
      else { c with afterBlank := false }
    else { c with now := g :: c.now, counts := true, afterBlank := false }

/-- The arguments that pieces are cut into. -/
def cutPieces (separators : List Char) (ps : List Piece) : List (List Glyph) :=
  ((ps.foldl (Cutting.add separators) {}).finish).done.reverse

/-- The components of a pattern between slashes. -/
def components : List Glyph → List (List Glyph)
  | [] => [[]]
  | g :: gs =>
    if g.char == '/' then [] :: components gs
    else match components gs with
      | [] => [[g]]
      | c :: cs => (g :: c) :: cs

/-- The names in a directory that match a pattern; names that start with a dot only if the
    pattern does. -/
def namesMatching (files : Files) (dir : Path) (pattern : List Glyph) : List String :=
  let dotted := pattern.head?.any (·.char == '.')
  let names := if files.isDirectory dir then
    (if dotted then [".", ".."] else []) ++ files.names dir else []
  names.filter fun n =>
    (dotted || n.toList.head? ≠ some '.') && matchesWithin pattern.length pattern n.toList

/-- The paths that match the components of a pattern below a path, given as it is written. -/
def pathsMatching (files : Files) (cwd : Path) (written : String) :
    List (List Glyph) → List String
  | [] => [written]
  | c :: cs =>
    let below (name : String) : String :=
      if cs.isEmpty then written ++ name else written ++ name ++ "/"
    if hasOperators c then
      let dir := Path.of cwd (if written.isEmpty then "." else written)
      (namesMatching files dir c).flatMap fun n =>
        if cs.isEmpty || files.isDirectory (Path.of dir n) then
          pathsMatching files cwd (below n) cs
        else []
    else if c.isEmpty then pathsMatching files cwd (below "") cs
    else if files.has (Path.of cwd (written ++ textOf c)) then
      pathsMatching files cwd (below (textOf c)) cs
    else []

/-- The arguments that a cut piece stands for: the matching paths of a pattern in the order
    of their bytes, or itself. -/
def argumentsOf (files : Files) (cwd : Path) (gs : List Glyph) : List String :=
  let pattern := withoutEscapes gs
  if hasOperators pattern then
    let found := (pathsMatching files cwd "" (components pattern)).mergeSort (· ≤ ·)
    if found.isEmpty then [textOf gs] else found
  else [textOf gs]

/-! ## Home directories -/

/-- The home directories of the users that every system has. -/
def homes : List (String × String) :=
  [("root", "/root"), ("daemon", "/usr/sbin"), ("bin", "/bin"), ("sys", "/dev"),
    ("sync", "/bin"), ("games", "/usr/games"), ("man", "/var/cache/man"),
    ("lp", "/var/spool/lpd"), ("mail", "/var/mail"), ("news", "/var/spool/news"),
    ("uucp", "/var/spool/uucp"), ("proxy", "/bin"), ("www-data", "/var/www"),
    ("backup", "/var/backups"), ("list", "/var/list"), ("irc", "/run/ircd"),
    ("nobody", "/nonexistent")]

/-- The parts of an unprotected text in which tildes stand for home directories. One does so
    at the start of the text (`starts`), and in a value that is `assigned` behind each
    colon. The name behind it ends at a slash, or with the word if the text ends it
    (`ends`). -/
def textHomes (s : State) (assigned starts ends : Bool) (t : List Char) : List Part :=
  let pieces := if assigned then Text.pieces ':' t else [t]
  let parts := pieces.zipIdx.map fun (piece, i) =>
    let user := (piece.drop 1).takeWhile (· ≠ '/')
    let named := (i > 0 || starts) && piece.head? == some '~' &&
      (user.length + 1 < piece.length || i + 1 < pieces.length || ends)
    let home := if user.isEmpty then s.value? "HOME" else homes.lookup (String.ofList user)
    match if named then home else none with
    | some home =>
      [.text home true, .text (String.ofList (piece.drop (user.length + 1))) false]
    | none => [.text (String.ofList piece) false]
  (parts.intersperse [.text ":" false]).flatten

/-- A word with home directories in place of tildes. -/
def withHomes (s : State) (assigned : Bool) (w : Word) : Word :=
  (w.zipIdx.map fun
    | (.text t false, i) => textHomes s assigned (i = 0) (i + 1 = w.length) t.toList
    | (p, _) => [p]).flatten

/-! ## Arguments of the shell -/

/-- The pieces of the arguments of the shell. -/
def argumentPieces (s : State) (all quoted : Bool) : List Piece :=
  if quoted && all then piecesOf ((s.parameter? "*").getD "") true
  else
    let each := s.args.map (piecesOf · quoted)
    let joint : Piece := if quoted then .cut else .gap
    (each.intersperse [joint]).flatten

end Runbook.Shell
