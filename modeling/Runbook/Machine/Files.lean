/-
  The files of a machine.

  A path is the list of names from the root down. `Path.of` reads a path relative to a
  directory: `.` and empty names stand for nothing, `..` for the directory above.
  Looking a path up fails if a name on the way is missing or is no directory.
-/
import Runbook.Text.Bytes

namespace Runbook

/-- The names from the root down. -/
abbrev Path := List String

namespace Path

/-- Follows one name from a directory. -/
def step (p : Path) (name : String) : Path :=
  if name.isEmpty || name == "." then p
  else if name == ".." then p.dropLast
  else p ++ [name]

/-- The path that a text means in a directory. -/
def of (cwd : Path) (text : String) : Path :=
  let names := (Text.pieces '/' text.toList).map String.ofList
  names.foldl step (if text.toList.head? == some '/' then [] else cwd)

/-- The text of what a name means below a directory that is given as a text. -/
def join (dir name : String) : String :=
  if name.toList.head? = some '/' || dir.isEmpty then name
  else if dir.toList.getLast? = some '/' then dir ++ name
  else dir ++ "/" ++ name

/-- The parts of a path as a text: an empty one for the root, `.` only at the front. -/
def parts (text : String) : List String :=
  match (Text.pieces '/' text.toList).map String.ofList with
  | [] | [""] => []
  | first :: names => first :: names.filter fun n => !n.isEmpty && n != "."

/-- The absolute text of a path. -/
def text (p : Path) : String := if p.isEmpty then "/" else String.join (p.map ("/" ++ ·))

end Path

/-- What lies at a path. -/
inductive File where
  | directory
  | regular (content : Bytes) (executable : Bool)
  /-- A program of the system, known by name. -/
  | program (name : String)
  /-- Takes everything that is written and has nothing to read. -/
  | null
  deriving DecidableEq, Repr

/-- Why a file cannot be used. -/
inductive FileFault where
  | missing
  | denied
  | present
  | notDirectory
  | isDirectory
  | notEmpty
  | notProgram
  | tooLong
  /-- A descriptor that leads nowhere. -/
  | closed
  deriving DecidableEq, Repr

namespace FileFault

/-- What is wrong, without the number. -/
def reason : FileFault → String
  | missing => "No such file or directory"
  | denied => "Permission denied"
  | present => "File exists"
  | notDirectory => "Not a directory"
  | isDirectory => "Is a directory"
  | notEmpty => "Directory not empty"
  | notProgram => "Exec format error"
  | tooLong => "File name too long"
  | closed => "Bad file descriptor"

/-- The number of an error. -/
def number : FileFault → Nat
  | missing => 2
  | notProgram => 8
  | closed => 9
  | denied => 13
  | present => 17
  | notDirectory => 20
  | isDirectory => 21
  | tooLong => 36
  | notEmpty => 39

/-- The text of an error with its number. -/
def text (f : FileFault) : String := f.reason ++ " (os error " ++ toString f.number ++ ")"

end FileFault

/-- The files of a machine by their paths, each path once. The root is always there. -/
abbrev Files := List (Path × File)

namespace Files

/-- What lies at a path, given that every directory above it is there. -/
def at? (fs : Files) (p : Path) : Option File :=
  if p.isEmpty then some .directory else fs.lookup p

/-- The most bytes in a name. -/
def maxName : Nat := 255

/-- Follows the names of a path below a directory; each of their characters counts as one
    byte. -/
def walk (fs : Files) (above : Path) : List String → Except FileFault File
  | [] =>
    match fs.at? above with
    | some f => .ok f
    | none => .error .missing
  | name :: names =>
    match fs.at? above with
    | some .directory =>
      if name.length > maxName then .error .tooLong else walk fs (above ++ [name]) names
    | some _ => .error .notDirectory
    | none => .error .missing

/-- Looks a path up. -/
def find (fs : Files) (p : Path) : Except FileFault File := walk fs [] p

/-- A directory lies at a path. -/
def isDirectory (fs : Files) (p : Path) : Bool :=
  match fs.find p with
  | .ok .directory => true
  | _ => false

/-- Something lies at a path. -/
def has (fs : Files) (p : Path) : Bool := (fs.find p).isOk

/-- Puts a file at a path, whatever was there. -/
def set (fs : Files) (p : Path) (f : File) : Files :=
  if fs.any (·.1 == p) then fs.map fun e => if e.1 == p then (p, f) else e
  else fs ++ [(p, f)]

/-- Removes a path and everything below it. -/
def drop (fs : Files) (p : Path) : Files := fs.filter fun e => !(p.isPrefixOf e.1)

/-- The names in a directory, in their order. -/
def names (fs : Files) (p : Path) : List String :=
  let below := fs.filterMap fun e => if e.1.dropLast == p then e.1.getLast? else none
  below.mergeSort (· ≤ ·)

/-- Puts a file and the directories above it. -/
def plant (fs : Files) (p : Path) (f : File) : Files :=
  let fs := (List.range p.length).foldl (fun fs n =>
    let above := p.take n
    if above.isEmpty || (fs.at? above).isSome then fs else fs.set above .directory) fs
  fs.set p f

/-- The content of a file. -/
def read (fs : Files) (p : Path) : Except FileFault Bytes :=
  match fs.find p with
  | .ok (.regular content _) => .ok content
  | .ok .directory => .error .isDirectory
  | .ok _ => .ok []
  | .error e => .error e

/-- A file can be written at a path: it is there already, or its directory is. -/
def canWrite (fs : Files) (p : Path) : Except FileFault Unit :=
  match fs.find p with
  | .ok .directory => .error .isDirectory
  | .ok _ => .ok ()
  | .error .missing => if fs.isDirectory p.dropLast then .ok () else .error .missing
  | .error e => .error e

/-- Writes a file with the content that `change` makes of the one before. -/
def write (fs : Files) (p : Path) (change : Bytes → Bytes) : Except FileFault Files := do
  fs.canWrite p
  match fs.find p with
  | .ok (.regular content executable) => pure (fs.set p (.regular (change content) executable))
  | .ok _ => pure fs
  | .error _ => pure (fs.set p (.regular (change []) false))

/-- Follows names from a path; each name, `.` and `..` too, asks for a directory before it. -/
def follow (fs : Files) (p : Path) : List String → Except FileFault File
  | [] => fs.find p
  | name :: names =>
    match fs.find p with
    | .ok .directory =>
      if name.utf8ByteSize > maxName then .error .tooLong else follow fs (p.step name) names
    | .ok _ => .error .notDirectory
    | .error e => .error e

/-- Looks up what a text means in a directory; an empty text means nothing. -/
def findText (fs : Files) (cwd : Path) (text : String) : Except FileFault File :=
  if text.isEmpty then .error .missing
  else
    let names := (Text.pieces '/' text.toList).map String.ofList
    if text.toList.head? = some '/' then fs.follow [] (names.drop 1) else fs.follow cwd names

/-- Why no file can be made at the path that a text means in a directory, if none can. -/
def unmakable? (fs : Files) (cwd : Path) (text : String) : Option FileFault :=
  if text.isEmpty then some .missing
  else
    let above := match Text.cutLast '/' text.toList with
      | none => "."
      | some ([], _) => "/"
      | some (before, _) => String.ofList before
    match fs.findText cwd above with
    | .error e => some e
    | .ok .directory => if text.toList.getLast? == some '/' then some .isDirectory else none
    | .ok _ => some .notDirectory

/-- The same files under names in other letters. -/
def rename (fs : Files) (f : String → String) : Files := fs.map fun e => (e.1.map f, e.2)

/-- A file at a path can be run. -/
def canRun (fs : Files) (p : Path) : Except FileFault Unit :=
  match fs.find p with
  | .ok (.regular _ true) | .ok (.program _) => .ok ()
  | .ok _ => .error .denied
  | .error e => .error e

end Files

end Runbook
