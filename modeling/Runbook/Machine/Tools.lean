/-
  The programs of a system that shell commands use most.

  A tool reads its arguments, its standard input and the files of the machine; it gives
  output, error output, an exit status, and the files as it leaves them. All texts have one
  character for each byte; only tools that look at characters read them as text.
-/
import Runbook.Shell.Test
import Runbook.Text.Editing

namespace Runbook

/-- What a tool is started with. -/
structure ToolInput where
  args : List String
  stdin : Except FileFault Bytes := .ok []
  /-- What is read too much of standard input can be given back. -/
  seeks : Bool := false
  cwd : Path := []
  env : List (String × String) := []
  files : Files
  /-- The file that standard output goes to, and the place in it. -/
  outputPlace : Option (Path × Nat) := none

/-- What a tool leaves behind. -/
structure ToolResult where
  out : Bytes := []
  err : Bytes := []
  status : Nat := 0
  files : Files
  /-- What is left of standard input, if it was read. -/
  left : Option Bytes := none
  /-- Paths that were moved, from where to where. -/
  moves : List (Path × Path) := []

namespace Tool

/-- A text between quotes. -/
def quoted (s : String) : String := Bytes.units "‘" ++ s ++ Bytes.units "’"

/-- Ends with output. -/
def prints (i : ToolInput) (out : Bytes) : ToolResult := { out, files := i.files }

/-- Ends with text as output. -/
def answers (i : ToolInput) (text : String) : ToolResult := prints i (Bytes.ofUnits text)

/-- Ends with a complaint. -/
def fails (i : ToolInput) (status : Nat) (message : String) : ToolResult :=
  { err := Bytes.ofUnits (message ++ "\n"), status, files := i.files }

/-- The letters of the options before the operands, and the operands. -/
def options : List String → List Char × List String
  | [] => ([], [])
  | "--" :: args => ([], args)
  | a :: args =>
    match a.toList with
    | '-' :: c :: cs =>
      let (os, rest) := options args
      (c :: cs ++ os, rest)
    | _ =>
      let (os, rest) := options args
      (os, a :: rest)

/-- The lines of bytes, with the line feeds that end them. -/
def lines : Bytes → List Bytes
  | [] => []
  | b :: bs =>
    match lines bs with
    | [] => [[b]]
    | l :: ls => if b == 10 then [b] :: l :: ls else (b :: l) :: ls

/-- A line without its line feed. -/
def bare (l : Bytes) : Bytes := if l.getLast? == some 10 then l.dropLast else l

/-- What is read from operands. -/
structure Gathered where
  bytes : Bytes := []
  err : Bytes := []
  ok : Bool := true
  /-- Standard input is among them. -/
  usesInput : Bool := false

/-- An operand stands for standard input. -/
def isInput (i : ToolInput) (operand : String) : Bool :=
  operand == "-" ||
    [["dev", "stdin"], ["dev", "fd", "0"], ["proc", "self", "fd", "0"]].contains
      (Path.of i.cwd operand)

/-- Reads an operand. -/
def readOperand (i : ToolInput) (operand : String) : Except FileFault Bytes :=
  if isInput i operand then i.stdin
  else do
    match ← i.files.findText i.cwd operand with
    | .directory => throw .isDirectory
    | .regular content _ => pure content
    | _ => pure []

/-- Reads each operand in turn, or standard input without any. Those that cannot be read
    are complained about. -/
def readOperands (tool : String) (i : ToolInput) (operands : List String) : Gathered :=
  (if operands.isEmpty then ["-"] else operands).foldl (fun g o =>
    let g := { g with usesInput := g.usesInput || isInput i o }
    match readOperand i o with
    | .ok bytes => { g with bytes := g.bytes ++ bytes }
    | .error e =>
      { g with
        err := g.err ++ Bytes.ofUnits (tool ++ ": " ++ o ++ ": " ++ e.reason ++ "\n"), ok := false })
    {}

/-- What is left of standard input when all of it was read. -/
def Gathered.left (g : Gathered) : Option Bytes := if g.usesInput then some [] else none

/-- Ends with what becomes of the bytes read from operands. -/
def filtered (tool : String) (i : ToolInput) (operands : List String) (change : Bytes → Bytes) :
    ToolResult :=
  let g := readOperands tool i operands
  { out := change g.bytes, err := g.err, status := if g.ok then 0 else 1, files := i.files
    left := g.left }

/-- Bytes as text, if they are that, or else with one character for each byte; and how the
    same characters are written. -/
def readable (b : Bytes) : String × (String → Bytes) :=
  match Bytes.decode? b with
  | some s => (s, Bytes.encode)
  | none => (Bytes.toUnits b, Bytes.ofUnits)

/-- A text with one character for each byte, read the same way as others. -/
def alike (text : Bool) (s : String) : String := if text then Bytes.fromUnits s else s

/-- Applies a change to each operand in turn; one that fails is complained about. -/
def eachOperand (i : ToolInput) (operands : List String)
    (change : Files → Path → Except FileFault Files) (complain : String → FileFault → String) :
    ToolResult :=
  operands.foldl (fun r o =>
    match change r.files (Path.of i.cwd o) with
    | .ok files => { r with files }
    | .error e =>
      { r with err := r.err ++ Bytes.ofUnits (complain o e ++ "\n"), status := 1 })
    { files := i.files }

/-- Prints the arguments. -/
def echo (i : ToolInput) : ToolResult :=
  let (newline, escapes, args) := match i.args with
    | "-n" :: as => (false, false, as)
    | "-e" :: as => (true, true, as)
    | "-ne" :: as | "-en" :: as => (false, true, as)
    | "-E" :: as => (true, false, as)
    | as => (true, false, as)
  let text := Text.joinWith " " args
  let bytes := if escapes then (Shell.unescape true (text.length + 1) text.toList).1
    else Bytes.ofUnits text
  prints i (if newline then bytes ++ [10] else bytes)

/-- Prints a format. -/
def printf (i : ToolInput) : ToolResult :=
  match i.args with
  | [] => fails i 1 "printf: missing operand"
  | format :: args =>
    let f := Shell.printfBytes format args
    let reason : Shell.NumberFault → String
      | .notNumeric => "expected a numeric value"
      | .trailing => "value not completely converted"
      | .outOfRange => "Numerical result out of range"
    let bad := f.bad.map fun b => "printf: " ++ quoted b.1 ++ ": " ++ reason b.2 ++ "\n"
    let fault := f.fault.toList.map fun m => "printf: " ++ m ++ "\n"
    { out := f.bytes, status := if f.bad.isEmpty && f.fault.isNone then 0 else 1
      err := Bytes.ofUnits (String.join (bad ++ fault)), files := i.files }

/-- Prints files. -/
def cat (i : ToolInput) : ToolResult :=
  let (os, operands) := options i.args
  match os.find? (!"uAenstvETb".contains ·) with
  | some c => fails i 1 ("cat: invalid option -- '" ++ c.toString ++ "'\n" ++
      "Try 'cat --help' for more information.")
  | none =>
    -- Nothing is read from the file that is being written, if it would never end.
    let own (o : String) : Bool := i.outputPlace.any fun (p, place) =>
      0 < place && Path.of i.cwd o == p && !isInput i o
    let r := filtered "cat" i (operands.filter (!own ·)) id
    let r := if operands.isEmpty || !operands.all own then r else { files := i.files }
    match operands.filter own with
    | [] => r
    | owns =>
      let complaints := owns.map fun o => "cat: " ++ o ++ ": input file is output file\n"
      { r with err := r.err ++ Bytes.ofUnits (String.join complaints), status := 1 }

/-- Lists directories, one name a line. -/
def ls (i : ToolInput) : ToolResult :=
  let (os, operands) := options i.args
  let shown (name : String) : Bool :=
    os.contains 'a' || os.contains 'A' || name.toList.head? ≠ some '.'
  let listing (p : Path) : String :=
    let dots := if os.contains 'a' then [".", ".."] else []
    String.join ((dots ++ (i.files.names p).filter shown).map (· ++ "\n"))
  let operands := if operands.isEmpty then ["."] else operands.mergeSort (· ≤ ·)
  let found := operands.map fun o => (o, i.files.find (Path.of i.cwd o))
  let err := String.join (found.map fun
    | (o, .error e) => "ls: cannot access '" ++ o ++ "': " ++ e.reason ++ "\n"
    | _ => "")
  let plain := found.filterMap fun
    | (o, .ok f) => if f == .directory && !os.contains 'd' then none else some (o ++ "\n")
    | _ => none
  let directories := found.filterMap fun
    | (o, .ok .directory) => if os.contains 'd' then none else some o
    | _ => none
  let blocks := directories.map fun o =>
    (if operands.length > 1 then o ++ ":\n" else "") ++ listing (Path.of i.cwd o)
  let out := Text.joinWith "\n" ((if plain.isEmpty then [] else [String.join plain]) ++ blocks)
  { out := Bytes.ofUnits out, err := Bytes.ofUnits err
    status := if found.any (!·.2.isOk) then 2 else 0, files := i.files }

/-- Makes files that are missing. -/
def touch (i : ToolInput) : ToolResult :=
  eachOperand i (options i.args).2
    (fun fs p => if fs.isDirectory p then .ok fs else fs.write p id)
    fun o e => "touch: cannot touch '" ++ o ++ "': " ++ e.reason

/-- Makes directories. -/
def mkdir (i : ToolInput) : ToolResult :=
  let (os, operands) := options i.args
  eachOperand i operands
    (fun fs p =>
      if os.contains 'p' then
        if fs.isDirectory p then .ok fs else .ok (fs.plant p .directory)
      else if fs.has p then .error .present
      else if fs.isDirectory p.dropLast then .ok (fs.set p .directory)
      else .error .missing)
    fun o e => "mkdir: cannot create directory " ++ quoted o ++ ": " ++ e.reason

/-- Removes files. -/
def rm (i : ToolInput) : ToolResult :=
  let (os, operands) := options i.args
  let recursive := os.contains 'r' || os.contains 'R'
  eachOperand i operands
    (fun fs p =>
      match fs.find p with
      | .error e => if os.contains 'f' then .ok fs else .error e
      | .ok .directory => if recursive then .ok (fs.drop p) else .error .isDirectory
      | .ok _ => .ok (fs.drop p))
    fun o e => "rm: cannot remove '" ++ o ++ "': " ++ e.reason

/-- Removes empty directories. -/
def rmdir (i : ToolInput) : ToolResult :=
  eachOperand i (options i.args).2
    (fun fs p =>
      match fs.find p with
      | .error e => .error e
      | .ok .directory => if (fs.names p).isEmpty then .ok (fs.drop p) else .error .notEmpty
      | .ok _ => .error .notDirectory)
    fun o e => "rmdir: failed to remove '" ++ o ++ "': " ++ e.reason

/-- The path at which an operand lands in a target: inside it, if it is a directory. -/
def landing (i : ToolInput) (operand target : String) : Path :=
  let p := Path.of i.cwd target
  if i.files.isDirectory p then p ++ ((Path.of i.cwd operand).getLast?).toList else p

/-- Copies or moves files. -/
def transfer (tool : String) (move : Bool) (i : ToolInput) : ToolResult :=
  let (os, operands) := options i.args
  match operands.getLast? with
  | none => fails i 1 (tool ++ ": missing file operand")
  | some target =>
    let deep := move || os.contains 'r' || os.contains 'R' || os.contains 'a'
    operands.dropLast.foldl (fun r o =>
      let source := Path.of i.cwd o
      let goal := landing { i with files := r.files } o target
      match r.files.find source with
      | .error e =>
        { r with
          err := r.err ++ Bytes.ofUnits
            (tool ++ ": cannot stat '" ++ o ++ "': " ++ e.reason ++ "\n"), status := 1 }
      | .ok f =>
        if f == .directory && !deep then
          { r with
            err := r.err ++ Bytes.ofUnits
              (tool ++ ": -r not specified; omitting directory '" ++ o ++ "'\n"), status := 1 }
        else if !r.files.isDirectory goal.dropLast then
          { r with
            err := r.err ++ Bytes.ofUnits (tool ++ ": cannot create regular file '" ++ target ++
              "': No such file or directory\n"), status := 1 }
        else
          let moved := r.files.filterMap fun e =>
            if source.isPrefixOf e.1 then some (goal ++ e.1.drop source.length, e.2) else none
          let files := if move then r.files.drop source else r.files
          { r with
            files := moved.foldl (fun fs e => fs.set e.1 e.2) files
            moves := if move then r.moves ++ [(source, goal)] else r.moves })
      { files := i.files }

/-- How much of its input a tool is asked for. -/
structure Amount where
  count : Nat := 10
  /-- The count is one of bytes, not of lines. -/
  ofBytes : Bool := false
  /-- The count is a place, from which on all is asked for. -/
  isPlace : Bool := false

/-- The amount that options ask for, ten lines without any, and the operands. -/
def amount : List String → Amount × List String
  | [] => ({}, [])
  | a :: args =>
    let read (ofBytes : Bool) (s : List Char) : Amount :=
      let isPlace := s.head? == some '+'
      let ds := s.filter Char.isDigit
      ⟨(String.ofList ds).toNat?.getD 10, ofBytes, isPlace⟩
    match a.toList, args with
    | ['-', 'n'], n :: args => (read false n.toList, args)
    | ['-', 'c'], n :: args => (read true n.toList, args)
    | '-' :: 'n' :: ds, args => (read false ds, args)
    | '-' :: 'c' :: ds, args => (read true ds, args)
    | '-' :: d :: ds, args => if d.isDigit then (read false (d :: ds), args) else ({}, a :: args)
    | _, args => ({}, a :: args)

/-- Prints the first lines or bytes, and gives the rest of standard input back if it can. -/
def head (i : ToolInput) : ToolResult :=
  let (asked, operands) := amount i.args
  let first (b : Bytes) : Bytes :=
    if asked.ofBytes then b.take asked.count else ((lines b).take asked.count).flatten
  let r := filtered "head" i operands first
  if i.seeks && r.left.isSome then
    let all := i.stdin.toOption.getD []
    { r with left := some (all.drop (first all).length) }
  else r

/-- Prints the last lines or bytes. -/
def tail (i : ToolInput) : ToolResult :=
  let (asked, operands) := amount i.args
  let rest {α : Type} (xs : List α) : List α :=
    xs.drop (if asked.isPlace then asked.count - 1 else xs.length - asked.count)
  filtered "tail" i operands fun b => if asked.ofBytes then rest b else (rest (lines b)).flatten

/-- The number of words in bytes. -/
def words (b : Bytes) : Nat :=
  let blank (x : UInt8) : Bool := x == 32 || (9 ≤ x && x ≤ 13)
  (b.foldl (fun (n, inside) x =>
    if blank x then (n, false) else (if inside then n else n + 1, true)) (0, false)).1

/-- Counts lines, words and bytes. -/
def wc (i : ToolInput) : ToolResult :=
  let (os, operands) := options i.args
  let g := readOperands "wc" i operands
  let bytes := g.bytes
  let counts := [('l', bytes.count 10), ('w', words bytes), ('c', bytes.length)]
  let asked := if os.isEmpty then counts else counts.filter (os.contains ·.1)
  let wide (n : Nat) : String :=
    let s := toString n
    if os.length == 1 then s else "".pushn ' ' (7 - s.length) ++ s
  let name := match operands with
    | [o] => " " ++ o
    | _ => ""
  { out := Bytes.ofUnits (Text.joinWith " " (asked.map (wide ·.2)) ++ name ++ "\n")
    err := g.err, status := if g.ok then 0 else 1, files := i.files, left := g.left }

/-- Bytes in order, by their values. -/
def bytesLe : Bytes → Bytes → Bool
  | [], _ => true
  | _ :: _, [] => false
  | a :: as, b :: bs => a < b || (a == b && bytesLe as bs)

/-- Lines without those that repeat the one before. -/
def squeeze : List Bytes → List Bytes
  | a :: b :: ls => if a == b then squeeze (b :: ls) else a :: squeeze (b :: ls)
  | ls => ls

/-- Sorts lines. -/
def sort (i : ToolInput) : ToolResult :=
  let (os, operands) := options i.args
  filtered "sort" i operands fun b =>
    let key (l : Bytes) : Int :=
      match (Bytes.toUnits l).toList.dropWhile Shell.isSpace with
      | '-' :: r => -(Number.ofDigits (r.takeWhile Char.isDigit) : Int)
      | r => Number.ofDigits (r.takeWhile Char.isDigit)
    let ls := ((lines b).map bare).mergeSort fun a b =>
      if os.contains 'n' && key a != key b then key a ≤ key b else bytesLe a b
    let ls := if os.contains 'r' then ls.reverse else ls
    ((if os.contains 'u' then squeeze ls else ls).map (· ++ [10])).flatten

/-- Drops repeated lines, and says how often each stood there if asked to. -/
def uniq (i : ToolInput) : ToolResult :=
  let (os, operands) := options i.args
  filtered "uniq" i operands fun b =>
    let runs := ((lines b).map bare).splitBy (· == ·)
    let count (n : Nat) : Bytes :=
      let s := toString n
      if os.contains 'c' then Bytes.ofUnits ("".pushn ' ' (7 - s.length) ++ s ++ " ") else []
    runs.flatMap fun run =>
      if os.contains 'd' && run.length = 1 || os.contains 'u' && run.length > 1 then []
      else count run.length ++ run.headD [] ++ [10]

/-- The characters that a set stands for; a hyphen between two makes a range. -/
def charSet : List Char → List Char
  | '[' :: ':' :: 'l' :: 'o' :: 'w' :: 'e' :: 'r' :: ':' :: ']' :: r =>
    "abcdefghijklmnopqrstuvwxyz".toList ++ charSet r
  | '[' :: ':' :: 'u' :: 'p' :: 'p' :: 'e' :: 'r' :: ':' :: ']' :: r =>
    "ABCDEFGHIJKLMNOPQRSTUVWXYZ".toList ++ charSet r
  | a :: '-' :: b :: r =>
    ((List.range (b.toNat + 1 - a.toNat)).map fun n => Char.ofNat (a.toNat + n)) ++ charSet r
  | '\\' :: 'n' :: r => '\n' :: charSet r
  | '\\' :: 't' :: r => '\t' :: charSet r
  | '\\' :: '0' :: '0' :: '0' :: r => '\x00' :: charSet r
  | '\\' :: c :: r => c :: charSet r
  | c :: r => c :: charSet r
  | [] => []

/-- Replaces or deletes characters. -/
def tr (i : ToolInput) : ToolResult :=
  let (os, operands) := options i.args
  match operands.map fun o => charSet o.toList with
  | [] => fails i 1 "tr: missing operand"
  | from_ :: more =>
    let target := more.headD []
    let change (b : UInt8) : Bytes :=
      match from_.findIdx? (·.toNat == b.toNat) with
      | none => [b]
      | some n =>
        if os.contains 'd' then []
        else match target[n]?.or target.getLast? with
        | some c => [UInt8.ofNat c.toNat]
        | none => [b]
    let g := readOperands "tr" i []
    { out := g.bytes.flatMap change, err := g.err, status := if g.ok then 0 else 1
      files := i.files, left := g.left }

/-- The expression that only one text matches. -/
def literal (s : List Char) : Text.Regex :=
  s.foldr (fun c r => .andThen (.char c) r) .empty

/-- Keeps the lines that match a pattern. -/
def grep (i : ToolInput) : ToolResult :=
  let (os, operands) := options i.args
  match operands with
  | [] => fails i 2 "Usage: grep [OPTION]... PATTERNS [FILE]..."
  | pattern :: operands =>
    let g := readOperands "grep" i operands
    let pattern := (alike (Bytes.decode? g.bytes).isSome pattern).toList
    let pattern := if os.contains 'F' then some (literal pattern)
      else Text.Posix.read? (os.contains 'E') pattern
    match pattern with
    | none => fails i 2 "grep: Invalid regular expression"
    | some r =>
      let r := if os.contains 'i' then r.anyCase else r
      let within (a b : Text.Anchor) : Text.Regex := .andThen (.anchor a) (r.andThen (.anchor b))
      let r := if os.contains 'x' then within .start .finish
        else if os.contains 'w' then within (.word .halfStart false) (.word .halfFinish false)
        else r
      let holds (l : Bytes) : Bool := r.occursIn (readable (bare l)).1 != os.contains 'v'
      let found := (lines g.bytes).zipIdx.filter fun l => holds l.1
      let label (n : Nat) : Bytes :=
        if os.contains 'n' then Bytes.ofUnits (toString (n + 1) ++ ":") else []
      let out := if os.contains 'q' then []
        else if os.contains 'c' then Bytes.ofUnits (toString found.length ++ "\n")
        else found.flatMap fun (l, n) => label n ++ bare l ++ [10]
      { out, err := g.err, files := i.files, left := g.left
        status := if !g.ok then 2 else if found.isEmpty then 1 else 0 }

/-- The places that a list of places and ranges names. -/
def placed (spec : String) (place : Nat) : Bool :=
  (Text.pieces ',' spec.toList).any fun part =>
    match (Text.pieces '-' part).map fun d => (String.ofList d).toNat? with
    | [some n] => place = n
    | [some a, some b] => a ≤ place && place ≤ b
    | [some a, none] => a ≤ place
    | [none, some b] => place ≤ b
    | _ => false

/-- The value of an option that stands behind its letter or in the next argument. -/
def optionValue? (letter : Char) : List String → Option String
  | [] => none
  | a :: args =>
    match a.toList with
    | ['-', c] => if c == letter then args.head? else optionValue? letter args
    | '-' :: c :: r => if c == letter then some (String.ofList r) else optionValue? letter args
    | _ => optionValue? letter args

/-- The arguments that are neither options nor the values of the options with these letters;
    `taken` if the first one is such a value. -/
def operandsAfter (letters : List Char) : Bool → List String → List String
  | _, [] => []
  | true, _ :: args => operandsAfter letters false args
  | false, a :: args =>
    match a.toList with
    | ['-', c] => operandsAfter letters (letters.contains c) args
    | '-' :: _ :: _ => operandsAfter letters false args
    | _ => a :: operandsAfter letters false args

/-- Keeps the fields or characters of lines that are asked for. -/
def cut (i : ToolInput) : ToolResult :=
  let operands := operandsAfter ['d', 'f', 'c', 'b'] false i.args
  let change (l : List Char) : List Char :=
    match optionValue? 'f' i.args, (optionValue? 'c' i.args).or (optionValue? 'b' i.args) with
    | some spec, _ =>
      let sep := ((optionValue? 'd' i.args).bind (·.toList.head?)).getD '\t'
      let fields := Text.pieces sep l
      if fields.length = 1 then l
      else [sep].intercalate ((fields.zipIdx.filter fun f => placed spec (f.2 + 1)).map (·.1))
    | none, some spec => (l.zipIdx.filter fun c => placed spec (c.2 + 1)).map (·.1)
    | none, none => l
  if (optionValue? 'f' i.args).isNone && (optionValue? 'c' i.args).isNone
      && (optionValue? 'b' i.args).isNone then
    fails i 1 "cut: you must specify a list of bytes, characters, or fields"
  else filtered "cut" i operands fun b =>
    (lines b).flatMap fun l =>
      Bytes.ofUnits (String.ofList (change (Bytes.toUnits (bare l)).toList)) ++ [10]

/-- Prints variables of the environment. -/
def printenv (i : ToolInput) : ToolResult :=
  match i.args with
  | [] => answers i (String.join (i.env.map fun v => v.1 ++ "=" ++ v.2 ++ "\n"))
  | names =>
    let found := names.filterMap fun n => i.env.lookup n
    { out := Bytes.ofUnits (String.join (found.map (· ++ "\n")))
      status := if found.length = names.length then 0 else 1, files := i.files }

/-- Prints lines in the opposite order. -/
def tac (i : ToolInput) : ToolResult :=
  filtered "tac" i (options i.args).2 fun b => (lines b).reverse.flatten

/-- Prints the characters of lines in the opposite order. -/
def rev (i : ToolInput) : ToolResult :=
  filtered "rev" i (options i.args).2 fun b =>
    (lines b).flatMap fun l =>
      let (s, write) := readable (bare l)
      write (String.ofList s.toList.reverse) ++ if l.getLast? == some 10 then [10] else []

/-- Prints the numbers from one to another. -/
def seq (i : ToolInput) : ToolResult :=
  match i.args.mapM String.toInt? with
  | some [b] => answers i (String.join ((List.range b.toNat).map fun n => toString (n + 1) ++ "\n"))
  | some [a, b] =>
    answers i (String.join ((List.range (b - a + 1).toNat).map fun n =>
      toString (a + Int.ofNat n) ++ "\n"))
  | some [a, step, b] =>
    if step = 0 then fails i 1 "seq: invalid Zero increment value: '0'"
    else answers i (String.join ((List.range ((b - a) / step + 1).toNat).map fun n =>
      toString (a + step * Int.ofNat n) ++ "\n"))
  | _ => fails i 1 "seq: invalid argument"

/-- Writes standard input to files and to standard output. -/
def tee (i : ToolInput) : ToolResult :=
  let (os, operands) := options i.args
  let g := readOperands "tee" i []
  let r := eachOperand i operands
    (fun fs p => fs.write p fun old => if os.contains 'a' then old ++ g.bytes else g.bytes)
    fun o e => "tee: " ++ o ++ ": " ++ e.reason
  { r with out := g.bytes, left := g.left }

/-- The last name of a path. -/
def basename (i : ToolInput) : ToolResult :=
  match i.args with
  | [] => fails i 1 "basename: missing operand"
  | p :: rest =>
    let name := ((Path.of [] p).getLast?).getD "/"
    let ending := rest.headD ""
    let cut := if ending.isEmpty || ending == name || !name.endsWith ending then name
      else String.ofList (name.toList.take (name.length - ending.length))
    answers i (cut ++ "\n")

/-- A path without its last name. -/
def dirname (i : ToolInput) : ToolResult :=
  match i.args with
  | [] => fails i 1 "dirname: missing operand"
  | p :: _ =>
    match Text.cutLast '/' (Text.dropTrailing '/' p).toList with
    | none => answers i ".\n"
    | some (before, _) =>
      let d := Text.dropTrailing '/' (String.ofList before)
      answers i ((if d.isEmpty then "/" else d) ++ "\n")

/-- Makes files executable, or not. -/
def chmod (i : ToolInput) : ToolResult :=
  match i.args with
  | mode :: operands =>
    let executable : Option Bool :=
      if mode.endsWith "+x" then some true
      else if mode.endsWith "-x" then some false
      else (mode.toList.getLast?).map fun c => ['1', '3', '5', '7'].contains c
    eachOperand i operands
      (fun fs p => match fs.find p with
        | .ok (.regular content x) => .ok (fs.set p (.regular content (executable.getD x)))
        | .ok _ => .ok fs
        | .error e => .error e)
      fun o e => "chmod: cannot access '" ++ o ++ "': " ++ e.reason
  | [] => fails i 1 "chmod: missing operand"

/-- What lines are edited by and where they stand. -/
structure Editing where
  scripts : List String := []
  options : List Char := []
  operands : List String := []

/-- Reads the arguments of line editing. The first operand is the script, if no option
    gives one. -/
def editing (args : List String) : Editing :=
  let rec split : List String → Editing
    | "-e" :: s :: args =>
      let e := split args
      { e with scripts := s :: e.scripts }
    | a :: args =>
      let e := split args
      match a.toList with
      | '-' :: c :: cs => { e with options := c :: cs ++ e.options }
      | _ => { e with operands := a :: e.operands }
    | [] => {}
  let e := split args
  if e.scripts.isEmpty then
    { e with scripts := e.operands.take 1, operands := e.operands.drop 1 }
  else e

/-- Edits lines by a script, in the files themselves if asked to. -/
def sed (i : ToolInput) : ToolResult :=
  let ⟨scripts, os, operands⟩ := editing i.args
  let g := readOperands "sed" i operands
  let isText := (Bytes.decode? g.bytes).isSome
  let script := (alike isText (Text.joinWith "\n" scripts)).toList
  if scripts.isEmpty then
    fails i 1 "Usage: sed [OPTION]... \x7bscript-only-if-no-other-script\x7d [input-file]..."
  else
  let full := os.contains 'E' || os.contains 'r'
  match Text.Editing.script? full (script.length + 1) script with
  | none => fails i 1 "sed: -e expression #1, char 1: unknown command"
  | some steps =>
    let edited (b : Bytes) : List (List Char) × Nat :=
      Text.Editing.run (os.contains 'n') steps 1
        ((lines b).map fun l => (readable (bare l)).1.toList)
    let change (b : Bytes) : Bytes :=
      let write := (readable b).2
      let made := (edited b).1.flatMap fun l => write (String.ofList l) ++ [10]
      if b.isEmpty || b.getLast? = some 10 then made else made.dropLast
    if os.contains 'i' then
      eachOperand i operands (fun fs p => (fs.read p).bind fun _ => fs.write p change)
        fun o e => "sed: can't read " ++ o ++ ": " ++ e.reason
    else
      let bad := operands.filterMap fun o =>
        match readOperand i o with
        | .ok _ => none
        | .error e => some ("sed: can't read " ++ o ++ ": " ++ e.reason ++ "\n")
      { out := change g.bytes, err := Bytes.ofUnits (String.join bad)
        status := if g.ok then 0 else 2, files := i.files
        left := g.left.map fun _ =>
          let unread := (edited g.bytes).2
          if i.seeks then ((lines g.bytes).drop ((lines g.bytes).length - unread)).flatten
          else [] }

/-- Answers a condition. -/
def test (i : ToolInput) (args : List String) : ToolResult :=
  match Shell.testHolds ⟨i.files, i.cwd⟩ args with
  | .ok r => { status := if r then 0 else 1, files := i.files }
  | .error e => fails i 2 ("test: " ++ e)

/-- The tools by their names. -/
def table : List (String × (ToolInput → ToolResult)) :=
  [("true", fun i => prints i []), ("false", fun i => { status := 1, files := i.files }),
    ("echo", echo), ("printf", printf), ("cat", cat), ("ls", ls), ("touch", touch),
    ("mkdir", mkdir), ("rm", rm), ("rmdir", rmdir), ("cp", transfer "cp" false),
    ("mv", transfer "mv" true), ("head", head), ("tail", tail), ("wc", wc), ("sort", sort),
    ("uniq", uniq), ("tr", tr), ("grep", grep), ("cut", cut), ("printenv", printenv),
    ("tac", tac), ("rev", rev), ("seq", seq), ("tee", tee),
    ("whoami", fun i => answers i "root\n"), ("uname", fun i => answers i "Linux\n"),
    ("basename", basename), ("dirname", dirname), ("chmod", chmod), ("sed", sed),
    ("sleep", fun i => prints i []), ("sync", fun i => prints i []),
    ("pwd", fun i => answers i (i.cwd.text ++ "\n")), ("test", fun i => test i i.args),
    ("[", fun i => test i i.args.dropLast)]

end Tool

end Runbook
