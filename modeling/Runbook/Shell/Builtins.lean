/-
  Commands that the shell runs itself and that run no other commands.
-/
import Runbook.Shell.Expand
import Runbook.Shell.Fields
import Runbook.Shell.Test

namespace Runbook.Shell

/-- A command that the shell runs itself: from its arguments to its status. -/
abbrev Builtin := List String → Eval Nat

/-! ## Variables -/

/-- A variable's name and value in an argument. -/
def nameAndValue (s : String) : String × Option String :=
  let name := s.toList.takeWhile (· ≠ '=')
  match s.toList.dropWhile (· ≠ '=') with
  | _ :: value => (String.ofList name, some (String.ofList value))
  | [] => (String.ofList name, none)

/-- Fails if a text names no variable. -/
def requireName (name : String) : Eval Unit := do
  if !isName name.toList then abort (name ++ ": bad variable name")

/-- A text in apostrophes; those in the text stand between quotes. -/
def inApostrophes (s : String) : String := String.ofList (quoted (s.length + 1) s.toList)
where
  quoted : Nat → List Char → List Char
    | 0, _ => []
    | fuel + 1, s =>
      let plain := s.takeWhile (· ≠ '\'')
      let marks := (s.drop plain.length).takeWhile (· == '\'')
      let rest := s.drop (plain.length + marks.length)
      '\'' :: plain ++ '\'' :: (if marks.isEmpty then [] else '"' :: marks ++ ['"']) ++
        if rest.isEmpty then [] else quoted fuel rest

/-- Lists variables by their names. -/
def listVariables (before : String) (p : Variable → Bool) : Eval Nat := do
  for v in ((← get).vars.filter p).mergeSort (fun v w => v.name ≤ w.name) do
    print (before ++ v.name ++ ((v.value.map fun x => "=" ++ inApostrophes x).getD "") ++ "\n")
  pure 0

/-- Marks variables and gives them values, or lists those that are marked. -/
def markOrList (command : String) (f : Variable → Variable) (p : Variable → Bool) : Builtin :=
  fun args => do
    let (options, names) ← takeOptions "p" args
    if names.isEmpty || !options.isEmpty then listVariables (command ++ " ") p
    else do
      for a in names do
        let (name, value) := nameAndValue a
        requireName name
        if let some v := value then assign name v
        modify (·.change name f)
      pure 0

/-- Makes variables local to the function that is running; a hyphen stands for the
    options. -/
def makeLocal : Builtin := fun args => do
  if (← get).frames.isEmpty then abort "not in a function"
  for a in args do
    if a == "-" then save (.settings (← get).settings)
    else do
      let (name, value) := nameAndValue a
      requireName name
      save (.variable name ((← get).lookup name))
      match value with
      | some v => assign name v
      | none => modify (·.change name id)
  pure 0

/-- Forgets variables or functions. -/
def forget : Builtin := fun args => do
  let (options, names) ← takeOptions "vf" args
  for x in names do
    if (options.getLast?.any (·.1 == 'f')) then
      modify fun s => { s with functions := s.functions.filter (·.1 ≠ x) }
    else do
      requireName x
      if ((← get).lookup x).any (·.readonly) then abort (x ++ ": is read only")
      modify fun s => { s with vars := s.vars.filter (·.name ≠ x) }
  pure 0

/-- Drops arguments from the front. -/
def shiftArguments : Builtin := fun args => do
  let n ← match args with
    | [] => pure 1
    | a :: _ => wholeNumber a
  if (← get).args.length < n then abort "can't shift that many"
  modify fun s => s.withArgs (s.args.drop n)
  pure 0

/-- Takes the next option off the arguments: its letter goes into a variable, its value into
    `OPTARG`, and the place of the next argument into `OPTIND`. -/
def nextOption : Builtin := fun args => do
  match args with
  | spec :: name :: given =>
    let s ← get
    let given := if given.isEmpty then s.args else given
    let (index, offset) := if s.optionIndex > given.length + 1 then (1, none)
      else (s.optionIndex, s.optionOffset)
    let word (n : Nat) : List Char := ((given[n - 1]?).getD "").toList
    let begun := (offset.map fun n => (word (index - 1)).drop n).getD []
    -- Ends with a letter, the next argument, and how much of the one before it is taken.
    let answer (c : Char) (index : Nat) (offset : Option Nat) (status : Nat) : Eval Nat := do
      assign "OPTIND" (toString index)
      assign name c.toString
      modify ({ · with optionIndex := index, optionOffset := offset })
      pure status
    let take (cs : List Char) (index : Nat) : Eval Nat := do
      match cs with
      | [] => answer '?' index none 1
      | c :: rest =>
        let length := (word (index - 1)).length
        let left := if rest.isEmpty then none else some (length - rest.length)
        let quiet := spec.toList.head? == some ':'
        match spec.toList.dropWhile fun d => d ≠ c || d == ':' with
        | [] => do
          if quiet then assign "OPTARG" c.toString
          else do
            printError ("Illegal option -" ++ c.toString ++ "\n")
            modify fun s => { s with vars := s.vars.filter (·.name ≠ "OPTARG") }
          answer '?' index left 0
        | _ :: ':' :: _ =>
          match rest, given[index - 1]? with
          | [], none => do
            if quiet then assign "OPTARG" c.toString
            else do
              printError ("No arg for -" ++ c.toString ++ " option\n")
              modify fun s => { s with vars := s.vars.filter (·.name ≠ "OPTARG") }
            answer (if quiet then ':' else '?') index none 0
          | [], some value => do
            assign "OPTARG" value
            answer c (index + 1) none 0
          | rest, _ => do
            assign "OPTARG" (String.ofList rest)
            answer c index none 0
        | _ => do
          assign "OPTARG" ""
          answer c index left 0
    if !begun.isEmpty then take begun index
    else match word index with
    | ['-', '-'] => answer '?' (index + 1) none 1
    | '-' :: c :: cs => take (c :: cs) (index + 1)
    | _ => answer '?' index none 1
  | _ => abort "Usage: getopts optstring var [arg...]"

/-! ## The working directory and the mask -/

/-- Shows or sets the permissions that new files do not get. -/
def setMask : Builtin := fun args => do
  let (options, operands) ← takeOptions "S" args
  let mask := (← get).mask
  match operands with
  | [] => do
    print ((if options.isEmpty then Mask.octal mask else Mask.symbolic mask) ++ "\n")
    pure 0
  | a :: _ =>
    match Mask.read? mask a with
    | some mask => do
      modify ({ · with mask })
      pure 0
    | none =>
      abort ((if a.toList.head?.any Char.isDigit then "Illegal number: " else "Illegal mode: ")
        ++ a)

/-- The directory that a name stands for below one of those in `CDPATH`, and whether that is
    another one than the working directory. Names that start at the root, or with a dot
    or two, stand for themselves. -/
def searched? (s : State) (name : String) : Option (String × Bool) :=
  let first := (name.toList.takeWhile (· ≠ '/'))
  if first.isEmpty || first == ['.'] || first == ['.', '.'] then none
  else (s.value? "CDPATH").bind fun dirs =>
    (Text.pieces ':' dirs.toList).findSome? fun d =>
      let path := if d.isEmpty then name else String.ofList d ++ "/" ++ name
      if s.files.isDirectory (Path.of s.cwd path) then some (path, !d.isEmpty) else none

/-- Changes the working directory. -/
def changeDirectory : Builtin := fun args => do
  let (_, operands) ← takeOptions "LP" args
  let s ← get
  let back := operands.head? == some "-"
  let name := if back then (s.value? "OLDPWD").getD ""
    else (operands.head?.or (s.value? "HOME")).getD ""
  let (path, elsewhere) := (searched? s name).getD (name, false)
  let p := Path.of s.cwd path
  if !s.files.isDirectory p then abort ("can't cd to " ++ name)
  for (x, value) in [("OLDPWD", s.cwd.text), ("PWD", p.text)] do
    assign x value
    modify (·.change x ({ · with exported := true }))
  modify ({ · with cwd := p })
  if back || elsewhere then print (p.text ++ "\n")
  pure 0

/-- Prints the working directory. -/
def printDirectory : Builtin := fun args => do
  let _ ← takeOptions "LP" args
  print ((← get).cwd.text ++ "\n")
  pure 0

/-! ## Text -/

/-- Prints a format. -/
def printFormat : Builtin := fun args => do
  let (_, operands) ← takeOptions "" args
  match operands with
  | [] => abort "usage: printf format [arg ...]"
  | format :: args =>
    let f := printfBytes format args
    for (text, fault) in f.bad do complain (text ++ ": " ++ fault.message)
    print (Bytes.toUnits f.bytes)
    match f.fault with
    | some message => abort message
    | none => pure (if f.bad.isEmpty then 0 else 1)

/-- Reads a line into variables. -/
def readLine : Builtin := fun args => do
  let (options, names) ← takeOptions "p:r" args
  let raw := options.any (·.1 == 'r')
  if names.isEmpty then abort "arg count"
  let s ← get
  let bytes := s.input
  let (line, ended) := lineOf raw bytes
  modify (·.leaveInput (bytes.drop (line.length + 1)))
  let glyphs := readGlyphs raw (Bytes.toUnits (line.filter (· ≠ 0))).toList
  for (x, v) in fieldsFor s.separators names glyphs do
    requireName x
    assign x v
  pure (if ended then 0 else 1)

/-- Answers a condition. -/
def condition : Builtin := fun args => do
  let s ← get
  match testHolds ⟨s.files, s.cwd⟩ args with
  | .ok r => pure (if r then 0 else 1)
  | .error e => abort e

/-- Answers a condition that a bracket closes. -/
def bracketed : Builtin := fun args =>
  if args.getLast?.any (·.startsWith "]") then condition args.dropLast else abort "missing ]"

/-! ## Options -/

/-- Switches the options of the letters of one argument; answers whether a letter
    announces a command, which only the arguments of a shell can do (`calling`), and the
    arguments that are left. -/
def switchLetters (calling on : Bool) : List Char → List String → Eval (Bool × List String)
  | [], args => pure (false, args)
  | c :: cs, args => do
    if calling && (c == 'c' || c == 'l') then
      let (_, args) ← switchLetters calling on cs args
      pure (c == 'c', args)
    else if c == 'o' then
      match args with
      | [] => do
        let s := (← get).settings
        print (if on then Setting.listing s else Setting.commands s)
        switchLetters calling on cs []
      | name :: args =>
        match Setting.ofName? name with
        | some o => do
          modify fun s => { s with settings := Setting.switch s.settings o on }
          switchLetters calling on cs args
        | none => abort ("Illegal option -o " ++ name)
    else match Setting.ofLetter? c with
    | some o => do
      modify fun s => { s with settings := Setting.switch s.settings o on }
      switchLetters calling on cs args
    | none => abort ("Illegal option -" ++ c.toString)

/-- Switches options as the first arguments say; answers whether one of them announces a
    command, the arguments behind them, and whether a `--` stands between. -/
def switchOptions (calling : Bool) : Nat → List String → Eval (Bool × List String × Bool)
  | 0, args => pure (false, args, false)
  | _, [] => pure (false, [], false)
  | fuel + 1, a :: args => do
    match a.toList with
    | ['-'] => do
      if !calling then modify fun s =>
        { s with settings := s.settings.filter fun o => o ≠ .xtrace && o ≠ .verbose }
      pure (false, args, false)
    | ['-', '-'] => pure (false, args, true)
    | sign :: letters =>
      if sign == '-' || sign == '+' then do
        let (command, args) ← switchLetters calling (sign == '-') letters args
        let (more, rest) ← switchOptions calling fuel args
        pure (command || more, rest)
      else pure (false, a :: args, false)
    | [] => pure (false, a :: args, false)

/-- Sets options and arguments, or lists all variables. -/
def setOptions : Builtin := fun args => do
  if args.isEmpty then listVariables "" (·.value.isSome)
  else do
    let (_, rest, ended) ← switchOptions false args.length args
    if ended || !rest.isEmpty then modify (·.withArgs rest)
    pure 0

/-! ## Names -/

/-- The order of a name in a list that is kept in so many slots. -/
def slot (slots : Nat) (name : String) : Nat :=
  let codes := name.toList.map Char.toNat
  codes.foldl (· + ·) (codes.headD 0 * 16) % slots

/-- Pairs in the order of the slots of their names. -/
def slotted (slots : Nat) (pairs : List (String × String)) : List (String × String) :=
  pairs.mergeSort fun a b => slot slots a.1 ≤ slot slots b.1

/-- An alias as it is shown. -/
def shownAlias (a : String × String) : String := a.1 ++ "=" ++ inApostrophes a.2

/-- Makes or shows aliases. -/
def setAlias : Builtin := fun args => do
  if args.isEmpty then
    for a in slotted 39 (← get).aliases do print (shownAlias a ++ "\n")
  let mut status := 0
  for a in args do
    let name := a.toList.take 1 ++ (a.toList.drop 1).takeWhile (· ≠ '=')
    let x := String.ofList name
    match a.toList.drop name.length with
    | _ :: value => modify fun s =>
        let value := String.ofList value
        { s with aliases :=
            if (s.aliases.lookup x).isSome then
              s.aliases.map fun b => if b.1 == x then (x, value) else b
            else s.aliases ++ [(x, value)] }
    | [] =>
      match (← get).aliases.lookup x with
      | some value => print (shownAlias (x, value) ++ "\n")
      | none => do
        printError ("alias: " ++ x ++ " not found\n")
        status := 1
  pure status

/-- Forgets aliases. -/
def dropAlias : Builtin := fun args => do
  let (options, names) ← takeOptions "a" args
  if !options.isEmpty then
    modify ({ · with aliases := [] })
    pure 0
  else do
    let mut status := 0
    for x in names do
      if ((← get).aliases.lookup x).isSome then
        modify fun s => { s with aliases := s.aliases.filter (·.1 ≠ x) }
      else
        printError ("unalias: " ++ x ++ " not found\n")
        status := 1
    pure status

/-! ## Signals and jobs -/

/-- Sets what is run at signals, or lists it. -/
def setTrap : Builtin := fun args => do
  let (_, operands) ← takeOptions "" args
  match operands with
  | [] => do
    for (n, action) in (← get).traps.mergeSort fun a b => a.1 ≤ b.1 do
      print ("trap -- " ++ inApostrophes action ++ " " ++ Signal.name n ++ "\n")
    pure 0
  | first :: more =>
    let resets := more.isEmpty || (Signal.number? first).isSome
    setAll (if resets || first == "-" then none else some first)
      (if resets then operands else more)
where
  /-- Sets what is run at each of some signals, up to one that there is not. -/
  setAll (action : Option String) : List String → Eval Nat
    | [] => pure 0
    | x :: xs => do
      match Signal.read? false x with
      | none => do
        printError ("trap: " ++ x ++ ": bad trap\n")
        pure 1
      | some n => do
        modify fun s =>
          { s with traps := (action.toList.map (n, ·)) ++ s.traps.filter (·.1 ≠ n) }
        setAll action xs

/-- The command in the background that an argument names by its slot, or by its age. -/
def namedJob (a : String) : Eval (Nat × Job) := do
  let s ← get
  let (job, complaint) := match a.toList with
    | ['%'] | ['%', '%'] | ['%', '+'] => (s.recentJobs[0]?, "No current job")
    | ['%', '-'] => (s.recentJobs[1]?, "No previous job")
    | '%' :: cs =>
      ((String.ofList cs).toNat?.bind fun n => s.recentJobs.find? (·.1 + 1 = n),
        "No such job: " ++ a)
    | _ => (none, "No such job: " ++ a)
  match job with
  | some j => pure j
  | none => abort complaint

/-- Waits for commands in the background, all of which have ended. -/
def await : Builtin := fun args => do
  let (_, operands) ← takeOptions "" args
  if operands.isEmpty then
    modify fun s => s.recentJobs.foldl (fun s j => s.notice j.1) s
  let mut status := 0
  for a in operands do
    let job? ←
      if a.toList.head? == some '%' then some <$> namedJob a
      else do
        let n ← wholeNumber a
        let s ← get
        pure (s.recentJobs.find? (·.2.pid = n))
    match job? with
    | some (i, job) => do
      modify (·.notice i)
      status := job.status
    | none => status := 127
  pure status

/-- Lists commands in the background. Those that are known to have ended are forgotten
    then. -/
def listJobs : Builtin := fun args => do
  let (options, operands) ← takeOptions "lp" args
  let s ← get
  let jobs ← if operands.isEmpty then pure s.recentJobs else operands.mapM namedJob
  let age (i : Nat) : String := match s.recentJobs.findIdx? (·.1 = i) with
    | some 0 => "+"
    | some 1 => "-"
    | _ => " "
  for (i, job) in jobs do
    let pid := toString job.pid
    let state := if !job.noticed then "Running"
      else if job.status = 0 then "Done"
      else "Done(" ++ toString job.status ++ ")"
    let text := "[" ++ toString (i + 1) ++ "] " ++ age i ++ " " ++
      (if options.isEmpty then "" else pid ++ " ") ++ state
    print (if options.getLast?.any (·.1 == 'p') then pid ++ "\n"
      else text ++ String.ofList (List.replicate (max 1 (33 - text.length)) ' ') ++ "\n")
    if job.noticed then modify fun s => { s with jobs := s.jobs.set i none }
  pure 0

/-- Fails, as no command in the background is under control. -/
def resume : Builtin := fun args => do
  let (_, operands) ← takeOptions "" args
  let a := operands.headD "%%"
  let _ ← namedJob a
  abort ("job " ++ (if operands.isEmpty then "(null)" else a) ++
    " not created under job control")

/-! ## The table -/

/-- The commands that the shell runs itself, without those that run others. -/
def builtins : List (String × Builtin) :=
  [(":", fun _ => pure 0), ("true", fun _ => pure 0), ("false", fun _ => pure 1),
    ("echo", fun args => do
      print (Bytes.toUnits (echoBytes args))
      pure 0),
    ("printf", printFormat), ("cd", changeDirectory), ("chdir", changeDirectory),
    ("pwd", printDirectory), ("read", readLine), ("test", condition), ("[", bracketed),
    ("export", markOrList "export" ({ · with exported := true }) (·.exported)),
    ("readonly", markOrList "readonly" ({ · with readonly := true }) (·.readonly)),
    ("local", makeLocal), ("unset", forget), ("shift", shiftArguments), ("set", setOptions),
    ("trap", setTrap), ("wait", await), ("umask", setMask), ("jobs", listJobs), ("fg", resume), ("bg", resume), ("getopts", nextOption), ("alias", setAlias),
    ("unalias", dropAlias),
    ("ulimit", fun args => do
      let _ ← takeOptions "HSatfdscmlpnvwr" args
      print "unlimited\n"
      pure 0),
    ("times", fun _ => do
      print "0m0.000000s 0m0.000000s\n0m0.000000s 0m0.000000s\n"
      pure 0)]

/-- All commands that the shell runs itself. -/
def isBuiltin (name : String) : Bool :=
  (builtins.lookup name).isSome ||
    ["break", "continue", ".", "eval", "exec", "exit", "return", "command", "type", "kill",
      "hash"].contains name

/-- The commands whose arguments can be assignments. -/
def assigningCommands : List String := ["export", "local", "readonly"]

end Runbook.Shell
