/-
  The state of a running shell.

  All texts in it have one character for each byte. Descriptors lead to what is `opened`;
  shells that are copies of one another, or called from one another, share that and the
  files. `Eval` is a step of a shell, and `Flow` what ends the normal course of steps.

  `Signal` tells the numbers and names of signals, and what becomes of a process that gets one.
-/
import Runbook.Shell.Arithmetic
import Runbook.Shell.Mask
import Runbook.Shell.Opened
import Runbook.Shell.Pattern
import Runbook.Shell.Reader
import Runbook.Shell.Setting
import Runbook.Text.Blank

namespace Runbook.Shell

namespace Signal

/-- The names of the signals in the order of their numbers; the end of a shell counts as
    the first of them. -/
def names : List String :=
  ["EXIT", "HUP", "INT", "QUIT", "ILL", "TRAP", "ABRT", "BUS", "FPE", "KILL", "USR1", "SEGV",
    "USR2", "PIPE", "ALRM", "TERM", "16", "CHLD", "CONT", "STOP", "TSTP", "TTIN", "TTOU", "URG",
    "XCPU", "XFSZ", "VTALRM", "PROF", "WINCH", "IO", "PWR", "SYS", "32", "33", "RTMIN"] ++
    (List.range 15).map (fun n => "RTMIN+" ++ toString (n + 1)) ++
    (List.range 14).map (fun n => "RTMAX-" ++ toString (14 - n)) ++ ["RTMAX"]

/-- The name of a signal. -/
def name (n : Nat) : String := names.getD n (toString n)

/-- The number of a signal that is given by its number. -/
def number? (s : String) : Option Nat :=
  if !s.isEmpty && s.toList.all Char.isDigit then s.toNat?.filter (· < names.length) else none

/-- The number of a signal that is given by its number or its name, in letters of any case;
    the end of a shell is none of them if `proper`. -/
def read? (proper : Bool) (s : String) : Option Nat :=
  let named := (names.findIdx? (· == s.toUpper)).filter fun n => !proper || n > 0
  (number? s).or named

/-- What is said about a process that a signal has ended, if anything. -/
def obituary? (n : Nat) : Option String :=
  if 34 ≤ n then some ("Real-time signal " ++ toString (n - 34))
  else if 32 ≤ n then some ("Unknown signal " ++ toString n)
  else [(1, "Hangup"), (3, "Quit"), (4, "Illegal instruction"), (5, "Trace/breakpoint trap"),
    (6, "Aborted"), (7, "Bus error"), (8, "Floating point exception"), (9, "Killed"),
    (10, "User defined signal 1"), (11, "Segmentation fault"), (12, "User defined signal 2"),
    (14, "Alarm clock"), (15, "Terminated"), (16, "Stack fault"),
    (24, "CPU time limit exceeded"), (25, "File size limit exceeded"),
    (26, "Virtual timer expired"), (27, "Profiling timer expired"), (29, "I/O possible"),
    (30, "Power failure"), (31, "Bad system call")].lookup n

/-- A process takes no notice of a signal, unless it asks to be told. -/
def isHarmless (n : Nat) : Bool := [0, 17, 18, 23, 28].contains n

end Signal

/-- A variable; without a value it is only marked. -/
structure Variable where
  name : String
  value : Option String
  exported : Bool := false
  readonly : Bool := false

/-- What changes back when a function or a command ends. -/
inductive Saved where
  /-- A variable as it was, if it was there. -/
  | variable (name : String) (was : Option Variable)
  | settings (was : List Setting)

/-- A command that ran in the background. -/
structure Job where
  pid : Nat
  status : Nat
  /-- The shell knows that it has ended. -/
  noticed : Bool := false

/-- The state of a shell. -/
structure State where
  files : Files
  cwd : Path
  /-- What the shell was called as. -/
  name : String
  args : List String := []
  vars : List Variable := []
  functions : List (String × Command) := []
  aliases : List (String × String) := []
  /-- Where programs were found, by their names. -/
  found : List (String × String) := []
  /-- The status of the last command. -/
  status : Nat := 0
  /-- The status of the last command whose output was taken into a word. -/
  outputStatus : Nat := 0
  settings : List Setting := []
  /-- What changes back at the end of each function or command that is running, the
      innermost first. -/
  frames : List (List Saved) := []
  /-- The number of loops that are running. -/
  loops : Nat := 0
  /-- The outcome of what is running is tested, so that no failure ends the shell. -/
  sheltered : Bool := false
  /-- The permissions that new files do not get. -/
  mask : Nat := 18
  /-- The argument that `getopts` looks at next. -/
  optionIndex : Nat := 1
  /-- How much of the argument before that one `getopts` has taken, if there is more. -/
  optionOffset : Option Nat := none
  descriptors : List (Nat × Nat) := []
  opened : Array Opened := #[]
  /-- Output was lost, because its descriptor leads nowhere. -/
  lost : Bool := false
  /-- What is run at a signal, or at the end. -/
  traps : List (Nat × String) := []
  pid : Nat := 1000
  /-- A copy of the shell that has this number. -/
  isCopy : Bool := false
  /-- Signals that have come and have an action. -/
  pending : List Nat := []
  /-- The signal that a copy has sent to the shell. -/
  doom : Option Nat := none
  /-- Commands that ran in the background, each in a slot of its own. -/
  jobs : List (Option Job) := []
  /-- The number of commands that were started in the background. -/
  started : Nat := 0
  /-- The line of the command that is running. -/
  line : Nat := 1
  /-- The command of the shell that is running, in whose name complaints are made. -/
  speaker : Option String := none
  /-- The status at the end of the shell, while what was to be run there is running. -/
  lastStatus : Option Nat := none

/-- What ends the normal course of commands. -/
inductive Flow where
  | exit (status : Nat)
  /-- An error: it ends the command of the shell that made it, or the shell. -/
  | fault
  | killed (signal : Nat)
  /-- Ends this many loops. -/
  | leave (levels : Nat)
  /-- Goes on with the next round of the loop that many levels up. -/
  | again (levels : Nat)
  /-- Ends a function. -/
  | back (status : Nat)

/-- A step of a shell. -/
abbrev Eval := ExceptT Flow (StateM State)

namespace State

/-- An option is on. -/
def has (s : State) (o : Setting) : Bool := s.settings.contains o

/-! ## Variables -/

/-- A variable by its name. -/
def lookup (s : State) (name : String) : Option Variable :=
  s.vars.find? (·.name == name)

/-- The value of a variable. -/
def value? (s : State) (name : String) : Option String := (s.lookup name).bind (·.value)

/-- Changes a variable, which is made if it is not there. -/
def change (s : State) (name : String) (f : Variable → Variable) : State :=
  if s.vars.any (·.name == name) then
    { s with vars := s.vars.map fun v => if v.name == name then f v else v }
  else { s with vars := s.vars ++ [f { name, value := none }] }

/-- Gives a variable a value. A new search path makes the shell forget where programs
    are, a new option index makes it start again there. -/
def assign (s : State) (name value : String) : State :=
  let exports := s.has .allexport
  let s := s.change name fun v =>
    { v with value := some value, exported := v.exported || exports }
  if name == "PATH" then { s with found := [] }
  else if name == "OPTIND" then
    { s with optionIndex := max 1 (value.toNat?.getD 1), optionOffset := none }
  else s

/-- Puts a variable back to what it was. -/
def restore (s : State) (name : String) (was : Option Variable) : State :=
  let s := if name == "PATH" then { s with found := [] } else s
  match was with
  | none => { s with vars := s.vars.filter (·.name ≠ name) }
  | some v => s.change name fun _ => v

/-- The environment of programs. -/
def environment (s : State) : List (String × String) :=
  s.vars.filterMap fun v => if v.exported then v.value.map (v.name, ·) else none

/-- The characters that separate words. -/
def separators (s : State) : List Char := ((s.value? "IFS").getD " \t\n").toList

/-- The value of a parameter. -/
def parameter? (s : State) (name : String) : Option String :=
  match name with
  | "?" => some (toString s.status)
  | "$" => some (toString s.pid)
  | "!" => if s.started = 0 then none else some (toString (s.pid + s.started))
  | "#" => some (toString s.args.length)
  | "-" => some (Setting.letters s.settings)
  | "0" => some s.name
  | "@" => some (Text.joinWith " " s.args)
  | "*" => some (Text.joinWith (String.ofList (s.separators.take 1)) s.args)
  | name =>
    match name.toNat? with
    | some n => if n = 0 then some s.name else s.args[n - 1]?
    | none => s.value? name

/-- Gives the shell other arguments. -/
def withArgs (s : State) (args : List String) : State :=
  { s with args, optionIndex := 1, optionOffset := none }

/-! ## Commands in the background -/

/-- Makes the first slot free that is free or holds a command that is known to have ended:
    each copy of the shell, and each program, takes such a slot while it runs. -/
def freeSlot (s : State) : State :=
  match s.jobs.findIdx? fun slot => slot.all (·.noticed) with
  | some i => { s with jobs := s.jobs.set i none }
  | none => s

/-- Puts a command that was started in the background into the first free slot, or into a
    new one. -/
def addJob (s : State) (status : Nat) : State :=
  let job : Job := { pid := s.pid + s.started + 1, status }
  let jobs := match s.jobs.findIdx? (·.isNone) with
    | some i => s.jobs.set i (some job)
    | none => s.jobs ++ [some job]
  { s with jobs, started := s.started + 1 }

/-- The slots of the commands in the background, the last one started first. -/
def recentJobs (s : State) : List (Nat × Job) :=
  (s.jobs.zipIdx.filterMap fun (slot, i) => slot.map (i, ·)).mergeSort
    fun a b => b.2.pid ≤ a.2.pid

/-- Lets the shell know that the command in a slot has ended. -/
def notice (s : State) (i : Nat) : State :=
  { s with jobs := s.jobs.modify i (·.map ({ · with noticed := true })) }

/-! ## Descriptors -/

/-- Something new to read from or write to, and its number. -/
def openNew (s : State) (o : Opened) : Nat × State :=
  (s.opened.size, { s with opened := s.opened.push o })

/-- Lets a descriptor lead to something opened. -/
def point (s : State) (descriptor target : Nat) : State :=
  { s with descriptors := (descriptor, target) :: s.descriptors.filter (·.1 ≠ descriptor) }

/-- Writes bytes to where a descriptor leads. -/
def write (s : State) (descriptor : Nat) (bytes : Bytes) : State :=
  match s.descriptors.lookup descriptor with
  | some i =>
    let (files, o) := (s.opened.getD i .nowhere).write s.files bytes
    { s with files, opened := s.opened.setIfInBounds i o }
  | none => { s with lost := s.lost || descriptor = 1 && !bytes.isEmpty }

/-- What standard input leads to. -/
def standardInput (s : State) : Opened :=
  ((s.descriptors.lookup 0).bind fun i => s.opened[i]?).getD .nowhere

/-- The bytes that can be read from standard input. -/
def input (s : State) : Bytes := s.standardInput.unread s.files

/-- Leaves only these bytes to be read from standard input. -/
def leaveInput (s : State) (rest : Bytes) : State :=
  match s.descriptors.lookup 0 with
  | some i => { s with opened := s.opened.modify i (·.leave s.files rest) }
  | none => s

/-- The files as a program leaves them, some of them moved. -/
def withFiles (s : State) (files : Files) (moves : List (Path × Path)) : State :=
  let follow (o : Opened) : Opened := moves.foldl (fun o m => o.moved m.1 m.2) o
  { s with files, opened := s.opened.map fun o => (follow o).kept s.files files }

end State

/-! ## Steps -/

/-- Prints text. -/
def print (text : String) : Eval Unit := modify (·.write 1 (Bytes.ofUnits text))

/-- Prints text as error output, as it is. -/
def printError (text : String) : Eval Unit := modify (·.write 2 (Bytes.ofUnits text))

/-- Prints a complaint with the name of the shell, the line, and the command that makes it. -/
def complain (message : String) : Eval Unit := do
  let s ← get
  let origin := [s.name, toString s.line] ++ s.speaker.toList
  printError (Text.joinWith ": " (origin ++ [message]) ++ "\n")

/-- Does something and changes the state in the end, however it ends. -/
def afterwards {α : Type} (act : Eval α) (restore : State → State) : Eval α := do
  let r ←
    try act
    catch e => do
      modify restore
      throw e
  modify restore
  pure r

/-- Does something in the name of a command. -/
def speakingAs {α : Type} (name : String) (act : Eval α) : Eval α := do
  let outer := (← get).speaker
  modify ({ · with speaker := some name })
  afterwards act ({ · with speaker := outer })

/-- Fails with a complaint. -/
def abort {α : Type} (message : String) : Eval α := do
  complain message
  throw .fault

/-- Lets a signal come: it ends the shell, unless it has an action or is harmless. -/
def deliver (n : Nat) : Eval Unit := do
  let s ← get
  if n ≠ 9 && n ≠ 19 && (s.traps.lookup n).isSome then set { s with pending := n :: s.pending }
  else if n = 9 || n = 19 || !Signal.isHarmless n then throw (.killed n)

/-- Sets the status of the last command. -/
def setStatus (n : Nat) : Eval Unit := modify ({ · with status := n })

/-- Gives a variable a value, unless it may not change. -/
def assign (name value : String) : Eval Unit := do
  if ((← get).lookup name).any (·.readonly) then abort (name ++ ": is read only")
  modify (·.assign name value)

/-- The largest number that a command takes. -/
def maxNumber : Nat := 2147483647

/-- The number that a text means, which must be one. -/
def wholeNumber (s : String) : Eval Nat := do
  match s.toNat? with
  | some n => if s.toList.all Char.isDigit && n ≤ maxNumber then pure n else bad
  | none => bad
where
  bad : Eval Nat := abort ("Illegal number: " ++ s)

/-- Takes the options off the arguments of a command: each with its value, if its letter
    has a colon behind it among the letters that are known. -/
def takeOptions (letters : String) : List String → Eval (List (Char × String) × List String)
  | [] => pure ([], [])
  | a :: args => do
    match a.toList with
    | ['-', '-'] => pure ([], args)
    | '-' :: c :: cs => taken [] (c :: cs) a args
    | _ => pure ([], a :: args)
where
  /-- Takes the letters of one argument. -/
  taken (before : List (Char × String)) (cs : List Char) (a : String) (args : List String) :
      Eval (List (Char × String) × List String) := do
    match cs with
    | [] => do
      let (os, rest) ← takeOptions letters args
      pure (before ++ os, rest)
    | c :: cs =>
      match letters.toList.dropWhile (· ≠ c) with
      | _ :: ':' :: _ =>
        if cs.isEmpty then
          match args with
          | [] => abort ("No arg for -" ++ c.toString ++ " option")
          | v :: args => do
            let (os, rest) ← takeOptions letters args
            pure (before ++ [(c, v)] ++ os, rest)
        else do
          let (os, rest) ← takeOptions letters args
          pure (before ++ [(c, String.ofList cs)] ++ os, rest)
      | _ :: _ => if c == ':' then bad c else taken (before ++ [(c, "")]) cs a args
      | [] => bad c
  bad (c : Char) : Eval (List (Char × String) × List String) :=
    abort ("Illegal option -" ++ c.toString)

/-- Changes back what is saved in all frames but the outermost `depth`. -/
def State.unwind (depth : Nat) (s : State) : State :=
  let inner := s.frames.length - depth
  (s.frames.take inner).flatten.foldl (fun t saved =>
    match saved with
    | .variable name was => t.restore name was
    | .settings was => { t with settings := was }) { s with frames := s.frames.drop inner }

/-- Starts what changes back at its end. If the shell ends in it, what is run there still
    sees the changes. -/
def framed {α : Type} (act : Eval α) : Eval α := do
  let depth := (← get).frames.length
  modify fun s => { s with frames := [] :: s.frames }
  let r ←
    try act
    catch e => do
      match e with
      | .leave _ | .again _ | .back _ => modify (·.unwind depth)
      | .exit _ | .fault | .killed _ => pure ()
      throw e
  modify (·.unwind depth)
  pure r

/-- Lets something change back at the end of the innermost frame. -/
def save (saved : Saved) : Eval Unit := modify fun s =>
  match s.frames with
  | f :: fs => { s with frames := (saved :: f) :: fs }
  | [] => s

/-- Gives a variable a value up to the end of the innermost frame, and passes it on to
    programs. -/
def assignFramed (name value : String) : Eval Unit := do
  save (.variable name ((← get).lookup name))
  assign name value
  modify (·.change name ({ · with exported := true }))

end Runbook.Shell
