/-
  The options of the command line.

  * an option is written with two dashes and its name, or with one dash and its letter;
    letters can share a dash, and a value stands behind the name or the letter or in the
    next argument, which must not look like an option itself;
  * `Options.parse` reads the arguments from left to right: the first help or version
    option that is reached ends the reading;
  * exactly one document must be given, by its path or by its text.
-/
import Runbook.Chain.Load

namespace Runbook

/-- What the arguments ask for. -/
structure Options where
  source : DocumentSource
  /-- The path of the configuration. -/
  config : Option String := none
  /-- Shows the outline and runs nothing. -/
  dryRun : Bool := false
  verbose : Nat := 0
  quiet : Bool := false
  deriving DecidableEq, Repr

/-- Arguments that cannot be read. -/
inductive UsageError where
  | unknownArgument (argument : String)
  | missingValue (option : String)
  | unexpectedValue (option : String)
  | repeatedOption (option : String)
  | twoDocuments
  | noDocument
  deriving DecidableEq, Repr

/-- The wording of a usage error. -/
def UsageError.message : UsageError → String
  | unknownArgument argument => "unexpected argument '" ++ argument ++ "' found"
  | missingValue option => "a value is required for '" ++ option ++ "' but none was supplied"
  | unexpectedValue option => "no value is taken by '" ++ option ++ "'"
  | repeatedOption option => "the argument '" ++ option ++ "' cannot be used multiple times"
  | twoDocuments => "the argument '--file' cannot be used with '--raw'"
  | noDocument => "one of '--file' and '--raw' is required"

/-- What reading the arguments comes to, other than options. -/
inductive EarlyEnd where
  | usage (e : UsageError)
  | help
  | version
  deriving DecidableEq, Repr

namespace Options

/-- An option that takes a value. -/
inductive Setting where
  | file | raw | config
  deriving DecidableEq, Repr

/-- An option without a value. -/
inductive Flag where
  | dryRun | verbose | quiet | help | version
  deriving DecidableEq, Repr

/-- The name of a setting, with its dashes. -/
def Setting.name : Setting → String
  | file => "--file"
  | raw => "--raw"
  | config => "--config"

/-- The name of a flag, with its dashes. -/
def Flag.name : Flag → String
  | dryRun => "--dry-run"
  | verbose => "--verbose"
  | quiet => "--quiet"
  | help => "--help"
  | version => "--version"

/-- The setting of a name. -/
def Setting.ofName? (s : String) : Option Setting := [file, raw, config].find? (·.name == s)

/-- The flag of a name. -/
def Flag.ofName? (s : String) : Option Flag :=
  [dryRun, verbose, quiet, help, version].find? (·.name == s)

/-- The setting of a letter. -/
def Setting.ofLetter? : Char → Option Setting
  | 'f' => some file
  | 'c' => some config
  | _ => none

/-- The flag of a letter. -/
def Flag.ofLetter? : Char → Option Flag
  | 'd' => some dryRun
  | 'v' => some verbose
  | 'q' => some quiet
  | 'h' => some help
  | 'V' => some version
  | _ => none

/-- The options that were read so far. -/
structure Draft where
  file : Option String := none
  raw : Option String := none
  config : Option String := none
  dryRun : Bool := false
  verbose : Nat := 0
  quiet : Bool := false

namespace Draft

/-- Gives a setting its value, once; paths cannot be empty. -/
def give (d : Draft) (s : Setting) (value : String) : Except EarlyEnd Draft :=
  let once (old : Option String) (new : Draft) : Except EarlyEnd Draft :=
    if old.isSome then .error (.usage (.repeatedOption s.name))
    else if s ≠ .raw ∧ value.isEmpty then .error (.usage (.missingValue s.name))
    else .ok new
  match s with
  | .file => once d.file { d with file := some value }
  | .raw => once d.raw { d with raw := some value }
  | .config => once d.config { d with config := some value }

/-- Raises a flag; only verbose can be given more than once. -/
def raise (d : Draft) (f : Flag) : Except EarlyEnd Draft :=
  match f with
  | .dryRun =>
    if d.dryRun then .error (.usage (.repeatedOption f.name)) else .ok { d with dryRun := true }
  | .quiet =>
    if d.quiet then .error (.usage (.repeatedOption f.name)) else .ok { d with quiet := true }
  | .verbose => .ok { d with verbose := d.verbose + 1 }
  | .help => .error .help
  | .version => .error .version

/-- The letters behind one dash: flags, and at most one setting with the rest as its value.
    A setting whose value is still to come is answered too. -/
def letters (argument : String) (d : Draft) : List Char → Except EarlyEnd (Draft × Option Setting)
  | [] => .ok (d, none)
  | c :: cs =>
    match Flag.ofLetter? c, Setting.ofLetter? c with
    | some f, _ => do letters argument (← d.raise f) cs
    | none, some s =>
      match cs with
      | [] => .ok (d, some s)
      | '=' :: value => do pure (← d.give s (String.ofList value), none)
      | value => do pure (← d.give s (String.ofList value), none)
    | none, none => .error (.usage (.unknownArgument argument))

/-- One argument that is a name, perhaps with an equals sign and a value. -/
def named (argument : String) (d : Draft) : Except EarlyEnd (Draft × Option Setting) :=
  let name := String.ofList (argument.toList.takeWhile (· ≠ '='))
  let value := if name = argument then none
    else some (String.ofList (argument.toList.drop (name.length + 1)))
  match Setting.ofName? name, Flag.ofName? name, value with
  | some s, _, some v => do pure (← d.give s v, none)
  | some s, _, none => .ok (d, some s)
  | _, some f, none => do pure (← d.raise f, none)
  | _, some f, some _ => .error (.usage (.unexpectedValue f.name))
  | none, none, _ => .error (.usage (.unknownArgument argument))

/-- An argument looks like an option. -/
def isOption (argument : String) : Bool :=
  argument.toList.head? = some '-' && argument ≠ "-"

/-- Reads arguments; `awaiting` is the setting whose value comes next. -/
def readAll (d : Draft) (awaiting : Option Setting) : List String → Except EarlyEnd Draft
  | [] =>
    match awaiting with
    | some s => .error (.usage (.missingValue s.name))
    | none => .ok d
  | a :: as =>
    match awaiting with
    | some s =>
      if isOption a then .error (.usage (.missingValue s.name))
      else do readAll (← d.give s a) none as
    | none =>
      if a = "--" then
        match as with
        | [] => .ok d
        | b :: _ => .error (.usage (.unknownArgument b))
      else if isOption a then do
        let (d, awaiting) ←
          if "--".toList.isPrefixOf a.toList then d.named a else d.letters a (a.toList.drop 1)
        readAll d awaiting as
      else .error (.usage (.unknownArgument a))

/-- The options that a draft comes to: exactly one document is given. -/
def finish (d : Draft) : Except EarlyEnd Options :=
  let options (source : DocumentSource) : Options :=
    { source, config := d.config, dryRun := d.dryRun, verbose := d.verbose, quiet := d.quiet }
  match d.file, d.raw with
  | some path, none => .ok (options (.file path))
  | none, some text => .ok (options (.text text))
  | some _, some _ => .error (.usage .twoDocuments)
  | none, none => .error (.usage .noDocument)

end Draft

/-- Reads the arguments. -/
def parse (arguments : List String) : Except EarlyEnd Options := do
  (← Draft.readAll {} none arguments).finish

end Options

end Runbook
