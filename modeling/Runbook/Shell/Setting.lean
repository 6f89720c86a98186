/-
  The options of a shell: their names, their letters, and what each of them changes.
-/

namespace Runbook.Shell

/-- An option of a shell. -/
inductive Setting where
  /-- A command that fails ends the shell. -/
  | errexit
  /-- Patterns are not replaced by the names of files. -/
  | noglob
  | ignoreeof
  | interactive
  | monitor
  /-- Commands are read but not run. -/
  | noexec
  | stdin
  /-- Commands are shown before they run. -/
  | xtrace
  /-- Lines are shown when they are read from a file. -/
  | verbose
  | vi
  | emacs
  /-- Files that are there are not written over. -/
  | noclobber
  /-- Variables that get a value are passed on to programs. -/
  | allexport
  | notify
  /-- A parameter without a value ends the shell. -/
  | nounset
  | privileged
  | nolog
  | debug
  deriving DecidableEq, Repr

namespace Setting

/-- All options with their names, in the order in which they are listed. -/
def named : List (Setting × String) :=
  [(errexit, "errexit"), (noglob, "noglob"), (ignoreeof, "ignoreeof"),
    (interactive, "interactive"), (monitor, "monitor"), (noexec, "noexec"), (stdin, "stdin"),
    (xtrace, "xtrace"), (verbose, "verbose"), (vi, "vi"), (emacs, "emacs"),
    (noclobber, "noclobber"), (allexport, "allexport"), (notify, "notify"),
    (nounset, "nounset"), (privileged, "privileged"), (nolog, "nolog"), (debug, "debug")]

/-- The options that have letters, in the order in which the letters are shown. -/
def lettered : List (Char × Setting) :=
  [('p', privileged), ('u', nounset), ('b', notify), ('a', allexport), ('C', noclobber),
    ('E', emacs), ('V', vi), ('v', verbose), ('x', xtrace), ('s', stdin), ('n', noexec),
    ('m', monitor), ('i', interactive), ('I', ignoreeof), ('f', noglob), ('e', errexit)]

/-- The option with a letter. -/
def ofLetter? (c : Char) : Option Setting := lettered.lookup c

/-- The option with a name. -/
def ofName? (name : String) : Option Setting := (named.find? (·.2 == name)).map (·.1)

/-- The letters of the options that are on. -/
def letters (on : List Setting) : String :=
  String.ofList ((lettered.filter fun l => on.contains l.2).map (·.1))

/-- Options with one of them switched on or off. -/
def switch (on : List Setting) (s : Setting) (value : Bool) : List Setting :=
  if value then (if on.contains s then on else s :: on) else on.filter (· ≠ s)

/-- The list of all options and whether they are on. -/
def listing (on : List Setting) : String :=
  "Current option settings\n" ++ String.join (named.map fun s =>
    s.2 ++ "".pushn ' ' (16 - s.2.length) ++ (if on.contains s.1 then "on" else "off") ++ "\n")

/-- The commands that switch all options to what they are. -/
def commands (on : List Setting) : String :=
  String.join (named.map fun s => "set " ++ (if on.contains s.1 then "-" else "+") ++ "o " ++
    s.2 ++ "\n")

end Setting

end Runbook.Shell
