/-
  The syntax of shell command lines.

  A word is a list of parts: text, parameters, and the output of commands. A command is
  simple, or made of others by pipes, conditions, loops and groups; redirections may
  follow each of them.
-/

namespace Runbook.Shell

/-- What a parameter is asked for. -/
inductive ParamUse where
  | value
  | length
  /-- The word instead, if the parameter is unset; with a colon also if it is empty. -/
  | orElse (colon : Bool)
  | orAssign (colon : Bool)
  | orFail (colon : Bool)
  | ifSet (colon : Bool)
  | withoutStart (longest : Bool)
  | withoutEnd (longest : Bool)
  deriving DecidableEq

/-- What a redirection joins its descriptor to. -/
inductive RedirectKind where
  | read
  /-- An empty file; with force also in place of one that options protect. -/
  | write (force : Bool)
  | append
  | readWrite
  /-- Another descriptor, or `-` for none. -/
  | copy
  /-- The text itself. -/
  | here
  deriving DecidableEq

mutual

/-- A part of a word. -/
inductive Part where
  | text (s : String) (quoted : Bool)
  | param (name : String) (use : ParamUse) (word : List Part) (quoted : Bool)
  /-- The output of a command. -/
  | output (c : Command) (quoted : Bool)
  | arithmetic (expression : List Part) (quoted : Bool)
  /-- A parameter whose use means nothing. -/
  | bad

/-- A redirection of a descriptor. -/
inductive Redirect where
  | mk (descriptor : Nat) (kind : RedirectKind) (word : List Part)

/-- A command. -/
inductive Command where
  | simple (line : Nat) (assignments : List (String × List Part)) (words : List (List Part))
      (redirects : List Redirect)
  | redirected (c : Command) (redirects : List Redirect)
  /-- A command of several lines that starts in a line. -/
  | inLine (line : Nat) (c : Command)
  | pipe (first second : Command)
  | not (c : Command)
  | and (first second : Command)
  | or (first second : Command)
  | sequence (cs : List Command)
  | background (c : Command)
  | subshell (c : Command)
  | choice (condition yes no : Command)
  /-- Repeats the body while the condition succeeds, or until it does. -/
  | repeat (until_ : Bool) (condition body : Command)
  /-- Without words the loop is over the arguments. -/
  | each (name : String) (words : Option (List (List Part))) (body : Command)
  | select (word : List Part) (arms : List (List (List Part) × Command))
  | define (name : String) (body : Command)

end

/-- A word. -/
abbrev Word := List Part

/-- A word without quotes, if it is one. -/
def bareText? : Word → Option String
  | [.text s false] => some s
  | _ => none

/-- A letter, an underscore, or a digit. -/
def isNameChar (c : Char) : Bool := c.isAlphanum || c == '_'

/-- A text can name a variable. -/
def isName (s : List Char) : Bool :=
  match s with
  | c :: cs => isNameChar c && !c.isDigit && cs.all isNameChar
  | [] => false

/-- The commands whose failure ends the shell, and whose assignments stay. No function can
    have one of their names. -/
def specialCommands : List String :=
  [".", ":", "break", "continue", "eval", "exec", "exit", "export", "local", "readonly",
    "return", "set", "shift", "times", "trap", "unset"]

end Runbook.Shell
