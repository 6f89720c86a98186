/-
  Files of environment variables, one `NAME=value` a line.

  A line goes on while a quote is open, so that values can hold line ends. A value may be
  quoted, escape single characters and name other variables: `$NAME` takes letters and
  digits, `$` with braces takes everything up to the closing one.

  * `Dotenv.logicalLines` joins the physical lines that belong together and drops
    comments;
  * `Dotenv.assignment?` splits a line into a name and the text of a value;
  * `Dotenv.value` is what such a text stands for;
  * `Dotenv.read` are the variables of a file, in order.
-/
import Runbook.Session.Settings
import Runbook.Text.Alphanumeric
import Runbook.Text.Bytes

namespace Runbook.Dotenv

/-- Why a file gives no variables. -/
inductive Fault where
  /-- A line, or the text of a value, and the place in it that cannot be read. -/
  | line (text : String) (index : Nat)
  | unreadable (reason : String)
  deriving DecidableEq, Repr

/-- The wording of a fault. -/
def Fault.message : Fault → String
  | line text index =>
    "Error parsing line: '" ++ text ++ "', error at line index: " ++ toString index
  | unreadable reason => reason

/-! ## Lines -/

/-- What a position in a line is inside of. -/
inductive Mode where
  | plain
  /-- After a blank, where a comment may start. -/
  | blank
  | escape
  | strong
  | strongEscape
  | weak
  | weakEscape
  deriving DecidableEq, Repr

/-- The mode after a character that is neither quoted nor escaped. -/
def Mode.ofPlain (c : Char) : Mode :=
  if c = '\\' then escape else if c = '"' then weak else if c = '\'' then strong else plain

/-- The mode after a character. -/
def Mode.after (m : Mode) (c : Char) : Mode :=
  match m with
  | plain => if Text.isBlank c && c ≠ '\n' && c ≠ '\r' then blank else ofPlain c
  | blank => ofPlain c
  | escape => plain
  | strong => if c = '\\' then strongEscape else if c = '\'' then plain else strong
  | strongEscape => strong
  | weak => if c = '\\' then weakEscape else if c = '"' then plain else weak
  | weakEscape => weak

/-- The mode at the end of a physical line, or the part of it before a comment. -/
def Mode.atEnd (m : Mode) (before : List Char) : List Char → Mode ⊕ List Char
  | [] => .inl m
  | c :: cs => if m = blank ∧ c = '#' then .inr before.reverse else (m.after c).atEnd (c :: before) cs

/-- A text without the line end that it ends with. -/
def dropLineEnd (s : List Char) : List Char :=
  if s.getLast? = some '\n' then Text.dropReturn s.dropLast else s

/-- The logical lines of a list of physical ones, after the characters `pending` of a line
    that is not complete in mode `m`. A fault is the last item. -/
def logicalLines (pending : List Char) (m : Mode) : List Bytes → List (Except Fault (List Char))
  | [] =>
    if m = .plain then []
    else
      let s := String.ofList pending
      [.error (.line s s.utf8ByteSize)]
  | l :: ls =>
    match Bytes.decode? l with
    | none => [.error (.unreadable "stream did not contain valid UTF-8")]
    | some text =>
      let s := pending ++ text.toList
      if (s.dropWhile Text.isBlank).head? = some '#' then .ok [] :: logicalLines [] .plain ls
      else match m.atEnd [] text.toList with
        | .inr before => .ok (pending ++ before) :: logicalLines [] .plain ls
        | .inl .plain => .ok (dropLineEnd s) :: logicalLines [] .plain ls
        | .inl m => logicalLines s m ls

/-- The physical lines of a file, with their line ends. -/
def physicalLines : Bytes → List Bytes
  | [] => []
  | b :: bs =>
    if b = 10 then [b] :: physicalLines bs
    else match physicalLines bs with
      | [] => [[b]]
      | l :: ls => (b :: l) :: ls

/-! ## Assignments -/

/-- What is left of a line, and how many bytes of it were read. -/
structure Cursor where
  rest : List Char
  pos : Nat := 0

/-- Moves over the first characters of a class. -/
def Cursor.skipWhile (p : Char → Bool) (c : Cursor) : Cursor :=
  ⟨c.rest.dropWhile p, c.pos + (String.ofList (c.rest.takeWhile p)).utf8ByteSize⟩

/-- Moves over blanks. -/
def Cursor.skipBlanks (c : Cursor) : Cursor := c.skipWhile Text.isBlank

/-- The rest of a line holds no text but a comment. -/
def Cursor.isSpent (c : Cursor) : Bool := c.rest.isEmpty || c.rest.head? == some '#'

/-- A character that a name can start with. -/
def startsName (c : Char) : Bool := c.isAlpha || c == '_'

/-- A character of a name. -/
def isNameChar (c : Char) : Bool := c.isAlphanum || c == '_' || c == '.'

/-- A name, and what follows it. -/
def Cursor.name? (c : Cursor) : Option (String × Cursor) :=
  if (c.rest.head?.any startsName) then
    some (String.ofList (c.rest.takeWhile isNameChar), c.skipWhile isNameChar)
  else none

/-- What follows an equals sign. -/
def Cursor.equals? (c : Cursor) : Option Cursor :=
  match c.rest with
  | '=' :: r => some ⟨r, c.pos + 1⟩
  | _ => none

/-- The name and the text of the value that a line assigns, if it assigns one. The word
    `export` may stand before the name; it can also be the name itself. -/
def assignment? (line : List Char) : Except Fault (Option (String × List Char)) :=
  let fault (c : Cursor) : Fault := .line (String.ofList line) c.pos
  let start : Cursor := Cursor.skipBlanks { rest := Text.dropEndWhile Text.isBlank line }
  if start.isSpent then .ok none
  else do
    let (name, c) ← match start.name? with
      | some (n, c) => pure (n, c.skipBlanks)
      | none => throw (fault start)
    let (name, c) ← match c.equals? with
      | some d => pure (name, d)
      | none =>
        if name = "export" then
          match c.name? with
          | none => throw (fault c)
          | some (n, d) =>
            let d := d.skipBlanks
            match d.equals? with
            | some d => pure (n, d)
            | none => throw (fault d)
        else throw (fault c)
    let c := c.skipBlanks
    pure (some (name, if c.isSpent then [] else c.rest))

/-! ## Values -/

/-- What a position in a value is inside of. -/
inductive ValueMode where
  | plain
  | escaped
  | strong
  /-- The name of a variable after `$`. -/
  | name
  /-- The name of a variable in braces. -/
  | braced
  /-- After the value, where only blanks and a comment may follow. -/
  | ended
  deriving DecidableEq, Repr

/-- How far a value is read; the collected texts have their last character first. -/
structure ValueState where
  mode : ValueMode := .plain
  /-- Double quotes are open. -/
  weak : Bool := false
  name : List Char := []
  output : List Char := []

/-- Puts the value of the variable that was named. -/
def ValueState.substitute (valueOf : String → String) (s : ValueState) : ValueState :=
  { s with
    name := []
    output := (valueOf (String.ofList s.name.reverse)).toList.reverse ++ s.output }

/-- The character that stands for an escaped one. -/
def unescape? (c : Char) : Option Char :=
  if c = 'n' then some '\n'
  else if ['\\', '\'', '"', '$', ' '].contains c then some c
  else none

/-- Reads one character of a value; `none` if it cannot stand there. -/
def ValueState.step? (valueOf : String → String) (s : ValueState) (c : Char) :
    Option ValueState :=
  match s.mode with
  | .ended => if c = ' ' ∨ c = '\t' then some s else none
  | .escaped => (unescape? c).map fun d => { s with mode := .plain, output := d :: s.output }
  | .strong =>
    some (if c = '\'' then { s with mode := .plain } else { s with output := c :: s.output })
  | .name =>
    some (
      if Text.isAlphanumeric c then { s with name := c :: s.name }
      else if c = '\x7b' ∧ s.name.isEmpty then { s with mode := .braced }
      else
        let s := s.substitute valueOf
        if c = '$' then s else { s with mode := .plain, output := c :: s.output })
  | .braced =>
    some (
      if c = '\x7d' then { s.substitute valueOf with mode := .plain }
      else { s with name := c :: s.name })
  | .plain =>
    some (
      if c = '$' then { s with mode := .name }
      else if c = '"' then { s with weak := !s.weak }
      else if c = '\\' then { s with mode := .escaped }
      else if s.weak then { s with output := c :: s.output }
      else if c = '\'' then { s with mode := .strong }
      else if c = ' ' ∨ c = '\t' then { s with mode := .ended }
      else { s with output := c :: s.output })

/-- Reads characters up to the end of a value or a comment after it. A failure is the
    place of the character that cannot be read. -/
def ValueState.run (valueOf : String → String) (index : Nat) (s : ValueState) :
    List Char → Except Nat ValueState
  | [] => .ok s
  | c :: cs =>
    if s.mode = .ended ∧ c = '#' then .ok s
    else match s.step? valueOf c with
      | some s => s.run valueOf (index + 1) cs
      | none => .error index

/-- What the text of a value stands for, given the values of other variables. -/
def value (valueOf : String → String) (text : List Char) : Except Fault String :=
  let input := String.ofList text
  match ({} : ValueState).run valueOf 0 text with
  | .error index => .error (.line input index)
  | .ok s =>
    if s.mode = .braced ∨ s.mode = .strong ∨ s.weak then
      .error (.line input (input.utf8ByteSize - 1))
    else .ok (String.ofList (s.substitute valueOf).output.reverse)

/-! ## Files -/

/-- The value of a variable: that of the environment, else that of an earlier line. -/
def valueOf (env known : Overlay) (name : String) : String :=
  ((env.get? name).or (known.get? name)).getD ""

/-- The variables of a file, each under its last value; `env` is the environment that
    values can refer to. -/
def read (env : Overlay) (content : Bytes) : Except Fault Overlay :=
  (logicalLines [] .plain (physicalLines content)).foldlM (fun known line => do
    match ← assignment? (← line) with
    | none => pure known
    | some (name, text) => pure (known.put name (← value (valueOf env known) text))) []

end Runbook.Dotenv
