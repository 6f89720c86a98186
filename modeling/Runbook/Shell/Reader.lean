/-
  Reading shell command lines.

  `Parse.nextLine` reads the next complete command of a text: the commands up to the end of a
  line that ends no other construct. The text of a here-document is taken out of the lines
  that follow as soon as its operator is met. The text of an alias takes the place of its
  name before anything else is read of a command.
-/
import Runbook.Shell.Syntax

namespace Runbook.Shell

/-- An alias whose text is being read. -/
structure AliasUse where
  name : String
  /-- How much of the source is left behind the text. -/
  after : Nat
  /-- The word behind the text may be an alias too. -/
  opensNext : Bool

/-- The text that is still to be read, and the aliases in it. -/
structure Source where
  rest : List Char
  line : Nat := 1
  /-- The number of lines that are taken out behind the end of this line. -/
  taken : Nat := 0
  aliases : List (String × String) := []
  within : List AliasUse := []

/-- A text within the source, read by itself from a line on. -/
def Source.inner (s : Source) (text : List Char) (line : Nat) : Source :=
  { rest := text, line, aliases := s.aliases }

/-- Why a text is no command, and in which line that shows. -/
structure SyntaxFault where
  line : Nat
  message : String

/-- A reader of commands. -/
abbrev Parse := StateT Source (Except SyntaxFault)

namespace Parse

/-- Refuses the text. -/
def refuse {α : Type} (message : String) : Parse α := do
  throw ⟨(← get).line, "Syntax error: " ++ message⟩

/-! ## Characters -/

/-- A character that ends a word. -/
def isMeta (c : Char) : Bool := " \t\n;&|<>()".contains c

/-- Moves `n` characters forward, counting lines. -/
def advance (n : Nat) : Parse Unit := modify fun s =>
  match (s.rest.take n).count '\n' with
  | 0 => { s with rest := s.rest.drop n }
  | ends => { s with rest := s.rest.drop n, line := s.line + ends + s.taken, taken := 0 }

/-- The length of the blanks, escaped line ends and comment at the start of a text. -/
def blankLength : List Char → Nat
  | ' ' :: r => blankLength r + 1
  | '\t' :: r => blankLength r + 1
  | '\\' :: '\n' :: r => blankLength r + 2
  | '#' :: r => (r.takeWhile (· ≠ '\n')).length + 1
  | _ => 0

/-- The text after blanks and a comment. -/
def afterBlanks : Parse (List Char) := do
  advance (blankLength (← get).rest)
  pure (← get).rest

/-- Moves over blanks, comments and line ends. -/
def skipLines : Nat → Parse Unit
  | 0 => pure ()
  | fuel + 1 => do
    match ← afterBlanks with
    | '\n' :: _ =>
      advance 1
      skipLines fuel
    | _ => pure ()

/-- The words that stand for themselves only at the start of a command. -/
def reserved : List String :=
  ["if", "then", "elif", "else", "fi", "do", "done", "while", "until", "for", "case", "esac",
    "in", "\x7b", "\x7d", "!"]

/-- The bare word that comes next. -/
def bareWord (s : List Char) : String :=
  let word := s.takeWhile (!isMeta ·)
  if word.any ("\\'\"$\x60".contains ·) then "" else String.ofList word

/-- The reserved word that comes next. -/
def reserved? : Parse (Option String) := do
  let w := bareWord (← afterBlanks)
  pure (if reserved.contains w then some w else none)

/-- Puts the text of an alias in place of the word that comes next, again and again. It is
    an alias only if a command may start with it (`wanted`), or behind the text of an
    alias that ends in a blank; and never within its own text. -/
def expandAliases (overLines wanted : Bool) : Nat → Parse Unit
  | 0 => pure ()
  | fuel + 1 => do
    if overLines then skipLines fuel
    let rest ← afterBlanks
    let s ← get
    if s.aliases.isEmpty then return
    let (open_, ended) := s.within.partition fun u => rest.length > u.after
    set { s with within := open_ }
    let word := bareWord rest
    if !(wanted || ended.any (·.opensNext)) || reserved.contains word ||
        open_.any (·.name == word) then return
    match s.aliases.lookup word with
    | none => pure ()
    | some text => do
      let after := rest.drop word.length
      let blank := text.toList.getLast?.any fun c => c == ' ' || c == '\t'
      set { s with
        rest := text.toList ++ after, within := ⟨word, after.length, blank⟩ :: open_ }
      expandAliases overLines true fuel

/-- Makes the next word the first one of a command, which aliases may stand for. -/
def startCommand (overLines : Bool) : Parse Unit := do
  let s ← get
  expandAliases overLines true (s.rest.length + s.aliases.length + 1)

/-- Makes the next word one that an alias stands for only behind another one. -/
def nextWord (wanted : Bool) : Parse Unit := do
  expandAliases false wanted ((← get).aliases.length + 1)

/-- The operator that a text starts with. -/
def operator? (s : List Char) : Option String :=
  ["&&", "||", ";;", "<<-", "<<", ">>", "<&", ">&", "<>", ">|", "\n", ";", "&", "|", "<", ">",
    "(", ")"].find? (·.toList.isPrefixOf s)

/-- Refuses the next token, with what should stand there, if there is only one such thing.
    Some words may be `reserving` there. -/
def unexpected {α : Type} (reserving : Bool) (instead : Option String) : Parse α := do
  let s ← afterBlanks
  let token :=
    if s.isEmpty then "end of file"
    else match operator? s with
    | some "\n" => "newline"
    | some op => if "<>".toList.any op.toList.contains then "redirection" else "\"" ++ op ++ "\""
    | none =>
      if reserving && reserved.contains (bareWord s) then "\"" ++ bareWord s ++ "\""
      else "word"
  refuse (token ++ " unexpected" ++ match instead with
    | some w => " (expecting " ++ w ++ ")"
    | none => "")

/-- Refuses the next token where a word without a meaning of its own should stand. -/
def expectText {α : Type} : Parse α := unexpected false (some "word")

/-- Moves over a reserved word, which must come next. -/
def expectWord (w : String) : Parse Unit := do
  if (← reserved?) == some w then advance w.length
  else unexpected true (some ("\"" ++ w ++ "\""))

/-- Moves over an operator if it comes next. -/
def takeOperator (op : String) : Parse Bool := do
  if operator? (← afterBlanks) == some op then
    advance op.length
    pure true
  else pure false

/-- Moves over an operator, which must come next; a reserved word there has its meaning
    behind commands (`reserving`). -/
def expectOperator (reserving : Bool) (op : String) : Parse Unit := do
  if !(← takeOperator op) then unexpected reserving (some ("\"" ++ op ++ "\""))

/-- What comes next ends the commands before it. -/
def endsCommands : Parse Bool := do
  let ending : Bool := (operator? (← afterBlanks)).any ([")", ";;"].contains ·)
  let word ← reserved?
  pure (ending ||
    word.any (["then", "elif", "else", "fi", "do", "done", "esac", "\x7d"].contains ·))

/-! ## Words -/

/-- Where the parts of a word are read. -/
inductive Context where
  | word
  | double
  | here
  | brace (quoted : Bool)
  | arithmetic (depth : Nat)

/-- The parts are protected from splitting and patterns. -/
def Context.quoted : Context → Bool
  | word => false
  | brace quoted => quoted
  | double | here | arithmetic _ => true

/-- Adds text to parts that are kept in reverse order. -/
def addText (parts : List Part) (s : String) (quoted : Bool) : List Part :=
  match parts with
  | .text t q :: ps => if q == quoted then .text (t ++ s) q :: ps else .text s quoted :: parts
  | ps => .text s quoted :: ps

/-- The characters that a backslash protects between double quotes. -/
def Context.escapes : Context → List Char
  | double => ['$', '\x60', '"', '\\']
  | brace _ => ['$', '\x60', '"', '\\', '\x7d']
  | _ => ['$', '\x60', '\\']

/-- The text between backquotes, without the backslashes that protect in it and the escaped
    line ends; `none` if it does not end. Within quotes, quotes too can be protected. -/
def backquoted (quoted : Bool) : List Char → List Char → Option (List Char)
  | _, [] => none
  | text, '\x60' :: _ => some text.reverse
  | text, '\\' :: '\n' :: r => backquoted quoted text r
  | text, '\\' :: c :: r =>
    if ['$', '\x60', '\\'].contains c || quoted && c == '"' then backquoted quoted (c :: text) r
    else backquoted quoted (c :: '\\' :: text) r
  | text, c :: r => backquoted quoted (c :: text) r

/-- The length of a text between backquotes with its end. -/
def backquotedLength : List Char → Nat
  | [] => 0
  | '\x60' :: _ => 1
  | '\\' :: _ :: r => backquotedLength r + 2
  | _ :: r => backquotedLength r + 1

/-- The length of the name of a parameter. -/
def paramLength (s : List Char) : Nat :=
  match s with
  | [] => 0
  | c :: _ =>
    if "@*#?-$!".contains c then 1
    else if c.isDigit then (s.takeWhile Char.isDigit).length
    else (s.takeWhile isNameChar).length

/-- What is asked of a parameter, and the length of the operator that asks. -/
def paramUse : List Char → Option (ParamUse × Nat)
  | ':' :: '-' :: _ => some (.orElse true, 2)
  | ':' :: '=' :: _ => some (.orAssign true, 2)
  | ':' :: '?' :: _ => some (.orFail true, 2)
  | ':' :: '+' :: _ => some (.ifSet true, 2)
  | '-' :: _ => some (.orElse false, 1)
  | '=' :: _ => some (.orAssign false, 1)
  | '?' :: _ => some (.orFail false, 1)
  | '+' :: _ => some (.ifSet false, 1)
  | '%' :: '%' :: _ => some (.withoutEnd true, 2)
  | '%' :: _ => some (.withoutEnd false, 1)
  | '#' :: '#' :: _ => some (.withoutStart true, 2)
  | '#' :: _ => some (.withoutStart false, 1)
  | _ => none

/-- The lines of a here-document up to its end, and the text after it. -/
def hereLines (stop : List Char) (stripTabs : Bool) :
    Nat → List Char → List Char → List Char × List Char
  | 0, body, s => (body, s)
  | fuel + 1, body, s =>
    if s.isEmpty then (body, [])
    else
      let line := s.takeWhile (· ≠ '\n')
      let after := s.dropWhile (· ≠ '\n')
      let line := if stripTabs then line.dropWhile (· == '\t') else line
      if line == stop then (body, after.drop 1)
      else hereLines stop stripTabs fuel (body ++ line ++ after.take 1) (after.drop 1)

/-- A word that is an assignment: its name, and the value. -/
def assignment? : Word → Option (String × Word)
  | .text s false :: ps =>
    let name := s.toList.takeWhile (· ≠ '=')
    match s.toList.dropWhile (· ≠ '=') with
    | _ :: value =>
      if isName name then
        some (String.ofList name,
          if value.isEmpty then ps else .text (String.ofList value) false :: ps)
      else none
    | [] => none
  | _ => none

/-- The descriptor, of one digit, and the operator of a redirection that a text starts
    with. -/
def redirection? (s : List Char) : Option (Option Nat × String) :=
  let digits := s.takeWhile Char.isDigit
  let known := ["<<-", "<<", ">>", "<&", ">&", "<>", ">|", "<", ">"]
  if digits.length > 1 then none
  else (known.find? (·.toList.isPrefixOf (s.drop digits.length))).map fun op =>
    (if digits.isEmpty then none else some (digits.foldl (fun n d => n * 10 + (d.toNat - 48)) 0),
      op)

/-- What an operator redirects, and the descriptor if none is given. -/
def redirectKind (op : String) : RedirectKind × Nat :=
  match op with
  | "<" => (.read, 0)
  | "<&" => (.copy, 0)
  | "<>" => (.readWrite, 0)
  | ">>" => (.append, 1)
  | ">&" => (.copy, 1)
  | "<<" | "<<-" => (.here, 0)
  | ">|" => (.write true, 1)
  | _ => (.write false, 1)

/-- Puts a command before a sequence. -/
def prependTo (c : Command) : Command → Command
  | .sequence cs => .sequence (c :: cs)
  | d => .sequence [c, d]

/-! ## Commands -/

mutual

/-- Reads the parts of a word up to the end of their context. -/
def parts (context : Context) : Nat → List Part → Parse (List Part)
  | 0, _ => refuse "Unterminated quoted string"
  | fuel + 1, ps => do
    let quoted := context.quoted
    match context, (← get).rest with
    | .word, [] | .here, [] => pure ps.reverse
    | .double, [] => refuse "Unterminated quoted string"
    | .brace _, [] => refuse "Missing '\x7d'"
    | .arithmetic _, [] => refuse "Missing '))'"
    | _, '\\' :: '\n' :: _ => do
      advance 2
      parts context fuel ps
    | _, '\\' :: c :: _ => do
      let kept := quoted && !context.escapes.contains c
      advance 2
      parts context fuel
        (addText ps (if kept then String.ofList ['\\', c] else c.toString) true)
    | _, '$' :: _ => do
      advance 1
      let p ← dollar quoted fuel
      parts context fuel (match p with
        | .text s q => addText ps s q
        | p => p :: ps)
    | _, '\x60' :: s => do
      match backquoted quoted [] s with
      | none => refuse "EOF in backquote substitution"
      | some text => do
        advance (backquotedLength s + 1)
        let s ← get
        match (list true fuel).run (s.inner text 1) with
        | .error e => throw e
        | .ok (c, _) => parts context fuel (.output c quoted :: ps)
    | .double, '"' :: _ => do
      advance 1
      pure ps.reverse
    | .brace _, '\x7d' :: _ => do
      advance 1
      pure ps.reverse
    | .arithmetic 0, ')' :: ')' :: _ => do
      advance 2
      pure ps.reverse
    | .arithmetic depth, '(' :: _ => do
      advance 1
      parts (.arithmetic (depth + 1)) fuel (addText ps "(" true)
    | .arithmetic depth, ')' :: _ => do
      advance 1
      parts (.arithmetic (depth - 1)) fuel (addText ps ")" true)
    | .word, '"' :: _ | .brace _, '"' :: _ => do
      advance 1
      let inside ← parts .double fuel []
      -- Only all the arguments by themselves can be no argument at all.
      parts context fuel (match inside with
        | [.param "@" .value _ _] => inside ++ ps
        | _ => inside.reverse ++ .text "" true :: ps)
    | .word, '\'' :: s | .brace false, '\'' :: s => do
      let text := s.takeWhile (· ≠ '\'')
      if text.length = s.length then refuse "Unterminated quoted string"
      advance (text.length + 2)
      parts context fuel (addText ps (String.ofList text) true)
    | .word, c :: _ =>
      if isMeta c then pure ps.reverse
      else do
        advance 1
        parts context fuel (addText ps c.toString false)
    | _, c :: _ => do
      advance 1
      parts context fuel (addText ps c.toString quoted)

/-- Reads what follows a dollar sign. -/
def dollar (quoted : Bool) : Nat → Parse Part
  | 0 => refuse "Unterminated quoted string"
  | fuel + 1 => do
    match (← get).rest with
    | '(' :: '(' :: _ => do
      advance 2
      let ps ← parts (.arithmetic 0) fuel []
      pure (.arithmetic ps quoted)
    | '(' :: _ => do
      advance 1
      let c ← list true fuel
      expectOperator true ")"
      pure (.output c quoted)
    | '\x7b' :: '#' :: '\x7d' :: _ => do
      advance 3
      pure (.param "#" .value [] quoted)
    | '\x7b' :: '#' :: s => do
      let n := paramLength s
      if n = 0 || (s.drop n).head? ≠ some '\x7d' then
        let _ ← parts (.brace quoted) fuel []
        pure .bad
      else
        advance (n + 3)
        pure (.param (String.ofList (s.take n)) .length [] quoted)
    | '\x7b' :: s => do
      let n := paramLength s
      let name := String.ofList (s.take n)
      advance (n + 1)
      let rest := (← get).rest
      match if n = 0 then [] else rest with
      | '\x7d' :: _ => do
        advance 1
        pure (.param name .value [] quoted)
      | s =>
        match paramUse s with
        | none => do
          let _ ← parts (.brace quoted) fuel []
          pure .bad
        | some (use, m) => do
          advance m
          let inner := match use with
            | .withoutStart _ | .withoutEnd _ => false
            | _ => quoted
          let ps ← parts (.brace inner) fuel []
          pure (.param name use ps quoted)
    | s => do
      let n := match s with
        | c :: _ => if c.isDigit then 1 else paramLength s
        | [] => 0
      if n = 0 then pure (.text "$" quoted)
      else do
        advance n
        pure (.param (String.ofList (s.take n)) .value [] quoted)

/-- Reads commands up to what ends them, or to the end of the text. Only if they are
    `optional` there may be none in front of what ends them. -/
def list (optional : Bool) : Nat → Parse Command
  | 0 => refuse "end of file unexpected"
  | fuel + 1 => do
    startCommand true
    let ending ← endsCommands
    if (← get).rest.isEmpty || optional && ending then pure (.sequence [])
    else do
      let c ← andOr fuel
      match operator? (← afterBlanks) with
      | some "&" => do
        advance 1
        prependTo (.background c) <$> list true fuel
      | some ";" | some "\n" => do
        advance 1
        prependTo c <$> list true fuel
      | _ => pure (.sequence [c])

/-- Reads pipelines joined by conditions. -/
def andOr : Nat → Parse Command
  | 0 => refuse "end of file unexpected"
  | fuel + 1 => do
    let c ← pipeline fuel
    andOrRest c fuel

/-- Reads the pipelines that follow one. -/
def andOrRest (c : Command) : Nat → Parse Command
  | 0 => refuse "end of file unexpected"
  | fuel + 1 => do
    if ← takeOperator "&&" then
      startCommand true
      let d ← pipeline fuel
      andOrRest (.and c d) fuel
    else if ← takeOperator "||" then
      startCommand true
      let d ← pipeline fuel
      andOrRest (.or c d) fuel
    else pure c

/-- Reads a pipeline. -/
def pipeline : Nat → Parse Command
  | 0 => refuse "end of file unexpected"
  | fuel + 1 => do
    startCommand false
    if (← reserved?) == some "!" then
      advance 1
      startCommand false
      .not <$> piped fuel
    else piped fuel

/-- Reads commands with pipes between them. -/
def piped : Nat → Parse Command
  | 0 => refuse "end of file unexpected"
  | fuel + 1 => do
    let c ← command fuel
    if ← takeOperator "|" then
      startCommand true
      .pipe c <$> piped fuel
    else pure c

/-- Reads the redirections after a command. -/
def redirects : Nat → Parse (List Redirect)
  | 0 => pure []
  | fuel + 1 => do
    match redirection? (← afterBlanks) with
    | none => pure []
    | some (d, op) => do
      let r ← redirect d op fuel
      let rs ← redirects fuel
      pure (r :: rs)

/-- Reads a redirection. -/
def redirect (descriptor : Option Nat) (op : String) : Nat → Parse Redirect
  | 0 => refuse "end of file unexpected"
  | fuel + 1 => do
    advance (op.length + ((← get).rest.takeWhile Char.isDigit).length)
    let _ ← afterBlanks
    let w ← parts .word fuel []
    if w.isEmpty then unexpected true none
    let (kind, usual) := redirectKind op
    if kind == .here then do
      let quoted := w.any fun
        | .text _ q => q
        | _ => false
      let stop := w.foldl (fun s p => match p with
        | .text t _ => s ++ t
        | _ => s) ""
      let s ← get
      let now := s.rest.takeWhile (· ≠ '\n')
      let lines := (s.rest.dropWhile (· ≠ '\n')).drop 1
      let (text, after) := hereLines stop.toList (op == "<<-") (s.rest.length + 1) [] lines
      let ends := (lines.take (lines.length - after.length)).count '\n'
      set { s with rest := now ++ '\n' :: after, taken := s.taken + ends }
      if quoted then pure (.mk (descriptor.getD usual) kind [.text (String.ofList text) true])
      else match (parts .here fuel []).run (s.inner text (s.line + 1 + s.taken)) with
        | .error e => throw e
        | .ok (ps, _) => pure (.mk (descriptor.getD usual) kind ps)
    else pure (.mk (descriptor.getD usual) kind w)

/-- Reads a command that is not a pipeline. -/
def command : Nat → Parse Command
  | 0 => refuse "end of file unexpected"
  | fuel + 1 => do
    let line := (← get).line
    let compound : Option Command ←
      if operator? (← afterBlanks) == some "(" then do
        advance 1
        let c ← list false fuel
        expectOperator true ")"
        pure (some (.subshell c))
      else match ← reserved? with
      | none => pure none
      | some "if" => do
        advance 2
        some <$> conditional fuel
      | some "while" => do
        advance 5
        some <$> loop false fuel
      | some "until" => do
        advance 5
        some <$> loop true fuel
      | some "for" => do
        advance 3
        some <$> forLoop fuel
      | some "case" => do
        advance 4
        some <$> caseOf fuel
      | some "\x7b" => do
        advance 1
        let c ← list false fuel
        expectWord "\x7d"
        pure (some c)
      | some _ => unexpected true none
    match compound with
    | none => simple none [] [] [] fuel
    | some c => do
      let rs ← redirects fuel
      pure (.inLine line (if rs.isEmpty then c else .redirected c rs))

/-- Reads the rest of a simple command, or of the definition of a function. The command is in
    the line where its first word ends. -/
def simple (line : Option Nat) (assignments : List (String × Word)) (words : List Word)
    (rs : List Redirect) : Nat → Parse Command
  | 0 => refuse "end of file unexpected"
  | fuel + 1 => do
    nextWord words.isEmpty
    let s ← afterBlanks
    match redirection? s with
    | some (d, op) => do
      let line := line.getD (← get).line
      let r ← redirect d op fuel
      simple line assignments words (rs ++ [r]) fuel
    | none => do
      let w ← parts .word fuel []
      let line := line.getD (← get).line
      if w.isEmpty then
        if assignments.isEmpty && words.isEmpty && rs.isEmpty then unexpected true none
        else pure (.simple line assignments words rs)
      else match words, assignment? w with
      | [], some a => simple line (assignments ++ [a]) words rs fuel
      | _, _ =>
        if words.isEmpty && assignments.isEmpty && operator? (← afterBlanks) == some "(" then do
          advance 1
          expectOperator false ")"
          match bareText? w with
          | none => refuse "Bad function name"
          | some name => do
            if !isName name.toList || specialCommands.contains name then
              refuse "Bad function name"
            startCommand true
            let c ← command fuel
            pure (.define name c)
        else simple line assignments (words ++ [w]) rs fuel

/-- Reads a conditional after its first word. -/
def conditional : Nat → Parse Command
  | 0 => refuse "end of file unexpected"
  | fuel + 1 => do
    let condition ← list false fuel
    expectWord "then"
    let yes ← list false fuel
    match ← reserved? with
    | some "elif" => do
      advance 4
      let no ← conditional fuel
      pure (.choice condition yes no)
    | some "else" => do
      advance 4
      let no ← list false fuel
      expectWord "fi"
      pure (.choice condition yes no)
    | _ => do
      expectWord "fi"
      pure (.choice condition yes (.sequence []))

/-- Reads the condition and the body of a loop. -/
def loop (until_ : Bool) : Nat → Parse Command
  | 0 => refuse "end of file unexpected"
  | fuel + 1 => do
    let condition ← list false fuel
    expectWord "do"
    let c ← list false fuel
    expectWord "done"
    pure (.repeat until_ condition c)

/-- Reads words up to the end of a line or a semicolon. -/
def words : Nat → Parse (List Word)
  | 0 => pure []
  | fuel + 1 => do
    nextWord false
    let _ ← afterBlanks
    let w ← parts .word fuel []
    if w.isEmpty then pure []
    else do
      let ws ← words fuel
      pure (w :: ws)

/-- Reads a loop over words after its first word. -/
def forLoop : Nat → Parse Command
  | 0 => refuse "end of file unexpected"
  | fuel + 1 => do
    let _ ← afterBlanks
    let w ← parts .word fuel []
    match bareText? w with
    | none => refuse "Bad for loop variable"
    | some name => do
      if !isName name.toList then refuse "Bad for loop variable"
      startCommand true
      let ws ← if (← reserved?) == some "in" then do
          advance 2
          let ws ← words fuel
          if !((operator? (← afterBlanks)).any (["\n", ";"].contains ·)) then unexpected true none
          pure (some ws)
        else pure none
      let _ ← takeOperator ";"
      startCommand true
      expectWord "do"
      let c ← list false fuel
      expectWord "done"
      pure (.each name ws c)

/-- Reads a selection after its first word. -/
def caseOf : Nat → Parse Command
  | 0 => refuse "end of file unexpected"
  | fuel + 1 => do
    let _ ← afterBlanks
    let w ← parts .word fuel []
    if w.isEmpty then expectText
    startCommand true
    expectWord "in"
    let arms ← caseArms fuel
    expectWord "esac"
    pure (.select w arms)

/-- Reads the arms of a selection. -/
def caseArms : Nat → Parse (List (List Word × Command))
  | 0 => pure []
  | fuel + 1 => do
    skipLines fuel
    if (← reserved?) == some "esac" then pure []
    else do
      let _ ← takeOperator "("
      let ps ← patterns fuel
      expectOperator false ")"
      let c ← list true fuel
      if (← reserved?) == some "esac" then pure [(ps, c)]
      else do
        expectOperator true ";;"
        let rest ← caseArms fuel
        pure ((ps, c) :: rest)

/-- Reads the patterns of an arm. -/
def patterns : Nat → Parse (List Word)
  | 0 => pure []
  | fuel + 1 => do
    let _ ← afterBlanks
    let p ← parts .word fuel []
    if p.isEmpty then unexpected false (some "\")\"")
    if ← takeOperator "|" then
      let ps ← patterns fuel
      pure (p :: ps)
    else pure [p]

end

/-- Reads commands up to the end of a line. -/
def lineCommands : Nat → Parse (List Command)
  | 0 => pure []
  | fuel + 1 => do
    startCommand false
    let s ← afterBlanks
    if s.isEmpty then pure []
    else if s.head? == some '\n' then
      advance 1
      pure []
    else do
      let c ← andOr (10 * s.length + 20)
      match operator? (← afterBlanks) with
      | some "&" => do
        advance 1
        let cs ← lineCommands fuel
        pure (.background c :: cs)
      | some ";" => do
        advance 1
        let cs ← lineCommands fuel
        pure (c :: cs)
      | some "\n" => do
        advance 1
        pure [c]
      | some _ => unexpected true none
      | none => if (← get).rest.isEmpty then pure [c] else unexpected true none

/-- Reads the next complete command, if there is one. -/
def nextLine : Parse (Option Command) := do
  let fuel := (← get).rest.length + 1
  skipLines fuel
  if (← get).rest.isEmpty then pure none
  else some <$> .sequence <$> lineCommands fuel

end Parse

end Runbook.Shell
