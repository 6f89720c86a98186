/-
  The conditions of `test`: what lies at a path, and comparisons of texts and numbers.
-/
import Runbook.Machine.Files
import Runbook.Shell.Format

namespace Runbook.Shell

/-- Where paths are looked up. -/
structure Lookup where
  files : Files
  cwd : Path

/-- Operators of one operand. -/
def isUnary (op : String) : Bool :=
  ["-n", "-z", "-e", "-f", "-d", "-r", "-w", "-x", "-s", "-L", "-h", "-p", "-S", "-b", "-c",
    "-t"].contains op

/-- Operators of two operands. -/
def isBinary (op : String) : Bool :=
  ["=", "!=", "-eq", "-ne", "-lt", "-le", "-gt", "-ge", "<", ">", "-ef", "-nt",
    "-ot"].contains op

/-- A condition on one operand. -/
def unaryHolds (l : Lookup) (op s : String) : Bool :=
  let file := (l.files.findText l.cwd s).toOption
  match op with
  | "-n" => !s.isEmpty
  | "-z" => s.isEmpty
  | "-e" | "-r" | "-w" => file.isSome
  | "-f" =>
    match file with
    | some (.regular _ _) | some (.program _) => true
    | _ => false
  | "-d" => file == some .directory
  | "-x" =>
    match file with
    | some (.regular _ x) => x
    | some (.program _) | some .directory => true
    | _ => false
  | "-s" =>
    match file with
    | some (.regular content _) => !content.isEmpty
    | some (.program _) | some .directory => true
    | _ => false
  | "-c" => file == some .null
  | _ => false

/-- The integer that an operand is, within 64 bits: decimal digits with a sign, and blanks
    around them. -/
def operandNumber (s : String) : Except String Int :=
  let (negative, ds) := match Text.dropEndWhile isSpace (s.toList.dropWhile isSpace) with
    | '-' :: r => (true, r)
    | '+' :: r => (false, r)
    | r => (false, r)
  let n : Int := Number.ofDigits ds
  let n := if negative then -n else n
  if ds.isEmpty || !ds.all Char.isDigit || n ≠ Int.bmod n (Nat.pow 2 64) then
    .error ("Illegal number: " ++ s)
  else .ok n

/-- A condition on two operands. -/
def binaryHolds (l : Lookup) (op a b : String) : Except String Bool := do
  let there (s : String) : Bool := (l.files.findText l.cwd s).isOk
  match op with
  | "-ef" => pure (there a && there b && Path.of l.cwd a == Path.of l.cwd b)
  | "-nt" => pure (there a && !there b)
  | "-ot" => pure (!there a && there b)
  | "=" => pure (a == b)
  | "!=" => pure (a != b)
  | "<" => pure (a < b)
  | ">" => pure (b < a)
  | _ =>
    let m ← operandNumber a
    let n ← operandNumber b
    pure (match op with
      | "-eq" => m == n
      | "-ne" => m != n
      | "-lt" => m < n
      | "-le" => m ≤ n
      | "-gt" => m > n
      | _ => m ≥ n)

/-- What a word means where a condition, or an operator behind one, can stand. -/
inductive TestToken where
  | missing
  | negation
  | both
  | either
  | opening
  | closing
  | unary
  | operand

/-- What the first of some words means. An operator of one operand is a text itself if
    nothing follows it, or an operator of two operands with another operand. -/
def testToken : List String → TestToken
  | [] => .missing
  | "!" :: _ => .negation
  | "-a" :: _ => .both
  | "-o" :: _ => .either
  | ["("] => .operand
  | "(" :: _ => .opening
  | ")" :: _ => .closing
  | w :: rest =>
    let isText := match rest with
      | [] => true
      | [_] => false
      | op :: _ => isBinary op
    if isUnary w && !isText then .unary else .operand

/-! Readers of conditions answer the words from the last one of the condition on. -/

mutual

/-- Reads conditions of which one must hold. -/
def anyHolds (l : Lookup) : Nat → TestToken → List String → Except String (Bool × List String)
  | 0, _, _ => .error "argument expected"
  | fuel + 1, t, ws => do
    let (a, ws) ← allHold l fuel t ws
    match testToken (ws.drop 1) with
    | .either => do
      let (b, ws) ← anyHolds l fuel (testToken (ws.drop 2)) (ws.drop 2)
      pure (a || b, ws)
    | _ => pure (a, ws)

/-- Reads conditions that must all hold. -/
def allHold (l : Lookup) : Nat → TestToken → List String → Except String (Bool × List String)
  | 0, _, _ => .error "argument expected"
  | fuel + 1, t, ws => do
    let (a, ws) ← oneHolds l fuel t ws
    match testToken (ws.drop 1) with
    | .both => do
      let (b, ws) ← allHold l fuel (testToken (ws.drop 2)) (ws.drop 2)
      pure (a && b, ws)
    | _ => pure (a, ws)

/-- Reads one condition. -/
def oneHolds (l : Lookup) : Nat → TestToken → List String → Except String (Bool × List String)
  | 0, _, _ => .error "argument expected"
  | fuel + 1, t, ws => do
    let next := ws.drop 1
    match t, ws with
    | .missing, _ | _, [] => pure (false, ws)
    | .negation, _ =>
      let (r, ws) ← oneHolds l fuel (testToken next) (if next.isEmpty then ws else next)
      pure (!r, ws)
    | .opening, _ =>
      match testToken next with
      | .closing => pure (false, next)
      | t => do
        let (r, ws) ← anyHolds l fuel t next
        match testToken (ws.drop 1) with
        | .closing => pure (r, ws.drop 1)
        | _ => throw "closing paren expected"
    | .unary, op :: a :: rest => pure (unaryHolds l op a, a :: rest)
    | _, a :: op :: rest =>
      if isBinary op then
        match rest with
        | b :: rest => do
          let r ← binaryHolds l op a b
          pure (r, b :: rest)
        | [] => throw (op ++ ": argument expected")
      else pure (!a.isEmpty, ws)
    | _, [a] => pure (!a.isEmpty, ws)

end

/-- Reads all words as a condition. Of three words the one in the middle is the operator if
    it can be; else three or four words may stand in parentheses or behind a negation, which
    `negated` counts once. -/
def testWords (l : Lookup) (negated : Bool) : Nat → List String → Except String Bool
  | 0, _ => .error "argument expected"
  | fuel + 1, ws => do
    let short := ws.length = 3 || ws.length = 4
    let compares := ws.length = 3 && isBinary (ws.getD 1 "")
    if short && !compares && ws.head? == some "(" && ws.getLast? == some ")" then
      testWords l negated fuel ws.dropLast.tail
    else if short && !compares && ws.head? == some "!" then testWords l true fuel ws.tail
    else do
      let token := if compares then .operand else testToken ws
      let (r, rest) ← anyHolds l (4 * ws.length + 4) token ws
      match rest with
      | w :: _ :: _ => throw (w ++ ": unexpected operator")
      | _ => pure (r != negated)

/-- A condition holds. -/
def testHolds (l : Lookup) (args : List String) : Except String Bool :=
  if args.isEmpty then .ok false else testWords l false (args.length + 1) args

end Runbook.Shell
