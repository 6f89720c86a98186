/-
  Arithmetic of the shell: integers of 64 bits with the operators of expressions,
  variables, and assignments.

  `Arithmetic.read` reads an expression and `Expr.value` evaluates it over the values of
  variables; a variable without a value is zero.
-/
import Runbook.Text.Bytes

namespace Runbook.Shell

/-- An arithmetic expression. -/
inductive Expr where
  | number (n : Int)
  | named (x : String)
  | unary (op : String) (e : Expr)
  | binary (op : String) (a b : Expr)
  | choice (condition yes no : Expr)
  | assign (name : String) (e : Expr)

namespace Arithmetic

/-- The operators of two operands, the loosest first. -/
def levels : List (List String) :=
  [["||"], ["&&"], ["|"], ["^"], ["&"], ["==", "!="], ["<=", ">=", "<", ">"], ["<<", ">>"],
    ["+", "-"], ["*", "/", "%"]]

/-- All operators, those that start with another one first. -/
def operators : List String :=
  ["<<=", ">>=", "||", "&&", "==", "!=", "<=", ">=", "<<", ">>", "+=", "-=", "*=", "/=", "%=",
    "&=", "|=", "^=", "+", "-", "*", "/", "%", "<", ">", "=", "&", "|", "^", "!", "~", "?", ":",
    "(", ")"]

/-- Text without the blanks at its start. -/
def skip (s : List Char) : List Char := s.dropWhile fun c => c == ' ' || c == '\t' || c == '\n'

/-- The operator that comes next, and what follows it. -/
def operator? (s : List Char) : Option (String × List Char) :=
  (operators.find? (·.toList.isPrefixOf (skip s))).map fun op => (op, (skip s).drop op.length)

/-- The value of digits in a base. -/
def ofDigits (base : Nat) (ds : List Char) : Nat :=
  ds.foldl (fun n d => n * base + (Bytes.hexValue? d).getD 0) 0

/-- The number that a text starts with, no larger than 63 bits allow, and what follows it:
    octal after a zero, hexadecimal after `0x`. -/
def number (s : List Char) : Nat × List Char :=
  let read (base : Nat) (s : List Char) : Nat × List Char :=
    let ds := s.takeWhile fun c => (Bytes.hexValue? c).any (· < base)
    (min (ofDigits base ds) (Nat.pow 2 63 - 1), s.drop ds.length)
  match s with
  | '0' :: x :: d :: r =>
    if (x == 'x' || x == 'X') && (Bytes.hexValue? d).isSome then read 16 (d :: r) else read 8 s
  | '0' :: _ => read 8 s
  | s => read 10 s

/-- An expression that is read, and what follows it; or what should have stood there. -/
abbrev Reading := Except String (Expr × List Char)

mutual

/-- Reads an expression. -/
def expression : Nat → List Char → Reading
  | 0, _ => .error "expecting primary"
  | fuel + 1, s =>
    let s := skip s
    let name := s.takeWhile fun c => c.isAlphanum || c == '_'
    let assigns (op : String) : Bool :=
      op.endsWith "=" && !(["==", "!=", "<=", ">="].contains op)
    match if name.head?.any (!·.isDigit) then operator? (s.drop name.length) else none with
    | some (op, rest) =>
      if assigns op then do
        let (e, rest) ← expression fuel rest
        let x := String.ofList name
        let e := if op == "=" then e else .binary (String.ofList op.toList.dropLast) (.named x) e
        pure (.assign x e, rest)
      else conditional fuel s
    | none => conditional fuel s

/-- Reads an expression that is no assignment. -/
def conditional : Nat → List Char → Reading
  | 0, _ => .error "expecting primary"
  | fuel + 1, s => do
    let (c, rest) ← level levels fuel s
    match operator? rest with
    | some ("?", rest) => do
      let (a, rest) ← expression fuel rest
      match operator? rest with
      | some (":", rest) => do
        let (b, rest) ← conditional fuel rest
        pure (.choice c a b, rest)
      | _ => throw "expecting ':'"
    | _ => pure (c, rest)

/-- Reads operands joined by operators of a level and tighter ones. -/
def level (ops : List (List String)) : Nat → List Char → Reading
  | 0, _ => .error "expecting primary"
  | fuel + 1, s =>
    match ops with
    | [] => operand fuel s
    | _ :: tighter => do
      let (a, rest) ← level tighter fuel s
      joined ops a fuel rest

/-- Reads the operands that follow one. -/
def joined (ops : List (List String)) (a : Expr) : Nat → List Char → Reading
  | 0, _ => .error "expecting primary"
  | fuel + 1, s =>
    match operator? s with
    | some (op, rest) =>
      if (ops.headD []).contains op then do
        let (b, rest) ← level (ops.drop 1) fuel rest
        joined ops (.binary op a b) fuel rest
      else pure (a, s)
    | none => pure (a, s)

/-- Reads an operand. -/
def operand : Nat → List Char → Reading
  | 0, _ => .error "expecting primary"
  | fuel + 1, s =>
    match operator? s with
    | some ("(", rest) => do
      let (e, rest) ← expression fuel rest
      match operator? rest with
      | some (")", rest) => pure (e, rest)
      | _ => throw "expecting ')'"
    | some (op, rest) =>
      if ["+", "-", "!", "~"].contains op then do
        let (e, rest) ← operand fuel rest
        pure (.unary op e, rest)
      else throw "expecting primary"
    | none =>
      let s := skip s
      match s.takeWhile fun c => c.isAlphanum || c == '_' with
      | [] => throw "expecting primary"
      | c :: word =>
        if c.isDigit then
          let (n, rest) := number s
          pure (.number n, rest)
        else pure (.named (String.ofList (c :: word)), s.drop (word.length + 1))

end

/-- Reads a whole text as an expression; an empty one is zero. A failure says what should
    have stood in the text. -/
def read (s : List Char) : Except String Expr := do
  if (skip s).isEmpty then pure (.number 0)
  else
    let (e, rest) ← expression (30 * s.length + 40) s
    if (skip rest).isEmpty then pure e else throw "expecting EOF"

/-- The value of a variable's text. -/
def variableValue (s : String) : Option Int :=
  let whole (ds : List Char) : Option Nat :=
    match number ds with
    | (n, []) => if ds.isEmpty then none else some n
    | _ => none
  match skip s.toList with
  | [] => some 0
  | '-' :: ds => (whole ds).map fun n => -(n : Int)
  | '+' :: ds => (whole ds).map (·)
  | ds => (whole ds).map (·)

/-- A truth value as a number. -/
def truth (b : Bool) : Int := if b then 1 else 0

/-- A number within 64 bits. -/
def wrap (n : Int) : Int := Int.bmod n (Nat.pow 2 64)

/-- The number that a bitwise operator gives. -/
def bitwise (op : Nat → Nat → Nat) (a b : Int) : Int :=
  wrap (op (a % Nat.pow 2 64).toNat (b % Nat.pow 2 64).toNat)

/-- Why an expression has no value. -/
inductive Fault where
  | divisionByZero
  | notANumber (text : String)
  | malformed

/-- Applies an operator of two operands. -/
def apply (op : String) (a b : Int) : Except Fault Int :=
  match op with
  | "+" => .ok (wrap (a + b))
  | "-" => .ok (wrap (a - b))
  | "*" => .ok (wrap (a * b))
  | "/" => if b = 0 then .error .divisionByZero else .ok (wrap (a.tdiv b))
  | "%" => if b = 0 then .error .divisionByZero else .ok (a.tmod b)
  | "==" => .ok (truth (a == b))
  | "!=" => .ok (truth (a != b))
  | "<" => .ok (truth (a < b))
  | ">" => .ok (truth (a > b))
  | "<=" => .ok (truth (a ≤ b))
  | ">=" => .ok (truth (a ≥ b))
  | "&" => .ok (bitwise (· &&& ·) a b)
  | "|" => .ok (bitwise (· ||| ·) a b)
  | "^" => .ok (bitwise (· ^^^ ·) a b)
  | "<<" => .ok (wrap (a * Nat.pow 2 (b % 64).toNat))
  | ">>" => .ok (a / Nat.pow 2 (b % 64).toNat)
  | "&&" => .ok (truth (a != 0 && b != 0))
  | "||" => .ok (truth (a != 0 || b != 0))
  | _ => .error .malformed

end Arithmetic

/-- The value of an expression, and the variables after its assignments. -/
def Expr.value (lookup : String → Option String) :
    Expr → List (String × Int) → Except Arithmetic.Fault (Int × List (String × Int))
  | number n, vs => .ok (Arithmetic.wrap n, vs)
  | named x, vs =>
    match vs.lookup x, lookup x with
    | some n, _ => .ok (n, vs)
    | none, some s =>
      match Arithmetic.variableValue s with
      | some n => .ok (n, vs)
      | none => .error (.notANumber s)
    | none, none => .ok (0, vs)
  | unary op e, vs => do
    let (n, vs) ← e.value lookup vs
    pure (match op with
      | "-" => Arithmetic.wrap (-n)
      | "!" => Arithmetic.truth (n == 0)
      | "~" => -n - 1
      | _ => n, vs)
  | binary op a b, vs => do
    let (m, vs) ← a.value lookup vs
    if op == "&&" && m == 0 then pure (0, vs)
    else if op == "||" && m != 0 then pure (1, vs)
    else do
      let (n, vs) ← b.value lookup vs
      let r ← Arithmetic.apply op m n
      pure (r, vs)
  | choice c a b, vs => do
    let (n, vs) ← c.value lookup vs
    if n != 0 then a.value lookup vs else b.value lookup vs
  | assign x e, vs => do
    let (n, vs) ← e.value lookup vs
    pure (n, (x, n) :: vs)

end Runbook.Shell
