/-
  The numbers of a document: integers and binary floating-point numbers.

  `Number.text` is how a number reads when it is used as a command or as a setting.
-/
import Runbook.Number.Shortest

namespace Runbook

/-- A number in a document. -/
inductive Number where
  | integer (n : Int)
  | real (x : Binary64)
  deriving DecidableEq, Repr

namespace Number

/-- The text of a number. -/
def text : Number → String
  | .integer n => toString n
  | .real x => x.text

/-- Equality of numbers as keys; an integer never equals a floating-point number. -/
def same : Number → Number → Bool
  | .integer m, .integer n => m == n
  | .real x, .real y => x.same y
  | _, _ => false

/-- A decimal digit. -/
def isDigit (c : Char) : Bool := '0' ≤ c && c ≤ '9'

/-- The value of a list of decimal digits. -/
def ofDigits (ds : List Char) : Nat := ds.foldl (fun n d => n * 10 + (d.toNat - 48)) 0

/-- The parts of a decimal numeral: digits, and the power of ten they are scaled by. -/
structure Numeral where
  digits : Nat
  exponent : Int
  deriving DecidableEq, Repr

/-- Reads an exponent: an optional sign and at least one digit. -/
def exponent? (s : List Char) : Option Int :=
  let (negative, ds) := match s with
    | '-' :: r => (true, r)
    | '+' :: r => (false, r)
    | r => (false, r)
  if ds.isEmpty || !ds.all isDigit then none
  else some (if negative then -(ofDigits ds : Int) else ofDigits ds)

/-- Reads an unsigned decimal numeral: digits with a point among, before or after them,
    and an exponent that starts with `e` or `E`. -/
def numeral? (s : List Char) : Option Numeral :=
  let whole := s.takeWhile isDigit
  let rest := s.dropWhile isDigit
  let (part, rest) := match rest with
    | '.' :: r => (r.takeWhile isDigit, r.dropWhile isDigit)
    | r => ([], r)
  if whole.isEmpty && part.isEmpty then none
  else
    let scaled (e : Int) : Numeral := ⟨ofDigits (whole ++ part), e - part.length⟩
    match rest with
    | [] => some (scaled 0)
    | c :: r => if c = 'e' ∨ c = 'E' then (exponent? r).map scaled else none

/-- Reads a floating-point number in decimal, or one of the words for infinity and for
    no number, in any case of letters and with an optional sign. -/
def real? (s : List Char) : Option Binary64 :=
  let (negative, body) := match s with
    | '-' :: r => (true, r)
    | '+' :: r => (false, r)
    | r => (false, r)
  let word := String.ofList (body.map Char.toLower)
  if word = "inf" ∨ word = "infinity" then some (.infinite negative)
  else if word = "nan" then some .nan
  else (numeral? body).map fun n => Binary64.ofDecimal negative n.digits n.exponent

end Number

end Runbook
