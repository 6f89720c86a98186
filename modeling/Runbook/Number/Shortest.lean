/-
  The shortest decimal text that reads back as a given binary number.

  * `shortest` searches the grids of one, two, … seventeen significant digits; on each it
    tries the two neighbours of the value, and the first grid with a neighbour that
    rounds to the number wins, the nearer of two such neighbours, of two equally near
    ones the even one;
  * `Binary64.text` lays the digits out: positional when the point falls from five places
    before to sixteen places after the first digit, with an exponent otherwise.
-/
import Runbook.Number.Binary64

namespace Runbook

namespace Binary64

/-- A positive rational `num / den`. -/
structure Ratio where
  num : Nat
  den : Nat
  deriving DecidableEq, Repr

/-- `m · 2 ^ e`. -/
def Ratio.binary (m : Nat) (e : Int) : Ratio := ⟨m * Nat.pow 2 e.toNat, Nat.pow 2 (-e).toNat⟩

/-- `c · 10 ^ p`. -/
def Ratio.decimal (c : Nat) (p : Int) : Ratio := ⟨c * Nat.pow 10 p.toNat, Nat.pow 10 (-p).toNat⟩

/-- The order of two ratios. -/
def Ratio.le (a b : Ratio) : Bool := a.num * b.den ≤ b.num * a.den

/-- The strict order of two ratios. -/
def Ratio.lt (a b : Ratio) : Bool := a.num * b.den < b.num * a.den

/-- The rationals that round to a finite number: the two ends, and whether the ends
    belong to them. -/
structure Interval where
  low : Ratio
  high : Ratio
  closed : Bool

/-- The interval of `mantissa · 2 ^ exponent`. The gap below a power of two is half as
    wide as the gap above it, unless the exponent is the least one. -/
def Interval.of (m : Nat) (e : Int) : Interval where
  low := Ratio.binary (if m = Nat.pow 2 52 ∧ leastExponent < e then 4 * m - 1 else 4 * m - 2) (e - 2)
  high := Ratio.binary (4 * m + 2) (e - 2)
  closed := m % 2 = 0

/-- A rational lies in an interval. -/
def Interval.has (i : Interval) (r : Ratio) : Bool :=
  if i.closed then i.low.le r && r.le i.high else i.low.lt r && r.lt i.high

/-- The greatest `p` with `10 ^ p ≤ v`: an estimate, set right by one step at most. -/
def floorLog10 (v : Ratio) : Int :=
  let estimate := ((Nat.log2 v.num : Int) - (Nat.log2 v.den : Int)) * 30103 / 100000
  if (Ratio.decimal 1 (estimate + 1)).le v then estimate + 1
  else if (Ratio.decimal 1 estimate).le v then estimate
  else estimate - 1

/-- Twice the distance of `c · 10 ^ p` below `v` is at most the step of the grid, and
    an exact half counts when `c` is even. -/
def nearerBelow (v : Ratio) (c : Nat) (p : Int) : Bool :=
  let middle := Ratio.decimal (2 * c + 1) p
  let twice : Ratio := ⟨2 * v.num, v.den⟩
  twice.lt middle || (!middle.lt twice && c % 2 == 0)

/-- The point of the grid with step `10 ^ p` that stands for `v`, if one does. -/
def onGrid (v : Ratio) (i : Interval) (p : Int) : Option Nat :=
  let c := v.num * Nat.pow 10 (-p).toNat / (v.den * Nat.pow 10 p.toNat)
  let below := i.has (Ratio.decimal c p)
  let above := i.has (Ratio.decimal (c + 1) p)
  if below && above then some (if nearerBelow v c p then c else c + 1)
  else if below then some c
  else if above then some (c + 1)
  else none

/-- Drops zeros at the end of a positive number and counts them in the exponent. -/
def dropZeros : Nat → Nat → Int → Nat × Int
  | 0, c, p => (c, p)
  | fuel + 1, c, p => if c ≠ 0 ∧ c % 10 = 0 then dropZeros fuel (c / 10) (p + 1) else (c, p)

/-- The first of the grids of `size`, `size + 1`, … digits with a point for `v`. -/
def firstGrid (v : Ratio) (i : Interval) (top : Int) : Nat → Nat → Nat × Int
  | 0, _ => (0, 0)
  | fuel + 1, size =>
    let p := top - size + 1
    match onGrid v i p with
    | some c => dropZeros 20 c p
    | none => firstGrid v i top fuel (size + 1)

/-- The digits and the exponent of the shortest decimal that reads back as
    `mantissa · 2 ^ exponent`, for a positive mantissa. -/
def shortest (m : Nat) (e : Int) : Nat × Int :=
  let v := Ratio.binary m e
  firstGrid v (Interval.of m e) (floorLog10 v) 17 1

/-- How far left of its first digit the point may stand in positional text. -/
def positionalLeast : Int := -5

/-- How far right of its first digit the point may stand in positional text. -/
def positionalMost : Int := 16

/-- The text of `digits · 10 ^ exponent`: positional within the limits above, with at
    least one place after the point; otherwise one digit before the point and an exponent. -/
def layOut (digits : Nat) (exponent : Int) : String :=
  let ds := Nat.toDigits 10 digits
  let point : Int := ds.length + exponent
  if 0 ≤ exponent ∧ point ≤ positionalMost then
    String.ofList (ds ++ List.replicate exponent.toNat '0') ++ ".0"
  else if 0 < point ∧ point ≤ positionalMost then
    String.ofList (ds.take point.toNat) ++ "." ++ String.ofList (ds.drop point.toNat)
  else if positionalLeast < point ∧ point ≤ 0 then
    "0." ++ String.ofList (List.replicate (-point).toNat '0' ++ ds)
  else
    let rest := ds.drop 1
    String.ofList (ds.take 1) ++ (if rest.isEmpty then "" else "." ++ String.ofList rest)
      ++ "e" ++ toString (point - 1)

/-- The text of a number, as it is written in a document. -/
def text : Binary64 → String
  | .nan => ".nan"
  | .infinite negative => if negative then "-.inf" else ".inf"
  | .finite negative m e =>
    let sign := if negative then "-" else ""
    if m = 0 then sign ++ "0.0"
    else
      let (digits, exponent) := shortest m e
      sign ++ layOut digits exponent

end Binary64

end Runbook
