/-
  Binary floating-point numbers of 64 bits, as exact values.

  A finite number is `± mantissa · 2 ^ exponent` in its canonical form: the exponent is
  at least `-1074`, and the mantissa has 53 bits unless the exponent is that least one.

  * `ofRatio` rounds a quotient of naturals to the nearest number, half to even;
  * `ofDecimal` rounds `digits · 10 ^ exponent`;
  * `same` is equality as it is used for keys: the two zeros are one, and so is NaN.
-/

namespace Runbook

/-- A binary floating-point number of 64 bits. -/
inductive Binary64 where
  | nan
  | infinite (negative : Bool)
  | finite (negative : Bool) (mantissa : Nat) (exponent : Int)
  deriving DecidableEq, Repr

namespace Binary64

/-- The least exponent of a finite number. -/
def leastExponent : Int := -1074

/-- The greatest exponent of a finite number. -/
def greatestExponent : Int := 971

/-- A quotient rounded to the nearest natural, half to even. -/
def roundHalfEven (n d : Nat) : Nat :=
  let q := n / d
  let r := n % d
  if 2 * r < d then q else if d < 2 * r then q + 1 else if q % 2 = 0 then q else q + 1

/-- The greatest `e` with `2 ^ e ≤ n / d`, for positive `n` and `d`. -/
def floorLog2 (n d : Nat) : Int :=
  let e : Int := (Nat.log2 n : Int) - (Nat.log2 d : Int)
  if n * Nat.pow 2 (-e).toNat < d * Nat.pow 2 e.toNat then e - 1 else e

/-- The number nearest to `± n / d`, for a positive `d`. -/
def ofRatio (negative : Bool) (n d : Nat) : Binary64 :=
  if n = 0 then .finite negative 0 leastExponent
  else
    let e := max (floorLog2 n d - 52) leastExponent
    let m := roundHalfEven (n * Nat.pow 2 (-e).toNat) (d * Nat.pow 2 e.toNat)
    let (m, e) := if m = Nat.pow 2 53 then (Nat.pow 2 52, e + 1) else (m, e)
    if greatestExponent < e then .infinite negative else .finite negative m e

/-- The number nearest to `± digits · 10 ^ exponent`. Exponents far outside the range
    are answered without building the power. -/
def ofDecimal (negative : Bool) (digits : Nat) (exponent : Int) : Binary64 :=
  if digits = 0 then .finite negative 0 leastExponent
  else
    let size : Int := (Nat.toDigits 10 digits).length
    if 310 < size + exponent then .infinite negative
    else if size + exponent < -330 then .finite negative 0 leastExponent
    else ofRatio negative (digits * Nat.pow 10 exponent.toNat) (Nat.pow 10 (-exponent).toNat)

/-- Equality of numbers as keys: the two zeros are equal, and NaN equals itself. -/
def same : Binary64 → Binary64 → Bool
  | .nan, .nan => true
  | .infinite a, .infinite b => a == b
  | .finite a m e, .finite b n f => (m == 0 && n == 0) || (a == b && m == n && e == f)
  | _, _ => false

/-- The number is neither infinite nor NaN. -/
def isFinite : Binary64 → Bool
  | .finite .. => true
  | _ => false

end Binary64

end Runbook
