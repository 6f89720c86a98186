/-
  Texts of numbers with a number of digits that is asked for.

  A ratio is rounded once, half to even:

  * `Ratio.fixed` has a number of places after the point;
  * `Ratio.scientific` has one digit before the point and a power of ten behind it;
  * `Ratio.general` has a number of digits in all, and takes the first layout unless the
    number is very large or very small.
-/
import Runbook.Number.Shortest

namespace Runbook.Binary64.Ratio

/-- Digits with a point in front of the last `places` of them. -/
def pointed (digits places : Nat) : List Char :=
  let ds := Nat.toDigits 10 digits
  let ds := List.replicate (places + 1 - ds.length) '0' ++ ds
  let whole := ds.take (ds.length - places)
  if places = 0 then whole else whole ++ '.' :: ds.drop (ds.length - places)

/-- The text of a ratio with `places` digits after the point. -/
def fixed (v : Ratio) (places : Nat) : List Char :=
  pointed (roundHalfEven (v.num * Nat.pow 10 places) v.den) places

/-- The digits of a ratio, one before the point and `places` after it, and the power of ten
    that they are scaled by. -/
def scaled (v : Ratio) (places : Nat) : Nat × Int :=
  if v.num = 0 then (0, 0)
  else
    let top := floorLog10 v
    let p := top - places
    let c := roundHalfEven (v.num * Nat.pow 10 (-p).toNat) (v.den * Nat.pow 10 p.toNat)
    if c = Nat.pow 10 (places + 1) then (c / 10, top + 1) else (c, top)

/-- The text of a power of ten, of two digits at least. -/
def power (e : Int) : List Char :=
  let ds := Nat.toDigits 10 e.natAbs
  'e' :: (if e < 0 then '-' else '+') :: (List.replicate (2 - ds.length) '0' ++ ds)

/-- The text of a ratio with one digit before the point and `places` after it. -/
def scientific (v : Ratio) (places : Nat) : List Char :=
  let (digits, e) := scaled v places
  pointed digits places ++ power e

/-- Digits behind a point without the zeros at their end. -/
def withoutZeros (s : List Char) : List Char :=
  if s.contains '.' then
    ((s.reverse.dropWhile (· == '0')).dropWhile (· == '.')).reverse
  else s

/-- The text of a ratio with `size` digits; zeros at the end of its places are left out
    unless they are kept. -/
def general (v : Ratio) (size : Nat) (keepZeros : Bool) : List Char :=
  let size := max size 1
  let (digits, e) := scaled v (size - 1)
  let trim (s : List Char) : List Char := if keepZeros then s else withoutZeros s
  if -4 ≤ e ∧ e < size then trim (fixed v (size - 1 - e).toNat)
  else trim (pointed digits (size - 1)) ++ power e

end Runbook.Binary64.Ratio
