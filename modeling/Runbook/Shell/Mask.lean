/-
  The permissions that new files do not get.

  A mask is a number of nine bits: reading, writing and running for the owner, the group
  and all others. `Mask.read?` reads one that is written as a number in base eight, or
  as changes to the permissions that a mask leaves.
-/
import Runbook.Text.Blank

namespace Runbook.Shell.Mask

/-- All permissions. -/
def full : Nat := 511

/-- The digits of a number in base eight, four at least. -/
def octal (n : Nat) : String :=
  let ds := Nat.toDigits 8 n
  String.ofList (List.replicate (4 - ds.length) '0' ++ ds)

/-- The permissions that a mask leaves to one of the three classes, in letters. -/
def letters (bits : Nat) : String :=
  String.ofList (([(4, 'r'), (2, 'w'), (1, 'x')].filter fun p => bits &&& p.1 ≠ 0).map (·.2))

/-- The permissions that a mask leaves, class by class. -/
def symbolic (mask : Nat) : String :=
  let left := full &&& (full ^^^ mask)
  "u=" ++ letters (left / 64) ++ ",g=" ++ letters (left / 8 % 8) ++ ",o=" ++ letters (left % 8)

/-- The bits of all the classes that letters name; all three without letters. -/
def classes (who : List Char) : Nat :=
  if who.isEmpty || who.contains 'a' then full
  else
    (if who.contains 'u' then 448 else 0) + (if who.contains 'g' then 56 else 0) +
      if who.contains 'o' then 7 else 0

/-- The permissions that a letter stands for, in each class, when some are given already. -/
def permission? (given : Nat) (c : Char) : Option Nat :=
  match c with
  | 'r' => some 292
  | 'w' => some 146
  | 'x' => some 73
  | 'X' => some (if given &&& 73 ≠ 0 then 73 else 0)
  | 's' | 't' => some 0
  | 'u' => some (given / 64 * 73)
  | 'g' => some (given / 8 % 8 * 73)
  | 'o' => some (given % 8 * 73)
  | _ => none

/-- Follows the changes for some classes: an operator and letters, as often as wanted. -/
def changed (who : Nat) : Nat → Nat → List Char → Option Nat
  | _, given, [] => some given
  | 0, _, _ => none
  | fuel + 1, given, op :: s => do
    guard ("+-=".contains op)
    let operand := s.takeWhile fun c => !("+-=".contains c)
    let bits := ((← operand.mapM (permission? given)).foldl (· ||| ·) 0) &&& who
    let given := match op with
      | '+' => given ||| bits
      | '-' => given &&& (full ^^^ bits)
      | _ => (given &&& (full ^^^ who)) ||| bits
    changed who fuel given (s.drop operand.length)

/-- Follows one change: its classes, and what becomes of their permissions. -/
def clause (given : Nat) (s : List Char) : Option Nat :=
  let who := s.takeWhile ("ugoa".contains ·)
  changed (classes who) (s.length + 1) given (s.drop who.length)

/-- The mask that a text sets; `none` if it sets none. -/
def read? (mask : Nat) (s : String) : Option Nat :=
  if s.toList.head?.any Char.isDigit then
    if s.toList.all fun c => '0' ≤ c && c ≤ '7' then
      some ((s.toList.foldl (fun n c => n * 8 + (c.toNat - 48)) 0) % 512)
    else none
  else if s.toList.head? == some ',' then none
  else
    let given := full &&& (full ^^^ mask)
    ((Text.pieces ',' s.toList).foldlM clause given).map (full ^^^ ·)

end Runbook.Shell.Mask
