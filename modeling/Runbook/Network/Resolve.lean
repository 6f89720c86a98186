/-
  Names of machines, where no name service can be asked.

  A host is an address itself, in any of the forms that the system's resolver takes, or the
  name of this machine. Any other name is not answered for; what is no name of a machine is
  not asked for. `resolve` gives the address, or the message about why there is none.
-/
import Runbook.Network.Address

namespace Runbook.Resolve

/-! ## Numeric forms -/

/-- A number in base 16 after `0x`, in base 8 after `0`, else in base 10. -/
def cNumber? (s : List Char) : Option Nat :=
  let inBase (base : Nat) (ds : List Char) : Option Nat := do
    let ns ← ds.mapM Bytes.hexValue?
    guard (!ns.isEmpty && ns.all (· < base))
    pure (SocketAddress.ofDigits base ns)
  match s with
  | '0' :: x :: r =>
    if x == 'x' || x == 'X' then inBase 16 r else inBase 8 (x :: r)
  | s => inBase 10 s

/-- The bytes of a number, so many of them, the highest one first. -/
def octetsOf : Nat → Nat → List Nat
  | 0, _ => []
  | k + 1, n => n / Nat.pow 256 k % 256 :: octetsOf k n

/-- An address in up to four numbers with points between them: the last one fills the bytes
    that are left. -/
def v4? (host : String) : Option IpAddress := do
  let ns ← (Text.pieces '.' host.toList).mapM cNumber?
  let last ← ns.getLast?
  let first := ns.dropLast
  guard (ns.length ≤ 4 && first.all (· < 256) && last < Nat.pow 256 (4 - first.length))
  match first ++ octetsOf (4 - first.length) last with
  | [a, b, c, d] => some (.v4 a b c d)
  | _ => none

/-- A scope: the number of an interface, or for an address of one link the name of the only
    one that there is. -/
def scope? (isLinkLocal : Bool) (s : List Char) : Option Nat :=
  if isLinkLocal && s == ['l', 'o'] then some 1
  else if !s.isEmpty && s.all SocketAddress.isDigit then
    (SocketAddress.number? (Nat.pow 2 32) s).map (·.1)
  else none

/-- An address of eight groups, with a scope behind a percent sign. -/
def v6? (host : String) : Option IpAddress := do
  let base := host.toList.takeWhile (· ≠ '%')
  match ← SocketAddress.v6? base with
  | (groups, []) =>
    match host.toList.drop base.length with
    | [] => some (.v6 groups 0)
    | _ :: s => (scope? (IpAddress.isLinkLocal groups) s).map (.v6 groups)
  | _ => none

/-! ## Names -/

/-- A part of a name. -/
def isLabel (s : List Char) : Bool :=
  !s.isEmpty && s.length ≤ 63 && s.all fun c => c.isAlphanum || c == '-' || c == '_'

/-- A text can be the name of a machine; a point at its end says nothing. -/
def isHostName (host : String) : Bool :=
  let labels := Text.pieces '.' host.toList
  let labels := if labels.getLast? == some [] then labels.dropLast else labels
  host == "." ||
    (!labels.isEmpty && labels.all isLabel && host.toList.head? != some '-' &&
      labels.foldl (fun n l => n + l.length + 1) 0 ≤ 254)

/-- The message about a name that no service answers for. -/
def unknown (reason : String) : String := "failed to lookup address information: " ++ reason

/-- The address that a host stands for. -/
def resolve (host : String) : Except String IpAddress :=
  if host.toList.contains '\x00' then .error "file name contained an unexpected NUL byte"
  else match (v4? host).or (v6? host) with
  | some a => .ok a
  | none =>
    if String.ofList (host.toList.map Char.toLower) = "localhost" then .ok (.v4 127 0 0 1)
    else if isHostName host then .error (unknown "Temporary failure in name resolution")
    else .error (unknown "Name or service not known")

end Runbook.Resolve
