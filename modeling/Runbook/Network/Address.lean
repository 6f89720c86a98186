/-
  Network addresses: what text a connection can be dialed to, and how host and port are
  told apart for the look-up of host keys.

  * `SocketAddress.parse?` reads an address literal, `1.2.3.4:22` or `[v6]:port`;
  * `Destination.parse` reads what can be dialed: a literal, or a host name and a port
    around the last colon;
  * `splitHostPort` cuts at the last colon and takes port 22 where none can be read.
-/
import Runbook.Fault
import Runbook.Text.Bytes

namespace Runbook

/-- An address of a machine. -/
inductive IpAddress where
  | v4 (a b c d : Nat)
  /-- Eight groups of sixteen bits, and the scope if one is given. -/
  | v6 (groups : List Nat) (scope : Nat)
  deriving DecidableEq, Repr

namespace IpAddress

/-- An address of one link: it means something only with a scope. -/
def isLinkLocal (groups : List Nat) : Bool :=
  groups.head?.any fun g => g / 64 == 0xFE80 / 64 || (g / 256 == 0xFF && g % 16 == 2)

/-- An address of many machines. -/
def isMulticast (groups : List Nat) : Bool := groups.head?.any (· / 256 == 0xFF)

/-- An address of four octets in groups. -/
def isMapped (groups : List Nat) : Bool := groups.take 6 == [0, 0, 0, 0, 0, 0xFFFF]

end IpAddress

/-- An address and a port. -/
structure SocketAddress where
  ip : IpAddress
  port : Nat
  deriving DecidableEq, Repr

namespace SocketAddress

/-- A decimal digit. -/
def isDigit (c : Char) : Bool := '0' ≤ c && c ≤ '9'

/-- The number that digits of a base write. -/
def ofDigits (base : Nat) (ds : List Nat) : Nat := ds.foldl (fun n d => n * base + d) 0

/-- Reads a decimal number below `limit` off the front of a text. -/
def number? (limit : Nat) (s : List Char) : Option (Nat × List Char) :=
  let ds := s.takeWhile isDigit
  let n := ofDigits 10 (ds.map fun c => c.toNat - 48)
  if ds.isEmpty || limit ≤ n then none else some (n, s.dropWhile isDigit)

/-- Reads a number of one to three digits below 256, without a leading zero. -/
def octet? (s : List Char) : Option (Nat × List Char) :=
  let ds := s.takeWhile isDigit
  if 3 < ds.length ∨ (1 < ds.length ∧ ds.head? = some '0') then none else number? 256 s

/-- Reads one given character. -/
def mark? (c : Char) : List Char → Option (List Char)
  | d :: s => if c = d then some s else none
  | [] => none

/-- Reads four octets with dots between them. -/
def v4? (s : List Char) : Option (List Nat × List Char) := do
  let (a, s) ← octet? s
  let s ← mark? '.' s
  let (b, s) ← octet? s
  let s ← mark? '.' s
  let (c, s) ← octet? s
  let s ← mark? '.' s
  let (d, s) ← octet? s
  pure ([a, b, c, d], s)

/-- Reads a group of one to four hexadecimal digits. -/
def group? (s : List Char) : Option (Nat × List Char) :=
  let ds := s.takeWhile fun c => (Bytes.hexValue? c).isSome
  if ds.isEmpty || 4 < ds.length then none
  else some (ofDigits 16 (ds.filterMap Bytes.hexValue?), s.dropWhile fun c =>
    (Bytes.hexValue? c).isSome)

/-- The two groups that four octets fill. -/
def groupsOfOctets : List Nat → List Nat
  | [a, b, c, d] => [a * 256 + b, c * 256 + d]
  | _ => []

/-- Reads up to `limit` groups with colons between them. Four octets may stand in for the
    last two groups, and end them. -/
def groups (limit : Nat) (first : Bool) (s : List Char) : List Nat × List Char × Bool :=
  match limit with
  | 0 => ([], s, false)
  | n + 1 =>
    match (if first then some s else mark? ':' s) with
    | none => ([], s, false)
    | some t =>
      match (if 1 ≤ n then v4? t else none) with
      | some (octets, rest) => (groupsOfOctets octets, rest, true)
      | none =>
        match group? t with
        | none => ([], s, false)
        | some (g, rest) =>
          let (gs, rest, ended) := groups n false rest
          (g :: gs, rest, ended)

/-- Reads eight groups, of which two colons may leave out one or more that are zero. -/
def v6? (s : List Char) : Option (List Nat × List Char) :=
  let (head, rest, ended) := groups 8 true s
  if head.length = 8 then some (head, rest)
  else if ended then none
  else do
    let rest ← mark? ':' rest
    let rest ← mark? ':' rest
    let (tail, rest, _) := groups (8 - head.length - 1) true rest
    pure (head ++ List.replicate (8 - head.length - tail.length) 0 ++ tail, rest)

/-- Reads a port after a colon, to the end of the text. -/
def portEnd? (s : List Char) : Option Nat := do
  let s ← mark? ':' s
  let (port, rest) ← number? 65536 s
  if rest.isEmpty then some port else none

/-- Reads an address of four octets. -/
def dotted? (s : List Char) : Option (IpAddress × List Char) :=
  match v4? s with
  | some ([a, b, c, d], r) => some (.v4 a b c d, r)
  | _ => none

/-- Reads a scope behind a percent sign; without the sign it is zero. -/
def scope? : List Char → Option (Nat × List Char)
  | '%' :: r => number? 4294967296 r
  | r => some (0, r)

/-- Reads an address of eight groups, with its scope. -/
def scoped? (s : List Char) : Option (IpAddress × List Char) := do
  let (groups, r) ← v6? s
  let (scope, r) ← scope? r
  pure (.v6 groups scope, r)

/-- Reads an address literal with a port. -/
def parse? (s : String) : Option SocketAddress :=
  match s.toList with
  | '[' :: r => do
    let (ip, r) ← scoped? r
    let r ← mark? ']' r
    let port ← portEnd? r
    pure ⟨ip, port⟩
  | cs => do
    let (ip, r) ← dotted? cs
    let port ← portEnd? r
    pure ⟨ip, port⟩

/-- The start and the length of the first longest run of zero groups. -/
def longestZeros (groups : List Nat) : Nat × Nat :=
  let runs := (List.range groups.length).map fun i =>
    (i, ((groups.drop i).takeWhile (· == 0)).length)
  runs.foldl (fun best run => if best.2 < run.2 then run else best) (0, 0)

/-- Groups in hexadecimal with colons between them. -/
def groupsText (groups : List Nat) : String :=
  Text.joinWith ":" (groups.map fun g => String.ofList (Nat.toDigits 16 g))

/-- Octets in decimal with dots between them. -/
def octetsText (octets : List Nat) : String :=
  Text.joinWith "." (octets.map toString)

/-- The two octets of a group. -/
def octetsOfGroup (g : Nat) : List Nat := [g / 256, g % 256]

/-- The groups of an address; the longest run of zeros is left out, if it has two groups
    or more, and a mapped address ends in octets. -/
def v6Text (groups : List Nat) : String :=
  match groups with
  | [0, 0, 0, 0, 0, 65535, g, h] => "::ffff:" ++ octetsText (octetsOfGroup g ++ octetsOfGroup h)
  | _ =>
    let (start, size) := longestZeros groups
    if 1 < size then
      groupsText (groups.take start) ++ "::" ++ groupsText (groups.drop (start + size))
    else groupsText groups

/-- The text of an address literal. -/
def text (a : SocketAddress) : String :=
  match a.ip with
  | .v4 b c d e => octetsText [b, c, d, e] ++ ":" ++ toString a.port
  | .v6 groups scope =>
    "[" ++ v6Text groups ++ (if scope = 0 then "" else "%" ++ toString scope) ++ "]:"
      ++ toString a.port

end SocketAddress

/-- Reads a port on its own: decimal digits with an optional plus sign, below 65536. -/
def portNumber? (s : List Char) : Option Nat :=
  let ds := match s with
    | '+' :: r => r
    | r => r
  if ds.isEmpty || !ds.all SocketAddress.isDigit then none
  else match SocketAddress.number? 65536 ds with
    | some (n, _) => some n
    | none => none

/-- What a connection can be dialed to. -/
inductive Destination where
  | literal (a : SocketAddress)
  | named (host : String) (port : Nat)
  deriving DecidableEq, Repr

/-- The port that a connection is made to. -/
def Destination.port : Destination → Nat
  | literal a => a.port
  | named _ port => port

/-- The address that a connection is made to, with names looked up by `resolve`. -/
def Destination.endpoint {ε : Type} (resolve : String → Except ε IpAddress) :
    Destination → Except ε SocketAddress
  | literal a => .ok a
  | named host port => (resolve host).map (⟨·, port⟩)

/-- Why a text is no destination. -/
inductive AddressFlaw where
  | noPort
  | badPort
  deriving DecidableEq, Repr

/-- The wording of a flaw. -/
def AddressFlaw.message : AddressFlaw → String
  | .noPort => "invalid socket address"
  | .badPort => "invalid port value"

/-- Reads what can be dialed. -/
def Destination.parse (s : String) : Except AddressFlaw Destination :=
  match SocketAddress.parse? s with
  | some a => .ok (.literal a)
  | none =>
    match Text.cutLast ':' s.toList with
    | none => .error .noPort
    | some (host, port) =>
      match portNumber? port with
      | none => .error .badPort
      | some n => .ok (.named (String.ofList host) n)

/-- The port of a host without one. -/
def defaultPort : Nat := 22

/-- The host and the port that host keys are looked up under. -/
def splitHostPort (s : String) : String × Nat :=
  match Text.cutLast ':' s.toList with
  | none => (s, defaultPort)
  | some (host, port) => (String.ofList host, (portNumber? port).getD defaultPort)

end Runbook
