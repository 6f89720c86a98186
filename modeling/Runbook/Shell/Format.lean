/-
  The output of `echo` and `printf`.

  Both know escapes that start with a backslash. A format is used again until no argument
  is left; a missing argument is empty or zero. All texts have one character for each byte.
-/
import Runbook.Text.Bytes
import Runbook.Number
import Runbook.Number.Fixed

namespace Runbook.Shell

/-- White space of the plain character set. -/
def isSpace (c : Char) : Bool := c == ' ' || '\t' ≤ c && c ≤ '\r'

/-- The number of the octal digits at the start of a text, three at most, and the text
    after them. -/
def octal (s : List Char) : Nat × List Char :=
  let ds := (s.take 3).takeWhile fun c => '0' ≤ c && c ≤ '7'
  (ds.foldl (fun n d => n * 8 + (d.toNat - 48)) 0, s.drop ds.length)

/-- The byte of an escape of one letter. -/
def escapedByte? : Char → Option UInt8
  | 'a' => some 7
  | 'b' => some 8
  | 'e' => some 27
  | 'f' => some 12
  | 'n' => some 10
  | 'r' => some 13
  | 't' => some 9
  | 'v' => some 11
  | '\\' => some 92
  | _ => none

/-- The bytes of a text with escapes, and whether an escape ended all output. With
    `zeroed` an octal escape may have a zero before its digits. -/
def unescape (zeroed : Bool) : Nat → List Char → Bytes × Bool
  | 0, _ => ([], false)
  | _, [] => ([], false)
  | fuel + 1, '\\' :: c :: r =>
    let more (bs : Bytes) (r : List Char) : Bytes × Bool :=
      let (rest, stop) := unescape zeroed fuel r
      (bs ++ rest, stop)
    if c == 'c' && zeroed then ([], true)
    else match escapedByte? c with
    | some b => more [b] r
    | none =>
      if zeroed && c == '0' then
        let (n, r) := octal r
        more [UInt8.ofNat n] r
      else if '0' ≤ c && c ≤ '7' then
        let (n, r) := octal (c :: r)
        more [UInt8.ofNat n] r
      else more (Bytes.ofUnits (String.ofList ['\\', c])) r
  | fuel + 1, c :: r =>
    let (rest, stop) := unescape zeroed fuel r
    (Bytes.ofUnits c.toString ++ rest, stop)

/-- What `echo` prints in a shell, which knows escapes. -/
def echoBytes (args : List String) : Bytes :=
  let (newline, args) := match args with
    | "-n" :: as => (false, as)
    | as => (true, as)
  let text := (Text.joinWith " " args).toList
  let (bytes, stop) := unescape true (text.length + 1) text
  if newline && !stop then bytes ++ [10] else bytes

/-! ## Formats -/

/-- A width or a precision: as written, or as the next argument says. -/
inductive Measure where
  | fixed (n : Nat)
  | asked

/-- A conversion of a format. -/
structure Conversion where
  left : Bool := false
  zero : Bool := false
  plus : Bool := false
  space : Bool := false
  sharp : Bool := false
  width : Measure := .fixed 0
  precision : Option Measure := none
  kind : Char := 's'

/-- A part of a format. -/
inductive FormatPart where
  | bytes (b : Bytes)
  | conversion (c : Conversion)
  /-- What no conversion is; the output ends here. -/
  | fault (message : String)

/-- Reads a width or a precision, zero if none is written. -/
def measure (s : List Char) : Measure × List Char :=
  match s with
  | '*' :: r => (.asked, r)
  | s =>
    let ds := s.takeWhile Char.isDigit
    (.fixed (Number.ofDigits ds), s.drop ds.length)

/-- Reads a conversion after its percent sign; a failure says what is wrong with it. -/
def conversion (s : List Char) : Except String (Conversion × List Char) :=
  let flags := s.takeWhile ("-0+ #".contains ·)
  let (width, r) := measure (s.drop flags.length)
  let (precision, r) := match r with
    | '.' :: r =>
      let (n, r) := measure r
      (some n, r)
    | r => (none, r)
  let has (c : Char) : Bool := flags.contains c
  match r with
  | [] => .error "missing format character"
  | kind :: r =>
    if "diouxXcsbeEfFgG".contains kind then
      .ok (⟨has '-', has '0', has '+', has ' ', has '#', width, precision, kind⟩, r)
    else .error (String.ofList ('%' :: s.take (s.length - r.length)) ++ ": invalid directive")

/-- Reads a format. -/
def formatParts : Nat → List Char → List FormatPart
  | 0, _ => []
  | _, [] => []
  | fuel + 1, '%' :: '%' :: r => .bytes [37] :: formatParts fuel r
  | fuel + 1, '%' :: r =>
    match conversion r with
    | .ok (c, r) => .conversion c :: formatParts fuel r
    | .error message => [.fault message]
  | fuel + 1, s =>
    let text := (s.drop 1).takeWhile fun c => c != '%'
    let text := s.take 1 ++ text
    .bytes (unescape false (text.length + 1) text).1 :: formatParts fuel (s.drop text.length)

/-- Why an argument is not the number that it was to be. -/
inductive NumberFault where
  | notNumeric
  | trailing
  | outOfRange

/-- The text of a fault. -/
def NumberFault.message : NumberFault → String
  | notNumeric => "expected numeric value"
  | trailing => "not completely converted"
  | outOfRange => "Numerical result out of range"

/-- The value of an argument in quotes: the first byte behind the quote. -/
def quotedValue? (s : String) : Option Nat :=
  match s.toList with
  | '\'' :: r | '"' :: r => some (((Bytes.ofUnits (String.ofList r)).head?.map (·.toNat)).getD 0)
  | _ => none

/-- The integer that an argument means, within 64 bits, and what is wrong with it. -/
def argumentInteger (signed : Bool) (s : String) : Int × Option NumberFault :=
  match quotedValue? s, s.toList.dropWhile isSpace with
  | some n, _ => (n, none)
  | none, cs =>
    let (negative, body) := match cs with
      | '-' :: r => (true, r)
      | '+' :: r => (false, r)
      | r => (false, r)
    let isDigitOf (base : Nat) (c : Char) : Bool := (Bytes.hexValue? c).any (· < base)
    let (base, ds) := match body with
      | '0' :: x :: d :: r =>
        if (x == 'x' || x == 'X') && isDigitOf 16 d then (16, d :: r) else (8, '0' :: x :: d :: r)
      | '0' :: r => (8, '0' :: r)
      | r => (10, r)
    let rest := ds.dropWhile (isDigitOf base)
    let magnitude := (ds.takeWhile (isDigitOf base)).foldl
      (fun n d => n * base + (Bytes.hexValue? d).getD 0) 0
    let most : Nat := if !signed then Nat.pow 2 64 - 1
      else if negative then Nat.pow 2 63 else Nat.pow 2 63 - 1
    let n : Int := if magnitude > most then most else magnitude
    let n := if negative && (signed || magnitude ≤ most) then -n else n
    (n, if s.isEmpty then none
      else if ds.length == rest.length then some .notNumeric
      else if !rest.isEmpty then some .trailing
      else if magnitude > most then some .outOfRange
      else none)

/-- The real number that an argument means, and what is wrong with it: the longest start
    that is a number counts. -/
def argumentReal (s : String) : Binary64 × Option NumberFault :=
  match quotedValue? s with
  | some n => (.ofRatio false n 1, none)
  | none =>
    let cs := s.toList.dropWhile isSpace
    let starts := (List.range cs.length).map fun n => cs.take (cs.length - n)
    let read := starts.findSome? fun t => (Number.real? t).map fun x => (x, t.length)
    match read with
    | none => (.ofRatio false 0 1, if s.isEmpty then none else some .notNumeric)
    | some (x, n) =>
      let overflows : Bool := match x with
        | .infinite _ => cs.any Char.isDigit
        | _ => false
      (x, if n < cs.length then some .trailing
        else if overflows then some .outOfRange
        else none)

/-- A conversion with its width and precision known. -/
structure Layout where
  conversion : Conversion
  left : Bool
  width : Nat
  precision : Option Nat

namespace Layout

/-- Bytes made as wide as asked, with blanks. -/
def wide (l : Layout) (body : Bytes) : Bytes :=
  let missing := List.replicate (l.width - body.length) (32 : UInt8)
  if l.left then body ++ missing else missing ++ body

/-- A number made as wide as asked, with zeros behind its sign if they are to fill it. -/
def number (l : Layout) (zeros : Bool) (sign body : List Char) : Bytes :=
  let missing := l.width - (sign.length + body.length)
  let zeros := if zeros && !l.left then List.replicate missing '0' else []
  l.wide (Bytes.ofUnits (String.ofList (sign ++ zeros ++ body)))

/-- The sign of a number. -/
def sign (l : Layout) (negative : Bool) : List Char :=
  if negative then ['-'] else if l.conversion.plus then ['+']
  else if l.conversion.space then [' '] else []

/-- The text of an integer. -/
def integer (l : Layout) (n : Int) : Bytes :=
  let kind := l.conversion.kind
  let signed := kind == 'd' || kind == 'i'
  let magnitude : Nat := if signed then n.natAbs else (n % Nat.pow 2 64).toNat
  let base := match kind with
    | 'o' => 8
    | 'x' | 'X' => 16
    | _ => 10
  let digits := if magnitude = 0 && l.precision == some 0 then [] else Nat.toDigits base magnitude
  let digits := if kind == 'X' then digits.map Char.toUpper else digits
  let digits := if l.conversion.sharp && kind == 'o' && digits.head? ≠ some '0'
    then '0' :: digits else digits
  let digits := List.replicate ((l.precision.getD 0) - digits.length) '0' ++ digits
  let sign : List Char :=
    if signed then l.sign (n < 0)
    else if l.conversion.sharp && magnitude ≠ 0 && base == 16 then ['0', kind]
    else []
  l.number (l.conversion.zero && l.precision.isNone) sign digits

/-- The text of a real number. -/
def real (l : Layout) (x : Binary64) : Bytes :=
  let kind := l.conversion.kind
  let cased (s : List Char) : List Char := if kind.isUpper then s.map Char.toUpper else s
  match x with
  | .nan => l.number false (l.sign false) (cased "nan".toList)
  | .infinite negative => l.number false (l.sign negative) (cased "inf".toList)
  | .finite negative m e =>
    let v := Binary64.Ratio.binary m e
    let places := l.precision.getD 6
    let body := match kind.toLower with
      | 'f' => v.fixed places
      | 'e' => v.scientific places
      | _ => v.general places l.conversion.sharp
    let body := if l.conversion.sharp && !body.contains '.' then
        body.takeWhile Char.isDigit ++ '.' :: body.dropWhile Char.isDigit
      else body
    l.number l.conversion.zero (l.sign negative) (cased body)

end Layout

/-- The output of a format. -/
structure Formatted where
  bytes : Bytes := []
  /-- Arguments that were to be numbers. -/
  bad : List (String × NumberFault) := []
  /-- What is wrong with the format. -/
  fault : Option String := none
  /-- An escape ended all output. -/
  stopped : Bool := false

/-- The output of one conversion. -/
def convert (l : Layout) (text : String) : Formatted :=
  let cut (b : Bytes) : Bytes := match l.precision with
    | some n => b.take n
    | none => b
  let bad (f : Option NumberFault) : List (String × NumberFault) := f.toList.map ((text, ·))
  match l.conversion.kind with
  | 's' => { bytes := l.wide (cut (Bytes.ofUnits text)) }
  | 'c' => { bytes := l.wide [(Bytes.ofUnits text).headD 0] }
  | 'b' =>
    let (bytes, stopped) := unescape true (text.length + 1) text.toList
    { bytes := l.wide (cut bytes), stopped }
  | kind =>
    if "diouxX".contains kind then
      let (n, f) := argumentInteger (kind == 'd' || kind == 'i') text
      { bytes := l.integer n, bad := bad f }
    else
      let (x, f) := argumentReal text
      { bytes := l.real x, bad := bad f }

/-- The number that a measure means, and the arguments after it. -/
def Measure.value (args : List String) : Measure → Int × List String
  | fixed n => (n, args)
  | asked => ((argumentInteger true (args.headD "")).1, args.drop 1)

/-- The output of the parts of a format, and the arguments left. -/
def formatOnce : List FormatPart → List String → Formatted × List String
  | [], args => ({}, args)
  | .bytes b :: ps, args =>
    let (f, args) := formatOnce ps args
    ({ f with bytes := b ++ f.bytes }, args)
  | .fault message :: _, args => ({ fault := some message }, args)
  | .conversion c :: ps, args =>
    let (width, args) := c.width.value args
    let (precision, args) := match c.precision with
      | none => (none, args)
      | some m =>
        let (n, args) := m.value args
        (if n < 0 then none else some n.toNat, args)
    let one := convert ⟨c, c.left || width < 0, width.natAbs, precision⟩ (args.headD "")
    if one.stopped then (one, [])
    else
      let (f, rest) := formatOnce ps (args.drop 1)
      ({ f with bytes := one.bytes ++ f.bytes, bad := one.bad ++ f.bad }, rest)

/-- The output of a format used again until no argument is left. -/
def formatAll (ps : List FormatPart) : Nat → List String → Formatted
  | 0, _ => {}
  | fuel + 1, args =>
    let (f, rest) := formatOnce ps args
    if f.stopped || f.fault.isSome || rest.isEmpty || rest.length == args.length then f
    else
      let g := formatAll ps fuel rest
      { g with bytes := f.bytes ++ g.bytes, bad := f.bad ++ g.bad }

/-- What `printf` prints. -/
def printfBytes (format : String) (args : List String) : Formatted :=
  formatAll (formatParts (format.length + 1) format.toList) (args.length + 1) args

end Runbook.Shell
