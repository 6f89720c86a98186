/-
  The texts, numbers and dates of a TOML document.

  Texts stand between quotes or apostrophes, in one line or, with three of them, in
  several. Every other scalar is a word whose first characters tell what it is.
-/
import Runbook.Number
import Runbook.Text.Bytes
import Runbook.Toml.Value

namespace Runbook.Toml

/-- A reader of characters, which may refuse them. -/
abbrev Read := StateT (List Char) Option

namespace Read

/-- The characters that are left. -/
def rest : Read (List Char) := get

/-- Moves over `n` characters. -/
def skip (n : Nat) : Read Unit := modify (·.drop n)

/-- Refuses a document that does not meet a condition. -/
def require (condition : Bool) : Read Unit := if condition then pure () else failure

/-- Moves over the characters of a class and gives them. -/
def takeWhile (p : Char → Bool) : Read (List Char) := do
  let word := (← rest).takeWhile p
  skip word.length
  pure word

/-- Moves over a text if it comes next. -/
def take (s : String) : Read Bool := do
  if s.toList.isPrefixOf (← rest) then
    skip s.length
    pure true
  else pure false

/-- Moves over a text, which must come next. -/
def expect (s : String) : Read Unit := do require (← take s)

end Read

open Read

/-! ## Characters -/

/-- A space or a tab. -/
def isBlank (c : Char) : Bool := c == ' ' || c == '\t'

/-- A character that texts and comments may hold as it is. -/
def isPrintable (c : Char) : Bool :=
  c == '\t' || (0x20 ≤ c.toNat && c.toNat ≠ 0x7F)

/-- The length of the line end at the start of a text. -/
def lineEndLength : List Char → Nat
  | '\n' :: _ => 1
  | '\r' :: '\n' :: _ => 2
  | _ => 0

/-! ## Texts -/

/-- An escape, after its backslash. -/
def escape : Read Char := do
  let code (digits : Nat) : Read Char := do
    let ds := (← rest).take digits
    require (ds.length == digits)
    let vs ← (ds.mapM Bytes.hexValue? : Option (List Nat))
    skip digits
    let n := vs.foldl (fun n d => n * 16 + d) 0
    require (decide n.isValidChar)
    pure (Char.ofNat n)
  match ← rest with
  | [] => failure
  | c :: _ => do
    skip 1
    match c with
    | 'b' => pure '\x08'
    | 't' => pure '\t'
    | 'n' => pure '\n'
    | 'f' => pure '\x0c'
    | 'r' => pure '\r'
    | 'e' => pure '\x1b'
    | '"' => pure '"'
    | '\\' => pure '\\'
    | 'x' => code 2
    | 'u' => code 4
    | 'U' => code 8
    | _ => failure

/-- Moves over blanks and line ends. -/
def skipSpace : Nat → Read Unit
  | 0 => pure ()
  | fuel + 1 => do
    let _ ← takeWhile isBlank
    let n := lineEndLength (← rest)
    if n = 0 then pure () else do
      skip n
      skipSpace fuel

/-- The rest of a text in one line, up to its closing quote. -/
def lineText (quote : Char) : Nat → List Char → Read String
  | 0, _ => failure
  | fuel + 1, text => do
    match ← rest with
    | [] => failure
    | c :: _ =>
      if c == quote then do
        skip 1
        pure (String.ofList text.reverse)
      else if c == '\\' && quote == '"' then do
        skip 1
        let e ← escape
        lineText quote fuel (e :: text)
      else do
        require (isPrintable c)
        skip 1
        lineText quote fuel (c :: text)

/-- A backslash at the end of a line: blanks, and then a line end. -/
def atLineBackslash (s : List Char) : Bool :=
  match s with
  | '\\' :: r => lineEndLength (r.dropWhile isBlank) ≠ 0
  | _ => false

/-- The rest of a text in several lines, up to its three closing quotes; up to two more
    before them belong to the text. -/
def linesText (quote : Char) : Nat → List Char → Read String
  | 0, _ => failure
  | fuel + 1, text => do
    let s ← rest
    let quotes := (s.takeWhile (· == quote)).length
    if 3 ≤ quotes then do
      require (quotes ≤ 5)
      skip quotes
      pure (String.ofList (List.replicate (quotes - 3) quote ++ text).reverse)
    else if quote == '"' && atLineBackslash s then do
      skip 1
      skipSpace s.length
      linesText quote fuel text
    else match s with
    | [] => failure
    | c :: _ =>
      if c == '\\' && quote == '"' then do
        skip 1
        let e ← escape
        linesText quote fuel (e :: text)
      else do
        let n := lineEndLength s
        require (n ≠ 0 || isPrintable c)
        skip (max n 1)
        linesText quote fuel ((s.take (max n 1)).reverse ++ text)

/-- A text, if one starts here. -/
def text? : Read (Option String) := do
  let fuel := (← rest).length + 1
  let lines (quote : Char) : Read (Option String) := do
    skip (lineEndLength (← rest))
    some <$> linesText quote fuel []
  if ← take "\"\"\"" then lines '"'
  else if ← take "'''" then lines '\''
  else if ← take "\"" then some <$> lineText '"' fuel []
  else if ← take "'" then some <$> lineText '\'' fuel []
  else pure none

/-! ## Numbers -/

/-- Digits of a class with underscores between them; gives the digits. -/
def grouped? (p : Char → Bool) (s : List Char) : Option (List Char) :=
  let groups := Text.pieces '_' s
  if groups.all fun g => !g.isEmpty && g.all p then some groups.flatten else none

/-- The value of digits in a base. -/
def ofDigits (base : Nat) (ds : List Char) : Nat :=
  ds.foldl (fun n d => n * base + (Bytes.hexValue? d).getD 0) 0

/-- The digits of a number without a zero in front. -/
def plain? (s : List Char) : Option (List Char) := do
  let ds ← grouped? Char.isDigit s
  guard (ds.length == 1 || ds.head? ≠ some '0')
  pure ds

/-- The integer that a word is: decimal with an optional sign, or in base 16, 8 or 2. -/
def integer? (s : List Char) : Option Int :=
  let inBase (base : Nat) (r : List Char) : Option Int := do
    let ds ← grouped? (fun c => (Bytes.hexValue? c).any (· < base)) r
    pure (ofDigits base ds : Nat)
  match s with
  | '0' :: 'x' :: r => inBase 16 r
  | '0' :: 'o' :: r => inBase 8 r
  | '0' :: 'b' :: r => inBase 2 r
  | '-' :: r => (plain? r).map fun ds => -(ofDigits 10 ds : Int)
  | '+' :: r => (plain? r).map fun ds => (ofDigits 10 ds : Int)
  | r => (plain? r).map fun ds => (ofDigits 10 ds : Int)

/-- A word without its sign. -/
def unsigned (s : List Char) : List Char :=
  match s with
  | '-' :: r => r
  | '+' :: r => r
  | r => r

/-- A word is a floating-point number: a fraction, an exponent or both after its digits. -/
def isFloat (s : List Char) : Bool :=
  let body := unsigned s
  let mantissa := body.takeWhile fun c => c != 'e' && c != 'E'
  let whole := mantissa.takeWhile (· ≠ '.')
  let digits (r : List Char) : Bool := (grouped? Char.isDigit r).isSome
  let fraction := mantissa.drop whole.length
  let exponent := body.drop mantissa.length
  body == "inf".toList || body == "nan".toList ||
    ((plain? whole).isSome && (fraction.isEmpty || digits (fraction.drop 1)) &&
      (exponent.isEmpty || digits (unsigned (exponent.drop 1))) &&
      !(fraction.isEmpty && exponent.isEmpty))

/-! ## Dates and times -/

/-- Two digits of a number in a range. -/
def pair? (low high : Nat) : List Char → Bool
  | [a, b] => a.isDigit && b.isDigit && low ≤ ofDigits 10 [a, b] && ofDigits 10 [a, b] ≤ high
  | _ => false

/-- The number of days in a month. -/
def daysIn (year month : Nat) : Nat :=
  if [4, 6, 9, 11].contains month then 30
  else if month ≠ 2 then 31
  else if year % 4 = 0 && (year % 100 ≠ 0 || year % 400 = 0) then 29 else 28

/-- A word is a date. -/
def isDate (s : List Char) : Bool :=
  match Text.pieces '-' s with
  | [y, m, d] =>
    y.length == 4 && y.all Char.isDigit && pair? 1 12 m &&
      pair? 1 (daysIn (ofDigits 10 y) (ofDigits 10 m)) d
  | _ => false

/-- A fraction of a second as it is written out: nine places at most and no zeros at the
    end, nor a point if nothing is left. -/
def fractionText (places : List Char) : List Char :=
  match Text.dropEndWhile (· == '0') (places.take 9) with
  | [] => []
  | kept => '.' :: kept

/-- A time of day, written out in full; its seconds may be left out. -/
def timeText? (s : List Char) : Option (List Char) :=
  let whole := s.takeWhile (· ≠ '.')
  let fraction := s.drop whole.length
  let places := fraction.drop 1
  match Text.pieces ':' whole with
  | [h, m] =>
    if fraction.isEmpty && pair? 0 23 h && pair? 0 59 m then some (whole ++ ":00".toList) else none
  | [h, m, x] =>
    if pair? 0 23 h && pair? 0 59 m && pair? 0 60 x &&
        (fraction.isEmpty || (!places.isEmpty && places.all Char.isDigit)) then
      some (whole ++ fractionText places)
    else none
  | _ => none

/-- An offset from universal time, written out in full; none at all is a positive one. -/
def offsetText? (s : List Char) : Option (List Char) :=
  match s with
  | [] => some []
  | ['Z'] | ['z'] => some ['Z']
  | sign :: r =>
    if sign ≠ '+' && sign ≠ '-' then none
    else match Text.pieces ':' r with
    | [h, m] =>
      if pair? 0 23 h && pair? 0 59 m then
        some ((if r == "00:00".toList then '+' else sign) :: r)
      else none
    | _ => none

/-- A date, a time, or both with an optional offset, written out in full. -/
def momentText? (s : List Char) : Option String :=
  let date := s.take 10
  match isDate date, s.drop 10 with
  | true, [] => some (String.ofList s)
  | true, joint :: r => do
    let time := r.takeWhile fun c => c.isDigit || c == ':' || c == '.'
    guard ("Tt ".toList.contains joint)
    let clock ← timeText? time
    let offset ← offsetText? (r.drop time.length)
    pure (String.ofList (date ++ 'T' :: clock ++ offset))
  | false, _ => (timeText? s).map String.ofList

/-- A character of a word. -/
def isWordChar (c : Char) : Bool := c.isAlphanum || "+-_.:".toList.contains c

/-- A decimal number, not a word for infinity, is too large to be told from infinity. -/
def overflows (s : List Char) : Bool :=
  s.any Char.isDigit && match Number.real? (s.filter (· ≠ '_')) with
    | some (.infinite _) => true
    | _ => false

/-- An integer has at most 128 bits, one of them for a sign. -/
def isBounded (n : Int) : Bool := -(Nat.pow 2 127 : Nat) ≤ n && n < Nat.pow 2 128

/-- A word is the mark of a base without digits. -/
def isBareBase (s : List Char) : Bool := ["0x", "0o", "0b"].contains (String.ofList s)

/-- The value that a word is. -/
def wordValue? (s : List Char) : Option Value :=
  if s == "true".toList then some (.bool true)
  else if s == "false".toList then some (.bool false)
  else if isBareBase s then some .unreadable
  else match integer? s with
  | some n => some (if isBounded n then .integer n else .unreadable)
  | none =>
    if isFloat s then some (if overflows s then .unreadable else .float)
    else (momentText? s).map .moment

/-- Reads a word: a time may follow a date after a blank. -/
def word : Read Value := do
  let w ← takeWhile isWordChar
  let s ← rest
  let joined :=
    if isDate w && s.head? == some ' ' && (s.drop 1).head?.any Char.isDigit then
      ' ' :: (s.drop 1).takeWhile isWordChar
    else []
  skip joined.length
  wordValue? (w ++ joined)

end Runbook.Toml
