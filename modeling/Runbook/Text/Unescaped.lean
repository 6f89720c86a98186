/-
  Text without terminal sequences: what is left of a text for a reader that is no
  terminal.

  `unescaped` drops escape sequences, control characters other than white space, and the
  deletion character. A terminal reads bytes: inside of a sequence the bytes of a character
  count one by one, and one of them can end a string. A sequence that is never finished
  takes the rest of the text.
-/
import Runbook.Text.Bytes

namespace Runbook.Text

/-- What a position in a text is inside of. -/
inductive Sequence where
  /-- Outside of every sequence. -/
  | none
  /-- In a character, of which so many bytes are still to come. -/
  | character (left : Nat)
  /-- After the escape character. -/
  | escape
  /-- In an escape sequence with characters in the middle. -/
  | escapeMiddle
  /-- In a control sequence, which a letter ends. -/
  | control
  /-- In a command string, which a bell can end. -/
  | command
  /-- At the start of a device string, before its parameters. -/
  | device
  /-- In the parameters of a device string. -/
  | deviceParameters
  /-- Behind the parameters of a device string. -/
  | deviceMiddle
  /-- In any other string, which its terminator can end. -/
  | string
  deriving DecidableEq, Repr

namespace Sequence

/-- A byte lies in a range, both ends included. -/
def within (low high b : UInt8) : Bool := low ≤ b && b ≤ high

/-- The sequence that a byte after an escape character starts. -/
def afterEscape (b : UInt8) : Sequence :=
  if b == 0x5B then control
  else if b == 0x5D then command
  else if b == 0x50 then device
  else if b == 0x58 || b == 0x5E || b == 0x5F then string
  else none

/-- White space among the control characters. -/
def isSpaceControl (b : UInt8) : Bool := b == 0x09 || b == 0x0A || b == 0x0C || b == 0x0D

/-- The number of bytes after the first one of a character. -/
def bytesAfter (b : UInt8) : Nat :=
  if within 0xC2 0xDF b then 1
  else if within 0xE0 0xEF b then 2
  else if within 0xF0 0xF4 b then 3
  else 0

/-- The sequence after a byte of a device string before its text. -/
def nextOfDevice (s : Sequence) (b : UInt8) : Sequence :=
  if within 0x40 0x7E b then string
  else if within 0x20 0x2F b then deviceMiddle
  else match s with
  | device => if within 0x30 0x3F b then deviceParameters else device
  | deviceParameters => if within 0x3C 0x3F b then string else deviceParameters
  | s => if within 0x30 0x3F b then string else s

/-- The sequence after a byte. White space breaks off a sequence that is no string. -/
def next (s : Sequence) (b : UInt8) : Sequence :=
  match s with
  | character (n + 2) => character (n + 1)
  | character _ => none
  | s =>
    if b == 0x1B then escape
    else if b == 0x18 || b == 0x1A then none
    else match s with
      | none => if bytesAfter b = 0 then none else character (bytesAfter b)
      | escape =>
        if isSpaceControl b then none
        else if within 0x20 0x2F b then escapeMiddle
        else if within 0x30 0x7E b then afterEscape b
        else escape
      | escapeMiddle =>
        if isSpaceControl b || within 0x30 0x7E b then none else escapeMiddle
      | control => if isSpaceControl b || within 0x40 0x7E b then none else control
      | command => if b == 0x07 then none else command
      | string => if b == 0x9C then none else string
      | s => nextOfDevice s b

/-- A byte is shown where it stands. -/
def shows (s : Sequence) (b : UInt8) : Bool :=
  match s with
  | none => isSpaceControl b || within 0x20 0x7E b || bytesAfter b ≠ 0
  | character _ => true
  | escape | escapeMiddle | control => isSpaceControl b
  | _ => false

/-- The bytes that are shown. -/
def shown (s : Sequence) : Bytes → Bytes
  | [] => []
  | b :: bs => if s.shows b then b :: (s.next b).shown bs else (s.next b).shown bs

end Sequence

/-- A text without its terminal sequences. -/
def unescaped (s : String) : String := Bytes.decodeLossy (Sequence.none.shown (Bytes.encode s))

end Runbook.Text
