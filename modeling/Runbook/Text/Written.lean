/-
  Regular expressions as they are written: what a pattern is made of, and what can be wrong
  with it.

  * `Span` is a part of a pattern, counted in characters;
  * `Ast` is a pattern as it is written, `ClassSet` what stands between brackets;
  * `Fault` is what is wrong with a pattern, and where.
-/
import Runbook.Text.Regex

namespace Runbook.Text.Written

/-- A part of a pattern: the characters from `start` up to but not including `stop`. -/
structure Span where
  start : Nat
  stop : Nat
  deriving DecidableEq, Repr

/-- A switch for the rest of a group. -/
inductive Flag where
  | caseInsensitive
  | multiLine
  | dotAll
  | swapGreed
  | unicode
  | carriageReturn
  | spaced
  deriving DecidableEq, Repr

/-- Flags that a pattern turns on or off. -/
abbrev Settings := List (Flag × Bool)

/-- A character that stands for itself. -/
structure Literal where
  span : Span
  char : Char
  /-- It is written as a byte, with two hexadecimal digits. -/
  asByte : Bool
  deriving DecidableEq, Repr

/-- The sets of characters that an escaped letter stands for. -/
inductive Perl where
  | digit
  | space
  | word
  deriving DecidableEq, Repr

/-- How two sets of characters are joined. -/
inductive ClassOp where
  | intersection
  | difference
  | symmetricDifference
  deriving DecidableEq, Repr

/-- What stands between brackets. -/
inductive ClassSet where
  | empty (span : Span)
  | literal (l : Literal)
  | range (span : Span) (first last : Literal)
  /-- A set with a name. -/
  | named (span : Span) (set : CharSet) (negated : Bool)
  | perl (span : Span) (kind : Perl) (negated : Bool)
  /-- A property of characters, by its name. -/
  | property (span : Span)
  | bracketed (span : Span) (set : ClassSet) (negated : Bool)
  | union (span : Span) (sets : List ClassSet)
  | join (span : Span) (op : ClassOp) (left right : ClassSet)
  deriving Repr

/-- The part of the pattern that a set is written in. -/
def ClassSet.span : ClassSet → Span
  | empty s | range s .. | named s .. | perl s .. | property s | bracketed s .. | union s ..
  | join s .. => s
  | literal l => l.span

/-- What an anchor is written as. -/
inductive Assertion where
  | lineStart
  | lineFinish
  | textStart
  | textFinish
  | word (place : WordPlace)
  deriving DecidableEq, Repr

/-- A pattern as it is written. -/
inductive Ast where
  | empty (span : Span)
  | flags (span : Span) (settings : Settings)
  | literal (l : Literal)
  | dot (span : Span)
  | assertion (span : Span) (a : Assertion)
  | perl (span : Span) (kind : Perl) (negated : Bool)
  | property (span : Span)
  | bracketed (span : Span) (set : ClassSet) (negated : Bool)
  | repetition (span : Span) (sub : Ast) (low : Nat) (high : Option Nat)
  | group (span : Span) (settings : Settings) (sub : Ast)
  | alternation (span : Span) (subs : List Ast)
  | concat (span : Span) (subs : List Ast)
  deriving Repr

/-- The part of the pattern that an expression is written in. -/
def Ast.span : Ast → Span
  | empty s | flags s .. | dot s | assertion s .. | perl s .. | property s | bracketed s ..
  | repetition s .. | group s .. | alternation s .. | concat s .. => s
  | literal l => l.span

/-! ## Faults -/

/-- What is wrong with a pattern. -/
inductive FaultKind where
  | classEscapeInvalid
  | classRangeInvalid
  | classRangeLiteral
  | classUnclosed
  | decimalInvalid
  | escapeHexEmpty
  | escapeHexInvalid
  | escapeHexInvalidDigit
  | escapeUnexpectedEnd
  | escapeUnrecognized
  | flagDanglingNegation
  | flagDuplicate
  | flagRepeatedNegation
  | flagUnexpectedEnd
  | flagUnrecognized
  | groupNameDuplicate
  | groupNameEmpty
  | groupNameInvalid
  | groupNameUnexpectedEnd
  | groupUnclosed
  | groupUnopened
  | nestLimitExceeded (limit : Nat)
  | repetitionCountInvalid
  | repetitionCountEmpty
  | repetitionCountUnclosed
  | repetitionMissing
  | wordPlaceUnclosed
  | wordPlaceUnrecognized
  | wordPlaceUnexpectedEnd
  | propertyInvalid
  | unsupportedBackreference
  | unsupportedLookAround
  | unicodeNotAllowed
  | invalidUtf8
  | propertyNotFound
  | perlClassNotFound
  | caseUnavailable
  deriving DecidableEq, Repr

/-- The words for a fault. -/
def FaultKind.message : FaultKind → String
  | classEscapeInvalid => "invalid escape sequence found in character class"
  | classRangeInvalid => "invalid character class range, the start must be <= the end"
  | classRangeLiteral => "invalid range boundary, must be a literal"
  | classUnclosed => "unclosed character class"
  | decimalInvalid => "decimal literal invalid"
  | escapeHexEmpty => "hexadecimal literal empty"
  | escapeHexInvalid => "hexadecimal literal is not a Unicode scalar value"
  | escapeHexInvalidDigit => "invalid hexadecimal digit"
  | escapeUnexpectedEnd => "incomplete escape sequence, reached end of pattern prematurely"
  | escapeUnrecognized => "unrecognized escape sequence"
  | flagDanglingNegation => "dangling flag negation operator"
  | flagDuplicate => "duplicate flag"
  | flagRepeatedNegation => "flag negation operator repeated"
  | flagUnexpectedEnd => "expected flag but got end of regex"
  | flagUnrecognized => "unrecognized flag"
  | groupNameDuplicate => "duplicate capture group name"
  | groupNameEmpty => "empty capture group name"
  | groupNameInvalid => "invalid capture group character"
  | groupNameUnexpectedEnd => "unclosed capture group name"
  | groupUnclosed => "unclosed group"
  | groupUnopened => "unopened group"
  | nestLimitExceeded limit =>
    "exceed the maximum number of nested parentheses/brackets (" ++ toString limit ++ ")"
  | repetitionCountInvalid =>
    "invalid repetition count range, the start must be <= the end"
  | repetitionCountEmpty => "repetition quantifier expects a valid decimal"
  | repetitionCountUnclosed => "unclosed counted repetition"
  | repetitionMissing => "repetition operator missing expression"
  | wordPlaceUnclosed =>
    "special word boundary assertion is either unclosed or contains an invalid character"
  | wordPlaceUnrecognized =>
    "unrecognized special word boundary assertion, valid choices are: " ++
      "start, end, start-half or end-half"
  | wordPlaceUnexpectedEnd =>
    "found either the beginning of a special word boundary or a bounded repetition on a " ++
      "\\b with an opening brace, but no closing brace"
  | propertyInvalid => "invalid Unicode character class"
  | unsupportedBackreference => "backreferences are not supported"
  | unsupportedLookAround =>
    "look-around, including look-ahead and look-behind, is not supported"
  | unicodeNotAllowed => "Unicode not allowed here"
  | invalidUtf8 => "pattern can match invalid UTF-8"
  | propertyNotFound => "Unicode property not found"
  | perlClassNotFound =>
    "Unicode-aware Perl class not found (make sure the unicode-perl feature is enabled)"
  | caseUnavailable =>
    "Unicode-aware case insensitivity matching is not available " ++
      "(make sure the unicode-case feature is enabled)"

/-- Something wrong with a part of a pattern; `other` is an earlier part that it clashes
    with. -/
structure Fault where
  kind : FaultKind
  span : Span
  other : Option Span := none
  deriving DecidableEq, Repr

end Runbook.Text.Written
