/-
  Text with terminal styles: spans of text, each with a colour and weights, written
  plain or with escape sequences.

  `Styled.plain` drops the styles; `Styled.ansi` writes the sequences. A span that holds
  a reset sequence of its own opens its style again after it, so that the style lasts to
  the span's end.
-/
import Runbook.Text.Blank

namespace Runbook.Text

/-- A foreground colour. -/
inductive Colour where
  | red | green | yellow | blue | cyan
  deriving DecidableEq, Repr

/-- How a span of text is shown. -/
structure Style where
  bold : Bool := false
  dimmed : Bool := false
  colour : Option Colour := none
  deriving DecidableEq, Repr

/-- A piece of text in one style. -/
structure Span where
  text : String
  style : Style := {}
  deriving DecidableEq, Repr

/-- Text made of spans. -/
abbrev Styled := List Span

/-- The parameter that selects a colour. -/
def Colour.code : Colour → String
  | .red => "31"
  | .green => "32"
  | .yellow => "33"
  | .blue => "34"
  | .cyan => "36"

/-- The parameters of a style, weights before the colour. -/
def Style.codes (s : Style) : List String :=
  (if s.bold then ["1"] else []) ++ (if s.dimmed then ["2"] else []) ++
    (s.colour.map Colour.code).toList

/-- The sequence that ends every style. -/
def resetSequence : String := "\x1b[0m"

/-- The sequence that starts a style. -/
def Style.opening (s : Style) : String := "\x1b[" ++ joinWith ";" s.codes ++ "m"

/-- A text with `opening` put after each reset sequence in it. -/
def reopen (opening : List Char) : List Char → List Char
  | '\x1b' :: '[' :: '0' :: 'm' :: rest =>
    '\x1b' :: '[' :: '0' :: 'm' :: opening ++ reopen opening rest
  | c :: cs => c :: reopen opening cs
  | [] => []

/-- A span with its escape sequences; a span without a style has none. -/
def Span.ansi (s : Span) : String :=
  if s.style.codes.isEmpty then s.text
  else s.style.opening ++ String.ofList (reopen s.style.opening.toList s.text.toList)
    ++ resetSequence

namespace Styled

/-- The text without its styles. -/
def plain (t : Styled) : String := String.join (t.map Span.text)

/-- The text with its styles as escape sequences. -/
def ansi (t : Styled) : String := String.join (t.map Span.ansi)

/-- The text for a terminal with or without colours. -/
def shown (colours : Bool) (t : Styled) : String := if colours then t.ansi else t.plain

end Styled

/-- A span of unstyled text. -/
def raw (s : String) : Span := ⟨s, {}⟩

/-- A span in a colour. -/
def inColour (c : Colour) (s : String) : Span := ⟨s, { colour := some c }⟩

/-- A span in bold. -/
def inBold (s : String) : Span := ⟨s, { bold := true }⟩

/-- A dimmed span. -/
def inDim (s : String) : Span := ⟨s, { dimmed := true }⟩

end Runbook.Text
