/-
  What patterns mean.

  * `Meaning` is a pattern whose flags have been followed: which sets of characters, which
    places and which repetitions it is made of;
  * `Ast.meaning` gives it. There are no tables of the characters of all scripts, so what
    needs them is refused unless a flag keeps the pattern to ASCII;
  * `Meaning.regex` is the regular expression that a meaning stands for.
-/
import Runbook.Text.Written

namespace Runbook.Text.Written

/-! ## Depth -/

/-- Expressions may be nested this deep. -/
def nestLimit : Nat := 250

/-- Counts one more level at a part of the pattern. -/
def deeper (depth : Nat) (span : Span) : Except Fault Nat :=
  if depth < nestLimit then .ok (depth + 1) else .error ⟨.nestLimitExceeded nestLimit, span, none⟩

mutual

/-- A set in brackets is not nested too deep. -/
def ClassSet.checkDepth (depth : Nat) : ClassSet → Except Fault Unit
  | .empty _ | .literal _ | .range .. | .named .. | .perl .. | .property _ => pure ()
  | .bracketed span set _ => do set.checkDepth (← deeper depth span)
  | .union span sets => do checkSets (← deeper depth span) sets
  | .join span _ left right => do
    let depth ← deeper depth span
    left.checkDepth depth
    right.checkDepth depth

/-- Sets in brackets are not nested too deep. -/
def checkSets (depth : Nat) : List ClassSet → Except Fault Unit
  | [] => pure ()
  | s :: ss => do
    s.checkDepth depth
    checkSets depth ss

end

mutual

/-- An expression is not nested too deep. -/
def Ast.checkDepth (depth : Nat) : Ast → Except Fault Unit
  | .empty _ | .flags .. | .literal _ | .dot _ | .assertion .. | .perl .. | .property _ => pure ()
  | .bracketed span set _ => do set.checkDepth (← deeper depth span)
  | .repetition span sub .. | .group span _ sub => do sub.checkDepth (← deeper depth span)
  | .alternation span subs | .concat span subs => do checkSubs (← deeper depth span) subs

/-- Expressions are not nested too deep. -/
def checkSubs (depth : Nat) : List Ast → Except Fault Unit
  | [] => pure ()
  | a :: as => do
    a.checkDepth depth
    checkSubs depth as

end

/-! ## Meanings -/

/-- A pattern whose flags have been followed. -/
inductive Meaning where
  | empty
  | set (s : CharSet)
  | anchor (a : Anchor)
  | repeated (m : Meaning) (low : Nat) (high : Option Nat)
  | group (m : Meaning)
  | concat (ms : List Meaning)
  | alternation (ms : List Meaning)
  deriving Repr

/-- The flags that are on at a place of a pattern. -/
structure Flags where
  caseInsensitive : Bool := false
  multiLine : Bool := false
  dotAll : Bool := false
  carriageReturn : Bool := false
  unicode : Bool := true

/-- Turns one flag on or off. The others mean nothing here. -/
def Flags.set (f : Flags) (s : Flag × Bool) : Flags :=
  match s with
  | (.caseInsensitive, on) => { f with caseInsensitive := on }
  | (.multiLine, on) => { f with multiLine := on }
  | (.dotAll, on) => { f with dotAll := on }
  | (.carriageReturn, on) => { f with carriageReturn := on }
  | (.unicode, on) => { f with unicode := on }
  | _ => f

/-- Refuses a part of a pattern if something holds. -/
def refuseIf (condition : Bool) (kind : FaultKind) (span : Span) : Except Fault Unit :=
  if condition then .error ⟨kind, span, none⟩ else pure ()

/-! ## Sets -/

/-- A set, and whether it is closed under the case of letters: then a flag that asks for
    that changes nothing. -/
structure Folded where
  set : CharSet
  closed : Bool

namespace Folded

/-- A set that need not be closed. -/
def loose (s : CharSet) : Folded := ⟨s, false⟩

/-- Closes a set under the case of letters, if a flag asks for it. -/
def fold (f : Flags) (span : Span) (s : Folded) : Except Fault Folded :=
  if !f.caseInsensitive || s.closed then pure s
  else if f.unicode then .error ⟨.caseUnavailable, span, none⟩
  else pure ⟨.anyCase s.set, true⟩

/-- Folds a set and takes what is not in it, if that is asked for. In a set of bytes that is
    no text. -/
def foldAndNegate (f : Flags) (span : Span) (negated : Bool) (s : Folded) : Except Fault Folded := do
  let s ← s.fold f span
  refuseIf (negated && !f.unicode) .invalidUtf8 span
  pure (if negated then { s with set := .not s.set } else s)

/-- The members of two sets. -/
def union (s t : Folded) : Folded := ⟨.or s.set t.set, s.closed && t.closed⟩

end Folded

/-- A literal outside of ASCII that is written as a byte is no text without Unicode. -/
def Literal.check (f : Flags) (l : Literal) : Except Fault Unit :=
  refuseIf (!f.unicode && l.asByte && 0x80 ≤ l.char.toNat) .invalidUtf8 l.span

/-- A literal in a set of bytes lies in ASCII. -/
def Literal.checkMember (f : Flags) (l : Literal) : Except Fault Unit := do
  l.check f
  refuseIf (!f.unicode && 0x80 ≤ l.char.toNat) .unicodeNotAllowed l.span

/-- The name of a set that an escaped letter stands for. -/
def Perl.name : Perl → String
  | digit => "digit"
  | space => "space"
  | word => "word"

/-- The set that an escaped letter stands for, which is a set of ASCII. -/
def perlSet (f : Flags) (span : Span) (kind : Perl) (negated : Bool) : Except Fault CharSet := do
  refuseIf f.unicode .perlClassNotFound span
  refuseIf negated .invalidUtf8 span
  pure ((CharSet.ofName? kind.name).getD .none)

/-- The refusal of a property. -/
def noProperty {α : Type} (f : Flags) (span : Span) : Except Fault α :=
  .error ⟨if f.unicode then .propertyNotFound else .unicodeNotAllowed, span, none⟩

/-- Two sets joined by a sign. -/
def ClassOp.apply (op : ClassOp) (s t : CharSet) : CharSet :=
  match op with
  | intersection => .and s t
  | difference => s.without t
  | symmetricDifference => s.either t

mutual

/-- The set of characters that is written between brackets. -/
def ClassSet.folded (f : Flags) : ClassSet → Except Fault Folded
  | .empty _ => pure ⟨.none, true⟩
  | .literal l => do
    l.checkMember f
    pure (.loose (.one l.char))
  | .range _ first last => do
    first.checkMember f
    last.checkMember f
    pure (.loose (.range first.char last.char))
  | .named span set negated => Folded.foldAndNegate f span negated (.loose set)
  | .perl span kind negated => .loose <$> perlSet f span kind negated
  | .property span => noProperty f span
  | .bracketed span set negated => do Folded.foldAndNegate f span negated (← set.folded f)
  | .union _ sets => foldedUnion f sets
  | .join _ op left right => do
    let s ← left.folded f
    let t ← right.folded f
    let t ← t.fold f right.span
    let s ← s.fold f left.span
    pure ⟨op.apply s.set t.set, s.closed && t.closed⟩

/-- The members of several sets. -/
def foldedUnion (f : Flags) : List ClassSet → Except Fault Folded
  | [] => pure ⟨.none, true⟩
  | s :: ss => do
    let t ← s.folded f
    pure (t.union (← foldedUnion f ss))

end

/-! ## Expressions -/

/-- What is left of flags for the rest of a group. -/
abbrev Translate := StateT Flags (Except Fault)

/-- A point stands for every character but a line feed, or for all. -/
def dotSet (f : Flags) (span : Span) : Except Fault CharSet := do
  refuseIf (!f.unicode) .invalidUtf8 span
  pure <| if f.dotAll then .all
    else if f.carriageReturn then .not (.or (.one '\n') (.one '\r'))
    else .not (.one '\n')

/-- The place that an assertion asks for. -/
def Assertion.anchor (f : Flags) : Assertion → Anchor
  | lineStart =>
    if !f.multiLine then .start else if f.carriageReturn then .returnStart else .lineStart
  | lineFinish =>
    if !f.multiLine then .finish else if f.carriageReturn then .returnFinish else .lineFinish
  | textStart => .start
  | textFinish => .finish
  | word place => .word place !f.unicode

/-- A single character. -/
def Literal.set (f : Flags) (l : Literal) : Except Fault CharSet := do
  l.check f
  pure (← Folded.fold f l.span (.loose (.one l.char))).set

mutual

/-- The meaning of an expression. -/
def Ast.translate : Ast → Translate Meaning
  | .empty _ => pure .empty
  | .flags _ settings => do
    modify (settings.foldl Flags.set)
    pure .empty
  | .literal l => do pure (.set (← l.set (← get)))
  | .dot span => do pure (.set (← dotSet (← get) span))
  | .assertion _ a => do pure (.anchor (a.anchor (← get)))
  | .perl span kind negated => do pure (.set (← perlSet (← get) span kind negated))
  | .property span => do noProperty (← get) span
  | .bracketed span set negated => do
    let f ← get
    let s ← set.folded f
    pure (.set (← s.foldAndNegate f span negated).set)
  | .repetition _ sub low high => do pure (.repeated (← sub.translate) low high)
  | .group _ settings sub => do
    let outer ← get
    modify (settings.foldl Flags.set)
    let m ← sub.translate
    set outer
    pure (.group m)
  | .alternation _ subs => do pure (.alternation (← translateAll subs))
  | .concat _ subs => do pure (.concat (← translateAll subs))

/-- The meanings of expressions one after the other. -/
def translateAll : List Ast → Translate (List Meaning)
  | [] => pure []
  | a :: as => do
    let m ← a.translate
    pure (m :: (← translateAll as))

end

/-- The meaning of a pattern. -/
def Ast.meaning (a : Ast) : Except Fault Meaning := do
  a.checkDepth 0
  pure (← a.translate.run {}).1

/-! ## Regular expressions -/

mutual

/-- A pattern takes no character wherever it matches. -/
def Meaning.isWidthless : Meaning → Bool
  | .empty | .anchor _ => true
  | .set _ => false
  | .repeated m _ high => high == some 0 || m.isWidthless
  | .group m => m.isWidthless
  | .concat ms | .alternation ms => areWidthless ms

/-- None of the patterns takes a character. -/
def areWidthless : List Meaning → Bool
  | [] => true
  | m :: ms => m.isWidthless && areWidthless ms

end

/-- The limits of a repetition: what takes no character need not be tried twice. -/
def Meaning.limits (m : Meaning) (low : Nat) (high : Option Nat) : Nat × Option Nat :=
  if m.isWidthless then (min low 1, some (min (high.getD 1) 1)) else (low, high)

mutual

/-- A pattern asks for a place at a word of any script. -/
def Meaning.asksForWords : Meaning → Bool
  | .anchor (.word _ ascii) => !ascii
  | .empty | .set _ | .anchor _ => false
  | .repeated m _ high => high != some 0 && m.asksForWords
  | .group m => m.asksForWords
  | .concat ms | .alternation ms => askForWords ms

/-- One of the patterns asks for a place at a word of any script. -/
def askForWords : List Meaning → Bool
  | [] => false
  | m :: ms => m.asksForWords || askForWords ms

end

/-- The number of bytes in the states for a set: one state for a byte or a set of ASCII, a
    small tree of them for a set of characters of several bytes. -/
def setSize : CharSet → Nat
  | .range first last => if first == last then 32 * first.utf8Size else if last.toNat < 0x80 then 32 else 424
  | .not _ => 424
  | _ => 48

mutual

/-- The number of bytes in the states that follow a pattern. -/
def Meaning.size : Meaning → Nat
  | .empty | .anchor _ => 32
  | .set s => setSize s
  | .repeated m low high =>
    let (low, high) := m.limits low high
    match high with
    | none => max low 1 * m.size + 64
    | some high => low * m.size + (high - low) * (m.size + 40)
  | .group m => m.size + 64
  | .concat ms => sizeSum ms
  | .alternation ms => sizeSum ms + 64

/-- The number of bytes in the states that follow several patterns. -/
def sizeSum : List Meaning → Nat
  | [] => 0
  | m :: ms => m.size + sizeSum ms

end

mutual

/-- The regular expression that a meaning stands for. -/
def Meaning.regex : Meaning → Regex
  | .empty => .empty
  | .set s => .oneOf s
  | .anchor a => .anchor a
  | .repeated m low high =>
    let (low, high) := m.limits low high
    m.regex.repeated low high
  | .group m => m.regex
  | .concat ms => regexOfAll ms
  | .alternation ms => regexOfAny ms

/-- The regular expression for meanings one after the other. -/
def regexOfAll : List Meaning → Regex
  | [] => .empty
  | m :: ms => m.regex.andThen (regexOfAll ms)

/-- The regular expression for one of several meanings. -/
def regexOfAny : List Meaning → Regex
  | [] => .never
  | m :: ms => m.regex.or (regexOfAny ms)

end

end Runbook.Text.Written
