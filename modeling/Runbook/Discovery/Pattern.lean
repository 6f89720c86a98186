/-
  File name patterns: `?` for one character, `*` for any number of characters, `**` for
  any number of whole path components, and brackets for one of several characters.

  * `Pattern.parse` reads a pattern or says where and why it is none;
  * `Pattern.accepts` decides whether a name matches. Slashes and leading dots are
    characters like others for `?`, `*` and brackets.
-/

namespace Runbook

/-- What stands in brackets. -/
inductive CharClass where
  | single (c : Char)
  | range (low high : Char)
  deriving DecidableEq, Repr

/-- A character belongs to a class. -/
def CharClass.has : CharClass → Char → Bool
  | .single a, c => a == c
  | .range low high, c => low ≤ c && c ≤ high

/-- A part of a pattern. -/
inductive PatternToken where
  | char (c : Char)
  | anyChar
  | anySequence
  /-- Any number of whole components, each with the slash after it. -/
  | anyComponents
  | oneOf (classes : List CharClass)
  | noneOf (classes : List CharClass)
  deriving DecidableEq, Repr

/-- A pattern. -/
abbrev Pattern := List PatternToken

/-- Why a text is no pattern. -/
inductive PatternFlaw where
  | wildcards
  | components
  | range
  deriving DecidableEq, Repr

/-- A flaw and the place of the character that shows it. -/
structure PatternError where
  position : Nat
  flaw : PatternFlaw
  deriving DecidableEq, Repr

/-- The wording of a flaw. -/
def PatternFlaw.message : PatternFlaw → String
  | .wildcards => "wildcards are either regular `*` or recursive `**`"
  | .components => "recursive wildcards must form a single path component"
  | .range => "invalid range pattern"

/-- The wording of an error. -/
def PatternError.message (e : PatternError) : String :=
  "Pattern syntax error near position " ++ toString e.position ++ ": " ++ e.flaw.message

namespace Pattern

/-- The classes between brackets: a dash between two characters makes a range. -/
def classes : List Char → List CharClass
  | a :: '-' :: b :: rest => .range a b :: classes rest
  | a :: rest => .single a :: classes rest
  | [] => []

/-- The brackets that start after `[`: whether they exclude, what is between them, and
    what follows the closing one. The first character never closes them. -/
def bracket? : List Char → Option (Bool × List Char × List Char)
  | '!' :: a :: r =>
    match r.dropWhile (· ≠ ']') with
    | _ :: rest => some (true, a :: r.takeWhile (· ≠ ']'), rest)
    | [] => none
  | '!' :: [] => none
  | a :: r =>
    match r.dropWhile (· ≠ ']') with
    | _ :: rest => some (false, a :: r.takeWhile (· ≠ ']'), rest)
    | [] => none
  | [] => none

theorem length_dropWhile_le (p : Char → Bool) (s : List Char) :
    (s.dropWhile p).length ≤ s.length := by
  induction s with
  | nil => simp
  | cons c cs ih =>
    simp only [List.dropWhile_cons]
    split
    · simp; omega
    · simp

theorem length_lt_of_bracket? {s inside rest : List Char} {excludes : Bool}
    (h : bracket? s = some (excludes, inside, rest)) : rest.length < s.length := by
  have key : ∀ {r t : List Char} {x : Char}, r.dropWhile (· ≠ ']') = x :: t →
      t.length < r.length := by
    intro r t x hr
    have := length_dropWhile_le (· ≠ ']') r
    rw [hr] at this
    simp at this
    omega
  unfold bracket? at h
  split at h
  · split at h
    · rename_i heq
      have := key heq
      simp at h
      obtain ⟨-, -, rfl⟩ := h
      simp; omega
    · simp at h
  · simp at h
  · split at h
    · rename_i heq
      have := key heq
      simp at h
      obtain ⟨-, -, rfl⟩ := h
      simp; omega
    · simp at h
  · simp at h

/-- Reads the tokens of a pattern. `before` is the character in front of the text, and
    `position` its number of characters. -/
def tokens (before : Option Char) (position : Nat) : List Char → Except PatternError Pattern
  | [] => .ok []
  | '*' :: '*' :: '*' :: _ => .error ⟨position + 2, .wildcards⟩
  | '*' :: '*' :: rest =>
    if before = none ∨ before = some '/' then
      match rest with
      | [] => .ok [.anyComponents]
      | c :: rest =>
        if c = '/' then do
          let ts ← tokens (some '/') (position + 3) rest
          pure (.anyComponents :: ts)
        else .error ⟨position + 2, .components⟩
    else .error ⟨position - 1, .components⟩
  | '*' :: rest => do
    let ts ← tokens (some '*') (position + 1) rest
    pure (.anySequence :: ts)
  | '?' :: rest => do
    let ts ← tokens (some '?') (position + 1) rest
    pure (.anyChar :: ts)
  | '[' :: rest =>
    match h : bracket? rest with
    | none => .error ⟨position, .range⟩
    | some (excludes, inside, rest') => do
      have := length_lt_of_bracket? h
      let ts ← tokens (some ']') (position + 1 + (rest.length - rest'.length)) rest'
      pure ((if excludes then .noneOf (classes inside) else .oneOf (classes inside)) :: ts)
  | c :: rest => do
    let ts ← tokens (some c) (position + 1) rest
    pure (.char c :: ts)
termination_by s => s.length
decreasing_by all_goals simp_all <;> omega

/-- Reads a pattern. -/
def parse (s : String) : Except PatternError Pattern := tokens none 0 s.toList

/-- What is left of a text when some of its characters are taken from the front. -/
def suffixes : List Char → List (List Char)
  | [] => [[]]
  | c :: cs => (c :: cs) :: suffixes cs

/-- What is left of a text when it is cut after one of its slashes. -/
def afterSlashes : List Char → List (List Char)
  | [] => []
  | c :: cs => if c = '/' then cs :: afterSlashes cs else afterSlashes cs

/-- A name matches a pattern. -/
def accepts : Pattern → List Char → Bool
  | [], s => s.isEmpty
  | .anySequence :: ts, s => (suffixes s).any (accepts ts)
  | .anyComponents :: ts, s => accepts ts s || (afterSlashes s).any (accepts ts) || accepts ts []
  | .char c :: ts, d :: s => c == d && accepts ts s
  | .anyChar :: ts, _ :: s => accepts ts s
  | .oneOf cs :: ts, d :: s => cs.any (·.has d) && accepts ts s
  | .noneOf cs :: ts, d :: s => !cs.any (·.has d) && accepts ts s
  | _ :: _, [] => false

end Pattern

end Runbook
