/-
  Log filters: which notices are shown.

  A filter is written as directives with commas between them: a level, an origin, or an
  origin, an equals sign and its level. A slash and a regular expression may follow, which
  the text of a notice has to match. `Filter.parse` reads it and says which parts mean
  nothing; `Filter.admits` asks the directive with the longest origin that a notice's
  origin starts with.
-/
import Runbook.Log.Notice
import Runbook.Text.Written.Report

namespace Runbook

/-- The least grave notices that are shown, by rank; zero shows none. -/
abbrev Threshold := Nat

namespace Threshold

/-- The words for thresholds, in any case of letters. -/
def ofName? (s : String) : Option Threshold :=
  ["OFF", "ERROR", "WARN", "INFO", "DEBUG", "TRACE"].idxOf? (String.ofList (s.toList.map Char.toUpper))

/-- The threshold that shows everything. -/
def all : Threshold := Level.trace.rank

end Threshold

/-- A rule of a filter: the origins that it is about, all of them if none is named. -/
structure Directive where
  origin : Option String
  threshold : Threshold
  deriving DecidableEq, Repr

/-- Directives, each origin once, and what the texts of notices have to match. -/
structure Filter where
  directives : List Directive := []
  pattern : Option Text.Regex := none
  deriving DecidableEq, Repr

namespace Filter

/-- Adds a directive; one about the same origins is replaced. -/
def put (f : Filter) (d : Directive) : Filter :=
  if f.directives.any (·.origin == d.origin) then
    { f with directives := f.directives.map fun e => if e.origin = d.origin then d else e }
  else { f with directives := f.directives ++ [d] }

/-- Shows notices without a directive of their own down to a level. -/
def withLevel (f : Filter) (l : Level) : Filter := f.put ⟨none, l.rank⟩

/-- The directive of one part of a filter, if it is not empty. A failure is the text that
    means nothing. -/
def directive (part : String) : Except String (Option Directive) :=
  match (Text.pieces '=' part.toList).map String.ofList with
  | [origin] =>
    .ok (if origin.isEmpty then none
      else match Threshold.ofName? origin with
        | some t => some ⟨none, t⟩
        | none => some ⟨some origin, Threshold.all⟩)
  | [origin, word] =>
    let word := Text.trim word
    if word.isEmpty then .ok (some ⟨some origin, Threshold.all⟩)
    else match Threshold.ofName? word with
      | some t => .ok (some ⟨some origin, t⟩)
      | none => .error ("invalid logging spec '" ++ word ++ "'")
  | _ => .error ("invalid logging spec '" ++ part ++ "'")

/-- Adds the directives of a text to a filter. -/
def putAll (f : Filter) (spec : List Char) : Filter × List String :=
  ((Text.pieces ',' spec).map fun p => Text.trim (String.ofList p)).foldl
    (fun (f, warnings) part =>
      match directive part with
      | .ok none => (f, warnings)
      | .ok (some d) => (f.put d, warnings)
      | .error e => (f, warnings ++ [e]))
    (f, [])

/-- Reads a filter; the messages are about the parts that mean nothing. -/
def parse (spec : String) : Filter × List String :=
  match Text.pieces '/' spec.toList with
  | [directives] => putAll {} directives
  | [directives, pattern] =>
    match Text.Written.regex (String.ofList pattern) with
    | .ok r => putAll { pattern := some r } directives
    | .error e =>
      let (f, warnings) := putAll {} directives
      (f, warnings ++ ["invalid regex filter - " ++ e])
  | _ => ({}, ["invalid logging spec '" ++ spec ++ "' (too many '/'s)"])

/-- The directive that is more about one origin than another, of two that apply. -/
def closer (d e : Directive) : Directive :=
  if (d.origin.getD "").utf8ByteSize ≤ (e.origin.getD "").utf8ByteSize then e else d

/-- The threshold for an origin. Without any directive, errors are shown. -/
def threshold (f : Filter) (origin : String) : Threshold :=
  let applies (d : Directive) : Bool := (d.origin.getD "").toList.isPrefixOf origin.toList
  match f.directives.filter applies with
  | [] => if f.directives.isEmpty then Level.error.rank else 0
  | d :: ds => (ds.foldl closer d).threshold

/-- A notice with a certain text is shown. -/
def admits (f : Filter) (n : Notice) (text : String) : Bool :=
  n.level.rank ≤ f.threshold n.origin.path && f.pattern.all (·.occursIn text)

end Filter

end Runbook
