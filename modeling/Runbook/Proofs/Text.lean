/-
  Parts of texts, and cutting texts at separators.

  * `contains_iff`: a text occurs in another one if that goes on before and behind it;
  * `pieces_append`: the pieces on both sides of a separator;
  * `cutLast_append`: the two sides of a separator that is the last one;
  * `takeWhile_behind`, `dropWhile_behind`: nothing is taken behind a character that is not.
-/
import Mathlib.Data.List.TakeDrop
import Runbook.Text.Blank

namespace Runbook.Text

variable {sep : Char} {a b : List Char}

theorem occursIn_iff (part s : List Char) : occursIn part s = true ↔ part <:+: s := by
  induction s with
  | nil => rw [occursIn, List.isEmpty_iff, List.infix_nil]
  | cons c cs ih =>
    rw [occursIn, Bool.or_eq_true, List.isPrefixOf_iff_prefix, ih, List.infix_cons_iff]

theorem contains_iff {s part : String} : contains s part = true ↔ part.toList <:+: s.toList :=
  occursIn_iff part.toList s.toList

theorem pieces_append (sep : Char) (a b : List Char) :
    pieces sep (a ++ sep :: b) = pieces sep a ++ pieces sep b := by
  induction a with
  | nil => simp [pieces]
  | cons c a ih =>
    rw [List.cons_append, pieces, pieces, ih]
    by_cases hc : c = sep
    · rw [if_pos hc, if_pos hc, List.cons_append]
    · rw [if_neg hc, if_neg hc]
      rcases hp : pieces sep a with _ | ⟨p, ps⟩
      · exact absurd hp (pieces_ne_nil sep a)
      · rfl

/-- The characters behind the last separator. -/
theorem all_apart (h : sep ∉ b) : ∀ c ∈ b.reverse, decide (c ≠ sep) = true := by
  intro c hc
  have apart : c ≠ sep := by
    rintro rfl
    exact h (List.mem_reverse.1 hc)
  exact decide_eq_true apart

theorem cutLast_append (h : sep ∉ b) : cutLast sep (a ++ sep :: b) = some (a, b) := by
  have reversed : (a ++ sep :: b).reverse = b.reverse ++ sep :: a.reverse := by simp
  rw [cutLast, reversed, List.span_eq_takeWhile_dropWhile,
    List.takeWhile_append_of_pos (all_apart h), List.dropWhile_append_of_pos (all_apart h),
    List.takeWhile_cons_of_neg (by simp), List.dropWhile_cons_of_neg (by simp)]
  simp

variable {p : Char → Bool} {c : Char}

theorem takeWhile_behind (stop : p c = false) (s r : List Char) :
    (s ++ c :: r).takeWhile p = s.takeWhile p := by
  induction s with
  | nil => simp [stop]
  | cons d s ih => by_cases hd : p d <;> simp [hd, ih]

theorem dropWhile_behind (stop : p c = false) (s r : List Char) :
    (s ++ c :: r).dropWhile p = s.dropWhile p ++ c :: r := by
  induction s with
  | nil => simp [stop]
  | cons d s ih => by_cases hd : p d <;> simp [hd, ih]

theorem drop_takeWhile (p : Char → Bool) (s : List Char) :
    s.drop (s.takeWhile p).length = s.dropWhile p := by
  induction s with
  | nil => rfl
  | cons d s ih => by_cases hd : p d <;> simp [hd, ih]

end Runbook.Text
