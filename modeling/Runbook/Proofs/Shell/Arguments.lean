/-
  Quoted words stand for themselves.

  `arguments_words`: in every state of a shell the words that quoted texts are read as are
  expanded to these texts. None of them is cut, and none is taken for a pattern, for a home
  directory, or for an assignment.
-/
import Runbook.Proofs.Shell.Reading
import Runbook.Shell.Run

namespace Runbook.Shell

open ShellWord (special)

/-! ## Home directories -/

/-- A tilde is always quoted. -/
theorem withHomes_wordOf (s : State) (t : String) : withHomes s false (wordOf t) = wordOf t := by
  cases quoted : isQuoted t with
  | true => simp [withHomes, wordOf, quoted]
  | false =>
    obtain ⟨-, plain⟩ := isQuoted_eq_false quoted
    have bare : t.toList.head? ≠ some '~' := by
      intro tilde
      exact plain '~' (List.mem_of_mem_head? tilde) (by decide)
    simp [withHomes, wordOf, quoted, textHomes, bare]

/-! ## Glyphs -/

/-- The glyphs of a word that is a text: none of them comes from an expansion. -/
def literalGlyphs (t : String) : List Glyph := glyphsOf t (isQuoted t) false

theorem textOf_literalGlyphs (t : String) : textOf (literalGlyphs t) = t := by
  simp [textOf, literalGlyphs, glyphsOf, Function.comp_def]

/-- No character that means something in a pattern is bare. -/
theorem isBare_literal {t : String} {g : Glyph} (hg : g ∈ literalGlyphs t) {c : Char}
    (meaning : c ∈ special) : g.isBare c = false := by
  obtain ⟨d, hd, rfl⟩ := List.mem_map.1 hg
  cases quoted : isQuoted t with
  | true => simp [Glyph.isBare]
  | false =>
    have other : d ≠ c := by
      rintro rfl
      exact (isQuoted_eq_false quoted).2 _ hd meaning
    simp [Glyph.isBare, other]

theorem withoutEscapes_eq {gs : List Glyph} (plain : ∀ g ∈ gs, g.isBare '\\' = false) :
    withoutEscapes gs = gs := by
  induction gs with
  | nil => rfl
  | cons g gs ih =>
    obtain ⟨first, plain⟩ := List.forall_mem_cons.1 plain
    cases gs with
    | nil => rfl
    | cons h gs =>
      rw [withoutEscapes, first, ih plain]
      rfl

theorem hasOperators_eq_false {gs : List Glyph}
    (plain : ∀ g ∈ gs, g.isBare '*' = false ∧ g.isBare '?' = false ∧ g.isBare '[' = false) :
    hasOperators gs = false := by
  induction gs with
  | nil => rfl
  | cons g gs ih =>
    obtain ⟨⟨star, mark, bracket⟩, plain⟩ := List.forall_mem_cons.1 plain
    simp [hasOperators, star, mark, bracket, ih plain]

/-- A text is no pattern, whatever files there are. -/
theorem argumentsOf_literal (files : Files) (cwd : Path) (t : String) :
    argumentsOf files cwd (literalGlyphs t) = [t] := by
  have whole : withoutEscapes (literalGlyphs t) = literalGlyphs t :=
    withoutEscapes_eq fun g hg => isBare_literal hg (by decide)
  have plain : hasOperators (literalGlyphs t) = false :=
    hasOperators_eq_false fun g hg =>
      ⟨isBare_literal hg (by decide), isBare_literal hg (by decide), isBare_literal hg (by decide)⟩
  simp [argumentsOf, whole, plain, textOf_literalGlyphs]

/-! ## Cutting -/

/-- The pieces of a word that is a text. -/
def literalPieces (t : String) : List Piece :=
  (if isQuoted t then [.mark] else []) ++ (literalGlyphs t).map .glyph

/-- Glyphs that come from no expansion are put together. -/
theorem foldl_add_glyphs (separators : List Char) {gs : List Glyph}
    (literal : ∀ g ∈ gs, g.expanded = false) (c : Cutting) (counts : c.counts = true ∨ gs ≠ []) :
    ((gs.map Piece.glyph).foldl (Cutting.add separators) c).finish.done =
      (c.now.reverse ++ gs) :: c.done := by
  induction gs generalizing c with
  | nil =>
    have counts : c.counts = true := by simpa using counts
    simp [Cutting.finish, counts]
  | cons g gs ih =>
    obtain ⟨first, literal⟩ := List.forall_mem_cons.1 literal
    have added : Cutting.add separators c (.glyph g) =
        { c with now := g :: c.now, counts := true, afterBlank := false } := by
      simp [Cutting.add, first]
    rw [List.map_cons, List.foldl_cons, added, ih literal _ (.inl rfl)]
    simp

theorem cutPieces_literal (separators : List Char) (t : String) :
    cutPieces separators (literalPieces t) = [literalGlyphs t] := by
  have literal : ∀ g ∈ literalGlyphs t, g.expanded = false := by
    intro g hg
    obtain ⟨d, -, rfl⟩ := List.mem_map.1 hg
    rfl
  rw [cutPieces, literalPieces]
  cases quoted : isQuoted t with
  | true =>
    have cut := foldl_add_glyphs separators literal { counts := true, afterBlank := false }
      (.inl rfl)
    simpa [Cutting.add] using cut
  | false =>
    have some_ : literalGlyphs t ≠ [] := by
      simpa [literalGlyphs, glyphsOf] using (isQuoted_eq_false quoted).1
    have cut := foldl_add_glyphs separators literal {} (.inr some_)
    simpa using cut

/-! ## Arguments -/

/-- A step goes on with the result of the one before it. -/
theorem run_bind_ok {α β : Type} {x : Eval α} {f : α → Eval β} {a : α} {s s' : State}
    (ran : x.run s = (.ok a, s')) : (x >>= f).run s = (f a).run s' := by
  show ExceptT.bindCont f (x.run s).1 (x.run s).2 = _
  rw [ran]
  rfl

theorem expandWord_wordOf (fuel : Nat) (t : String) (s : State) :
    (expandWord (fuel + 2) false (wordOf t)).run s = (.ok (literalPieces t), s) := by
  have pieces : literalPieces t ++ [] = literalPieces t := List.append_nil _
  rw [wordOf, expandWord, expandPart, expandWord, ← pieces]
  · rfl
  all_goals omega

/-- One more argument, whether words can be patterns or not. -/
theorem arguments_word (t : String) (ws : List Word) (before : List String) (s : State)
    (fuel : Nat) :
    (arguments (fuel + 3) before (wordOf t :: ws)).run s =
      (arguments (fuel + 2) (before ++ [t]) ws).run s := by
  have unassigned (assigns : Bool) :
      (if assigns then Parse.assignment? (wordOf t) else none) = none := by
    rw [Parse.assignment_wordOf, ite_self]
  rw [arguments]
  simp only [unassigned]
  refine (run_bind_ok rfl).trans ?_
  rw [withHomes_wordOf]
  refine (run_bind_ok (expandWord_wordOf fuel t s)).trans ?_
  refine (run_bind_ok rfl).trans ?_
  rw [cutPieces_literal]
  split
  · rw [List.map_singleton, textOf_literalGlyphs]
  · rw [List.flatMap_singleton, argumentsOf_literal]

/-- **Quoted words stand for themselves**, in every state of the shell. -/
theorem arguments_words (ts before : List String) (s : State) {fuel : Nat}
    (enough : ts.length + 3 ≤ fuel) :
    (arguments fuel before (ts.map wordOf)).run s = (.ok (before ++ ts), s) := by
  induction ts generalizing before fuel with
  | nil =>
    obtain ⟨fuel, rfl⟩ := Nat.exists_eq_add_of_le' enough
    rw [List.map_nil, arguments, List.append_nil]
    · rfl
    · omega
  | cons t ts ih =>
    obtain ⟨fuel, rfl⟩ : ∃ n, fuel = n + 3 := Nat.exists_eq_add_of_le' (by omega)
    have enough : ts.length + 3 ≤ fuel + 2 := by
      rw [List.length_cons] at enough
      omega
    rw [List.map_cons, arguments_word, ih (before ++ [t]) enough, List.append_assoc,
      List.singleton_append]

end Runbook.Shell
