/-
  Quoted words, read back by a shell.

  * `Reads p s a s'`: from the source `s` the reader `p` gives `a` and leaves the source `s'`;
    there is one rule for each reader that a simple command needs;
  * `wordOf t` is the word that a text is read as: one part, which is the text itself;
  * `spelled ws` are words, each quoted, with a blank in front.

  `parts_quoteChars`: a quoted text is read back as one word with no part but the text.
  `nextLine_words`: a line of quoted words is one simple command of these words, and nothing is
  left of the line.
-/
import Mathlib.Data.List.TakeWhile
import Runbook.Discovery
import Runbook.Proofs.Text
import Runbook.Shell.Reader

namespace Runbook.Shell

open ShellWord (special quoteChar quoteChars)

/-! ## Readers -/

/-- A text that is still to be read, from some line on, where there are no aliases. -/
def Source.plain (rest : List Char) (line : Nat) : Source := { rest, line }

/-- From one source a reader gives a result and leaves another source. -/
def Reads {α : Type} (p : Parse α) (s : Source) (a : α) (s' : Source) : Prop :=
  p.run s = .ok (a, s')

namespace Reads

variable {α β : Type} {s s' s'' : Source} {a : α} {b : β} {p : Parse α} {f : α → Parse β}

theorem bind (first : Reads p s a s') (second : Reads (f a) s' b s'') :
    Reads (p >>= f) s b s'' := by
  show (p s >>= fun x => f x.1 x.2) = .ok (b, s'')
  have ran : p s = .ok (a, s') := first
  rw [ran]
  exact second

theorem pure (a : α) (s : Source) : Reads (pure a) s a s := rfl

theorem get (s : Source) : Reads get s s s := rfl

theorem map (g : α → β) (first : Reads p s a s') : Reads (g <$> p) s (g a) s' := by
  rw [map_eq_pure_bind]
  exact first.bind (pure _ _)

end Reads

namespace Parse

variable {r tail : List Char} {line fuel : Nat}

theorem advance_reads (t r : List Char) (line : Nat) :
    Reads (advance t.length) (.plain (t ++ r) line) () (.plain r (line + t.count '\n')) := by
  show Except.ok _ = _
  simp only [Source.plain, List.take_left', List.drop_left']
  rcases t.count '\n' with _ | n <;> rfl

/-! ## Blanks -/

/-- Blanks, which mean nothing between words. -/
def Blanks (b : List Char) : Prop := ∀ c ∈ b, c = ' '

theorem Blanks.nil : Blanks [] := List.forall_mem_nil _

theorem Blanks.one : Blanks [' '] := List.forall_mem_singleton.2 rfl

theorem blankLength_append {b : List Char} (blanks : Blanks b) (solid : blankLength r = 0) :
    blankLength (b ++ r) = b.length := by
  induction b with
  | nil => exact solid
  | cons c b ih =>
    obtain ⟨rfl, rest⟩ := List.forall_mem_cons.1 blanks
    rw [List.cons_append, blankLength, ih rest, List.length_cons]

theorem afterBlanks_reads {b : List Char} (blanks : Blanks b) (solid : blankLength r = 0) :
    Reads afterBlanks (.plain (b ++ r) line) r (.plain r line) := by
  have none_ : b.count '\n' = 0 := by
    rw [List.count_eq_zero]
    intro newline
    exact absurd (blanks _ newline) (by decide)
  have advanced := advance_reads b r line
  rw [none_, Nat.add_zero] at advanced
  refine (Reads.get _).bind ?_
  show Reads (advance (blankLength (b ++ r)) >>= _) _ _ _
  rw [blankLength_append blanks solid]
  exact advanced.bind ((Reads.get _).bind (.pure _ _))

/-! ## Tokens -/

/-- A text that starts with no blank, and with no operator either: with a word, or not at all. -/
structure WordAhead (r : List Char) : Prop where
  solid : blankLength r = 0
  operator : operator? r = none
  redirection : redirection? r = none

/-- The end of a line is an operator. -/
theorem WordAhead.ne_newline (ahead : WordAhead r) {t : List Char} : r ≠ '\n' :: t := by
  rintro rfl
  have newline : operator? ('\n' :: t) = some "\n" := by simp [operator?, List.isPrefixOf]
  exact absurd (newline.symm.trans ahead.operator) nofun

section

variable {b : List Char} (blanks : Blanks b) (ahead : WordAhead r)
include blanks ahead

theorem skipLines_reads : Reads (skipLines (fuel + 1)) (.plain (b ++ r) line) () (.plain r line) := by
  rw [skipLines]
  refine (afterBlanks_reads blanks ahead.solid).bind ?_
  split
  · next t => exact absurd rfl ahead.ne_newline
  · exact .pure _ _

/-- Where there are no aliases, nothing is put in place of the next word. -/
theorem expandAliases_reads (wanted : Bool) :
    Reads (expandAliases false wanted (fuel + 1)) (.plain (b ++ r) line) () (.plain r line) := by
  rw [expandAliases]
  refine (afterBlanks_reads blanks ahead.solid).bind ?_
  refine (Reads.get _).bind ?_
  exact .pure _ _

theorem startCommand_reads :
    Reads (startCommand false) (.plain (b ++ r) line) () (.plain r line) := by
  refine (Reads.get _).bind ?_
  exact expandAliases_reads blanks ahead true

theorem nextWord_reads (wanted : Bool) :
    Reads (nextWord wanted) (.plain (b ++ r) line) () (.plain r line) := by
  refine (Reads.get _).bind ?_
  exact expandAliases_reads blanks ahead wanted

theorem takeOperator_reads (op : String) :
    Reads (takeOperator op) (.plain (b ++ r) line) false (.plain r line) := by
  refine (afterBlanks_reads blanks ahead.solid).bind ?_
  rw [ahead.operator]
  exact .pure _ _

theorem reserved_reads (unreserved : reserved.contains (bareWord r) = false) :
    Reads reserved? (.plain (b ++ r) line) none (.plain r line) := by
  refine (afterBlanks_reads blanks ahead.solid).bind ?_
  simp only [unreserved]
  exact .pure _ _

end

/-! ## Parts of words -/

/-- A text that is behind a word: a blank comes first, or nothing. -/
def Behind (tail : List Char) : Prop := tail = [] ∨ ∃ r, tail = ' ' :: r

theorem isMeta_eq (c : Char) :
    isMeta c = [' ', '\t', '\n', ';', '&', '|', '<', '>', '(', ')'].contains c := by
  rw [isMeta, String.contains_char_eq]
  simp

/-- A character that is never quoted means nothing to the reader of a word. -/
theorem not_special {c : Char} (plain : c ∉ special) :
    c ≠ '\\' ∧ c ≠ '$' ∧ c ≠ '\x60' ∧ c ≠ '"' ∧ c ≠ '\'' ∧ c ≠ '\n' ∧ isMeta c = false := by
  rw [isMeta_eq]
  simp_all [special]

variable {ps w : List Part} {s' : Source}

theorem parts_plain {c : Char} (plain : c ∉ special)
    (rest : Reads (parts .word fuel (addText ps c.toString false)) (.plain r line) w s') :
    Reads (parts .word (fuel + 1) ps) (.plain (c :: r) line) w s' := by
  obtain ⟨h1, h2, h3, h4, h5, h6, inside⟩ := not_special plain
  have advanced : Reads (advance 1) (.plain (c :: r) line) () (.plain r line) := by
    simpa [h6] using advance_reads [c] r line
  rw [parts]
  refine (Reads.get _).bind ?_
  simp only [Source.plain]
  split
  case h_19 same =>
    obtain ⟨rfl, rfl⟩ := List.cons.inj same
    rw [inside]
    exact advanced.bind rest
  all_goals simp_all

/-- Text between quotes is taken as it is, up to the next quote. -/
theorem parts_quote {t : List Char} (plain : '\'' ∉ t)
    (rest : Reads (parts .word fuel (addText ps (String.ofList t) true))
      (.plain r (line + t.count '\n')) w s') :
    Reads (parts .word (fuel + 1) ps) (.plain ('\'' :: (t ++ '\'' :: r)) line) w s' := by
  have apart : ∀ c ∈ t, decide (c ≠ '\'') = true := by
    intro c hc
    have other : c ≠ '\'' := by
      rintro rfl
      exact plain hc
    exact decide_eq_true other
  have taken : (t ++ '\'' :: r).takeWhile (· ≠ '\'') = t := by
    rw [Text.takeWhile_behind (by simp), List.takeWhile_eq_self_iff.2 apart]
  have ended : t.length ≠ (t ++ '\'' :: r).length := by simp
  have advanced : Reads (advance (t.length + 2)) (.plain ('\'' :: (t ++ '\'' :: r)) line) ()
      (.plain r (line + t.count '\n')) := by
    simpa using advance_reads ('\'' :: t ++ ['\'']) r line
  rw [parts]
  refine (Reads.get _).bind ?_
  simp only [Source.plain, taken, if_neg ended]
  exact advanced.bind rest

/-- A quote behind a backslash is text. -/
theorem parts_escaped
    (rest : Reads (parts .word fuel (addText ps "'" true)) (.plain r line) w s') :
    Reads (parts .word (fuel + 1) ps) (.plain ('\\' :: '\'' :: r) line) w s' := by
  have advanced : Reads (advance 2) (.plain ('\\' :: '\'' :: r) line) () (.plain r line) := by
    simpa using advance_reads ['\\', '\''] r line
  rw [parts]
  refine (Reads.get _).bind ?_
  exact advanced.bind rest

theorem parts_behind (behind : Behind tail) :
    Reads (parts .word (fuel + 1) ps) (.plain tail line) ps.reverse (.plain tail line) := by
  rw [parts]
  refine (Reads.get _).bind ?_
  rcases behind with rfl | ⟨r, rfl⟩
  · exact .pure _ _
  · have blank : isMeta ' ' = true := by rw [isMeta_eq]; rfl
    show Reads (if isMeta ' ' = true then _ else _) _ _ _
    rw [if_pos blank]
    exact .pure _ _

/-! ## Quoted words -/

theorem addText_addText (ps : List Part) (s t : String) (quoted : Bool) :
    addText (addText ps s quoted) t quoted = addText ps (s ++ t) quoted := by
  match ps with
  | .text u q :: ps =>
    by_cases same : q = quoted
    · simp [addText, same, String.append_assoc]
    · simp [addText, same]
  | [] | .param _ _ _ _ :: _ | .output _ _ :: _ | .arithmetic _ _ :: _ | .bad :: _ =>
    simp [addText]

theorem foldl_addText (ps : List Part) (t s : List Char) :
    s.foldl (fun ps c => addText ps c.toString false) (addText ps (String.ofList t) false) =
      addText ps (String.ofList (t ++ s)) false := by
  induction s generalizing t with
  | nil => rw [List.append_nil, List.foldl_nil]
  | cons c s ih =>
    have one : String.ofList t ++ c.toString = String.ofList (t ++ [c]) := by
      simp [String.ofList_append, Char.toString]
    rw [List.foldl_cons, addText_addText, one, ih, List.append_assoc, List.singleton_append]

/-- Characters that are never quoted are read one by one. -/
theorem parts_bare {s : List Char} (plain : ∀ c ∈ s, c ∉ special) (behind : Behind tail)
    (enough : s.length + 1 ≤ fuel) :
    Reads (parts .word fuel ps) (.plain (s ++ tail) line)
      (s.foldl (fun ps c => addText ps c.toString false) ps).reverse (.plain tail line) := by
  induction s generalizing ps fuel with
  | nil =>
    obtain ⟨fuel, rfl⟩ := Nat.exists_eq_add_of_le' enough
    exact parts_behind behind
  | cons c s ih =>
    obtain ⟨first, plain⟩ := List.forall_mem_cons.1 plain
    rw [List.length_cons] at enough
    obtain ⟨fuel, rfl⟩ : ∃ n, fuel = n + 1 := Nat.exists_eq_add_of_le' (by omega)
    refine parts_plain first ?_
    exact ih plain (by omega)

/-- Quotes in a text end the quotation, and open it again; `t` is what has been quoted since. -/
theorem parts_quoted {s t : List Char} (plain : '\'' ∉ t) (behind : Behind tail)
    (enough : t.length + (s.flatMap quoteChar).length + 2 ≤ fuel) :
    Reads (parts .word fuel ps)
      (.plain ('\'' :: (t ++ (s.flatMap quoteChar ++ '\'' :: tail))) line)
      (addText ps (String.ofList (t ++ s)) true).reverse
      (.plain tail (line + (t ++ s.flatMap quoteChar).count '\n')) := by
  induction s generalizing t ps fuel line with
  | nil =>
    obtain ⟨fuel, rfl⟩ := Nat.exists_eq_add_of_le' enough
    rw [List.flatMap_nil, List.nil_append, List.append_nil]
    exact parts_quote plain (parts_behind behind)
  | cons c s ih =>
    by_cases quote : c = '\''
    · subst quote
      have written : quoteChar '\'' = ['\'', '\\', '\'', '\''] := rfl
      have joined : addText (addText (addText ps (String.ofList t) true) "'" true)
          (String.ofList s) true = addText ps (String.ofList (t ++ '\'' :: s)) true := by
        rw [addText_addText, addText_addText]
        simp [String.ofList_append, String.ofList_cons]
      rw [List.flatMap_cons, written] at enough ⊢
      obtain ⟨fuel, rfl⟩ : ∃ n, fuel = n + 2 := Nat.exists_eq_add_of_le' (by omega)
      have read : Reads
          (parts .word fuel (addText (addText ps (String.ofList t) true) "'" true))
          (.plain ('\'' :: (s.flatMap quoteChar ++ '\'' :: tail)) (line + t.count '\n'))
          (addText ps (String.ofList (t ++ '\'' :: s)) true).reverse
          (.plain tail (line + t.count '\n' + (s.flatMap quoteChar).count '\n')) := by
        rw [← joined]
        exact ih (t := []) List.not_mem_nil (by simp at enough ⊢; omega)
      have all := parts_quote plain (parts_escaped read)
      simpa [Nat.add_assoc] using all
    · have single : quoteChar c = [c] := if_neg quote
      have longer : '\'' ∉ t ++ [c] := by simp [plain, Ne.symm quote]
      rw [List.flatMap_cons, single] at enough ⊢
      have read : Reads (parts .word fuel ps)
          (.plain ('\'' :: ((t ++ [c]) ++ (s.flatMap quoteChar ++ '\'' :: tail))) line)
          (addText ps (String.ofList ((t ++ [c]) ++ s)) true).reverse
          (.plain tail (line + ((t ++ [c]) ++ s.flatMap quoteChar).count '\n')) :=
        ih longer (by simp at enough ⊢; omega)
      simpa using read

end Parse

/-- A text has to be quoted to be one word. -/
def isQuoted (t : String) : Bool := t.toList.isEmpty || t.toList.any (special.contains ·)

/-- The word that a text is read as, if it was quoted where it has to be: the text itself. -/
def wordOf (t : String) : Word := [.text t (isQuoted t)]

theorem isQuoted_eq_false {t : String} (bare : isQuoted t = false) :
    t.toList ≠ [] ∧ ∀ c ∈ t.toList, c ∉ special := by
  simpa [isQuoted] using bare

theorem quoteChars_eq (t : String) : quoteChars t.toList =
    if isQuoted t then '\'' :: (t.toList.flatMap quoteChar ++ ['\'']) else t.toList := by
  unfold quoteChars isQuoted
  by_cases none_ : t.toList = []
  · simp [none_]
  · simp [none_]

theorem quoteChars_ne_nil (t : String) : quoteChars t.toList ≠ [] := by
  rw [quoteChars_eq]
  split
  · simp
  · next bare => exact (isQuoted_eq_false (by simpa using bare)).1

namespace Parse

variable {r tail : List Char} {line fuel : Nat}

/-- **A quoted text is read back** as one word with no part but the text. -/
theorem parts_quoteChars (t : String) (behind : Behind tail)
    (enough : (quoteChars t.toList).length + 1 ≤ fuel) :
    Reads (parts .word fuel []) (.plain (quoteChars t.toList ++ tail) line) (wordOf t)
      (.plain tail (line + (quoteChars t.toList).count '\n')) := by
  rw [quoteChars_eq] at enough ⊢
  cases quoted : isQuoted t with
  | true =>
    rw [quoted] at enough
    have read : Reads (parts .word fuel [])
        (.plain ('\'' :: (t.toList.flatMap quoteChar ++ '\'' :: tail)) line)
        (addText [] (String.ofList t.toList) true).reverse
        (.plain tail (line + (t.toList.flatMap quoteChar).count '\n')) :=
      parts_quoted (t := []) List.not_mem_nil behind (by simp at enough ⊢; omega)
    simpa [wordOf, quoted, addText] using read
  | false =>
    rw [quoted] at enough
    obtain ⟨some_, plain⟩ := isQuoted_eq_false quoted
    have read : Reads (parts .word fuel []) (.plain (t.toList ++ tail) line)
        (t.toList.foldl (fun ps c => addText ps c.toString false) []).reverse
        (.plain tail line) :=
      parts_bare plain behind enough
    have none_ : t.toList.count '\n' = 0 :=
      List.count_eq_zero.2 fun newline => plain _ newline (by decide)
    obtain ⟨c, s, ht⟩ := List.exists_cons_of_ne_nil some_
    have all : t.toList.foldl (fun ps c => addText ps c.toString false) [] =
        [.text t false] := by
      rw [ht, List.foldl_cons]
      exact (foldl_addText [] [c] s).trans (by simp [addText, ← ht])
    rw [all] at read
    simpa [wordOf, quoted, none_] using read

/-! ## What starts with a word -/

theorem operator_of_inside {c : Char} (inside : isMeta c = false) : operator? (c :: r) = none := by
  have apart : ∀ d ∈ [' ', '\t', '\n', ';', '&', '|', '<', '>', '(', ')'], d ≠ c := by
    rintro d listed rfl
    rw [isMeta_eq, List.contains_iff_mem.2 listed] at inside
    cases inside
  simp only [List.forall_mem_cons] at apart
  obtain ⟨-, -, newline, semicolon, ampersand, bar, less, greater, opens, closes, -⟩ := apart
  simp [operator?, newline, semicolon, ampersand, bar, less, greater, opens, closes]

/-- Digits can be the descriptor of a redirection only in front of its operator. -/
theorem redirection_eq_none (apart : ∀ c ∈ (r.dropWhile Char.isDigit).head?, c ≠ '<' ∧ c ≠ '>') :
    redirection? r = none := by
  unfold redirection?
  dsimp only
  split
  · rfl
  · rw [Text.drop_takeWhile]
    generalize r.dropWhile Char.isDigit = s at apart
    cases s with
    | nil => rfl
    | cons c s =>
      obtain ⟨less, greater⟩ := apart c rfl
      simp [less.symm, greater.symm]

theorem wordAhead_nil : WordAhead [] := ⟨rfl, by simp [operator?], by simp [redirection?]⟩

theorem wordAhead_quoteChars (t : String) (behind : Behind tail) :
    WordAhead (quoteChars t.toList ++ tail) := by
  rw [quoteChars_eq]
  cases quoted : isQuoted t with
  | true =>
    have inside : isMeta '\'' = false := by rw [isMeta_eq]; rfl
    refine ⟨rfl, operator_of_inside inside, redirection_eq_none ?_⟩
    rintro c ⟨⟩
    decide
  | false =>
    obtain ⟨some_, plain⟩ := isQuoted_eq_false quoted
    have solid : WordAhead (t.toList ++ tail) := by
      obtain ⟨c, s, ht⟩ := List.exists_cons_of_ne_nil some_
      have first : c ∉ special := plain c (by simp [ht])
      refine ⟨?_, ?_, redirection_eq_none ?_⟩
      · rw [ht, List.cons_append, blankLength]
        all_goals
          intro _ same
          obtain ⟨rfl, -⟩ := List.cons.inj same
          exact absurd first (by decide)
      · rw [ht]
        exact operator_of_inside (not_special first).2.2.2.2.2.2
      · intro d ahead
        rw [List.dropWhile_append] at ahead
        split at ahead
        · rcases behind with rfl | ⟨r, rfl⟩
          · cases ahead
          · obtain rfl : ' ' = d := Option.some.inj ahead
            decide
        · next rest =>
          have inside : d ∈ t.toList := by
            rcases hd : t.toList.dropWhile Char.isDigit with _ | ⟨e, u⟩
            · simp [hd] at rest
            · rw [hd] at ahead
              obtain rfl : e = d := Option.some.inj ahead
              exact (List.dropWhile_suffix Char.isDigit).mem (hd ▸ List.mem_cons_self)
          constructor <;> rintro rfl <;> exact absurd (plain _ inside) (by decide)
    exact solid

/-- A quoted text is no reserved word; any other text is read as it is. -/
theorem bareWord_quoteChars (t : String) (behind : Behind tail) :
    bareWord (quoteChars t.toList ++ tail) = if isQuoted t then "" else t := by
  rw [quoteChars_eq]
  cases quoted : isQuoted t with
  | true =>
    have inside : isMeta '\'' = false := by rw [isMeta_eq]; rfl
    simp [bareWord, inside, String.contains_char_eq]
  | false =>
    obtain ⟨-, plain⟩ := isQuoted_eq_false quoted
    have inside : ∀ c ∈ t.toList, (!isMeta c) = true := by
      intro c hc
      simp [(not_special (plain c hc)).2.2.2.2.2.2]
    have ended : tail.takeWhile (!isMeta ·) = [] := by
      rcases behind with rfl | ⟨r, rfl⟩
      · rfl
      · have blank : isMeta ' ' = true := by rw [isMeta_eq]; rfl
        simp [blank]
    have whole : (t.toList ++ tail).takeWhile (!isMeta ·) = t.toList := by
      rw [List.takeWhile_append_of_pos inside, ended, List.append_nil]
    have unmarked : t.toList.any ("\\'\"$\x60".contains ·) = false := by
      rw [List.any_eq_false]
      intro c hc
      obtain ⟨h1, h2, h3, h4, h5, -⟩ := not_special (plain c hc)
      simp [String.contains_char_eq, h1, h2, h3, h4, h5]
    simp only [Bool.false_eq_true, if_false, bareWord, whole, unmarked, String.ofList_toList]

/-! ## Simple commands -/

/-- Words, each quoted, with a blank in front of each. -/
def spelled : List String → List Char
  | [] => []
  | t :: ts => ' ' :: (quoteChars t.toList ++ spelled ts)

theorem behind_spelled : ∀ ts : List String, Behind (spelled ts)
  | [] => .inl rfl
  | _ :: _ => .inr ⟨_, rfl⟩

theorem wordAhead_spelled : ∀ ts : List String, WordAhead (spelled ts).tail
  | [] => wordAhead_nil
  | t :: ts => wordAhead_quoteChars t (behind_spelled ts)

theorem spelled_ne_nil (t : String) (ts : List String) : (spelled (t :: ts)).tail ≠ [] := by
  have some_ : quoteChars t.toList ++ spelled ts ≠ [] := by
    intro nothing
    exact quoteChars_ne_nil t (List.append_eq_nil_iff.1 nothing).1
  exact some_

theorem afterBlanks_spelled (ts : List String) :
    Reads afterBlanks (.plain (spelled ts) line) (spelled ts).tail
      (.plain (spelled ts).tail line) := by
  have solid := (wordAhead_spelled ts).solid
  cases ts with
  | nil => exact afterBlanks_reads Blanks.nil solid
  | cons t ts => exact afterBlanks_reads Blanks.one solid

/-- Nothing is assigned by a word in which no equals sign is bare. -/
theorem assignment_wordOf (t : String) : assignment? (wordOf t) = none := by
  rw [wordOf]
  cases quoted : isQuoted t with
  | true => rfl
  | false =>
    obtain ⟨-, plain⟩ := isQuoted_eq_false quoted
    have nothing : t.toList.dropWhile (· ≠ '=') = [] := by
      rw [List.dropWhile_eq_nil_iff]
      intro c hc
      have other : c ≠ '=' := by
        rintro rfl
        exact plain _ hc (by decide)
      exact decide_eq_true other
    simp only [assignment?, nothing]

variable {words : List Word} {c : Command} {n : Option Nat}

/-- One more word of a simple command. -/
theorem simple_word {t : String} {ts : List String}
    (enough : (quoteChars t.toList).length + 1 ≤ fuel)
    (rest : Reads
      (simple (some (n.getD (line + (quoteChars t.toList).count '\n'))) [] (words ++ [wordOf t]) []
        fuel)
      (.plain (spelled ts).tail (line + (quoteChars t.toList).count '\n')) c s') :
    Reads (simple n [] words [] (fuel + 1)) (.plain (spelled (t :: ts)).tail line) c s' := by
  have ahead := wordAhead_spelled (t :: ts)
  rw [simple]
  refine (nextWord_reads Blanks.nil ahead _).bind ?_
  refine (afterBlanks_reads Blanks.nil ahead.solid).bind ?_
  rw [ahead.redirection]
  refine (parts_quoteChars t (behind_spelled ts) enough).bind ?_
  refine (Reads.get _).bind ?_
  rw [assignment_wordOf]
  have read : Reads afterBlanks
      (.plain (spelled ts) (line + (quoteChars t.toList).count '\n')) (spelled ts).tail
      (.plain (spelled ts).tail (line + (quoteChars t.toList).count '\n')) :=
    afterBlanks_spelled ts
  have operator := (wordAhead_spelled ts).operator
  rcases words with _ | ⟨w, ws⟩
  · refine read.bind ?_
    rw [operator]
    exact rest
  · refine read.bind ?_
    exact rest

theorem simple_end (some_ : words ≠ []) {line' : Nat} :
    Reads (simple (some line') [] words [] (fuel + 2)) (.plain [] line) (.simple line' [] words [])
      (.plain [] line) := by
  rw [simple]
  refine (nextWord_reads Blanks.nil wordAhead_nil _).bind ?_
  refine (afterBlanks_reads Blanks.nil wordAhead_nil.solid).bind ?_
  rw [wordAhead_nil.redirection]
  refine (parts_behind (.inl rfl)).bind ?_
  refine (Reads.get _).bind ?_
  rcases words with _ | ⟨w, ws⟩
  · exact absurd rfl some_
  · exact .pure _ _

/-- The words that are left of a simple command. Each step takes one word, and one unit of fuel,
    and a word is at least one character long. -/
theorem simple_words (ts : List String) {line' : Nat} (some_ : words ≠ [])
    (enough : (spelled ts).length + 2 ≤ fuel) :
    Reads (simple (some line') [] words [] fuel) (.plain (spelled ts).tail line)
      (.simple line' [] (words ++ ts.map wordOf) [])
      (.plain [] (line + (spelled ts).count '\n')) := by
  induction ts generalizing words line fuel with
  | nil =>
    obtain ⟨fuel, rfl⟩ := Nat.exists_eq_add_of_le' enough
    rw [List.map_nil, List.append_nil]
    exact simple_end some_
  | cons t ts ih =>
    simp only [spelled, List.length_cons, List.length_append] at enough
    obtain ⟨fuel, rfl⟩ : ∃ n, fuel = n + 1 := Nat.exists_eq_add_of_le' (by omega)
    refine simple_word (by omega) ?_
    have more : words ++ [wordOf t] ≠ [] := by simp
    have read : Reads (simple (some line') [] (words ++ [wordOf t]) [] fuel)
        (.plain (spelled ts).tail (line + (quoteChars t.toList).count '\n'))
        (.simple line' [] ((words ++ [wordOf t]) ++ ts.map wordOf) [])
        (.plain [] (line + (quoteChars t.toList).count '\n' + (spelled ts).count '\n')) :=
      ih more (by omega)
    simpa [spelled, Nat.add_assoc] using read

section

variable {t : String} {ts : List String} (unreserved : reserved.contains t = false)
include unreserved

theorem unreserved_spelled : reserved.contains (bareWord (spelled (t :: ts)).tail) = false := by
  have bare : bareWord (spelled (t :: ts)).tail = if isQuoted t then "" else t :=
    bareWord_quoteChars t (behind_spelled ts)
  rw [bare]
  split
  · simp [reserved]
  · exact unreserved

/-- The command of quoted words. -/
def quotedCommand (line : Nat) (t : String) (ts : List String) : Command :=
  .simple (line + (quoteChars t.toList).count '\n') [] ((t :: ts).map wordOf) []

theorem command_reads (enough : (spelled (t :: ts)).length + 3 ≤ fuel) :
    Reads (command fuel) (.plain (spelled (t :: ts)).tail line) (quotedCommand line t ts)
      (.plain [] (line + (spelled (t :: ts)).count '\n')) := by
  have ahead := wordAhead_spelled (t :: ts)
  simp only [spelled, List.length_cons, List.length_append] at enough
  obtain ⟨fuel, rfl⟩ : ∃ n, fuel = n + 2 := Nat.exists_eq_add_of_le' (by omega)
  rw [command]
  refine (Reads.get _).bind ?_
  refine (afterBlanks_reads Blanks.nil ahead.solid).bind ?_
  rw [ahead.operator]
  refine Reads.bind (reserved_reads (b := []) Blanks.nil ahead (unreserved_spelled unreserved)) ?_
  have more : ([] : List Word) ++ [wordOf t] ≠ [] := by simp
  have rest : Reads
      (simple (some (line + (quoteChars t.toList).count '\n')) [] ([] ++ [wordOf t]) [] fuel)
      (.plain (spelled ts).tail (line + (quoteChars t.toList).count '\n'))
      (.simple (line + (quoteChars t.toList).count '\n') [] (([] ++ [wordOf t]) ++ ts.map wordOf)
        [])
      (.plain [] (line + (quoteChars t.toList).count '\n' + (spelled ts).count '\n')) :=
    simple_words ts more (by omega)
  have all := simple_word (n := none) (by omega) rest
  simpa [quotedCommand, spelled, Nat.add_assoc] using all

theorem piped_reads (enough : (spelled (t :: ts)).length + 4 ≤ fuel) :
    Reads (piped fuel) (.plain (spelled (t :: ts)).tail line) (quotedCommand line t ts)
      (.plain [] (line + (spelled (t :: ts)).count '\n')) := by
  obtain ⟨fuel, rfl⟩ : ∃ n, fuel = n + 1 := Nat.exists_eq_add_of_le' (by omega)
  rw [piped]
  refine (command_reads unreserved (by omega)).bind ?_
  refine (takeOperator_reads Blanks.nil wordAhead_nil _).bind ?_
  exact .pure _ _

theorem pipeline_reads (enough : (spelled (t :: ts)).length + 5 ≤ fuel) :
    Reads (pipeline fuel) (.plain (spelled (t :: ts)).tail line) (quotedCommand line t ts)
      (.plain [] (line + (spelled (t :: ts)).count '\n')) := by
  obtain ⟨fuel, rfl⟩ : ∃ n, fuel = n + 1 := Nat.exists_eq_add_of_le' (by omega)
  have ahead := wordAhead_spelled (t :: ts)
  rw [pipeline]
  refine (startCommand_reads Blanks.nil ahead).bind ?_
  refine (reserved_reads Blanks.nil ahead (unreserved_spelled unreserved)).bind ?_
  exact piped_reads unreserved (by omega)

theorem andOr_reads (enough : (spelled (t :: ts)).length + 6 ≤ fuel) :
    Reads (andOr fuel) (.plain (spelled (t :: ts)).tail line) (quotedCommand line t ts)
      (.plain [] (line + (spelled (t :: ts)).count '\n')) := by
  obtain ⟨fuel, rfl⟩ : ∃ n, fuel = n + 2 := Nat.exists_eq_add_of_le' (by omega)
  rw [andOr]
  refine (pipeline_reads unreserved (by omega)).bind ?_
  rw [andOrRest]
  refine (takeOperator_reads Blanks.nil wordAhead_nil _).bind ?_
  refine (takeOperator_reads Blanks.nil wordAhead_nil _).bind ?_
  exact .pure _ _

theorem lineCommands_reads :
    Reads (lineCommands (fuel + 1)) (.plain (spelled (t :: ts)).tail line)
      [quotedCommand line t ts] (.plain [] (line + (spelled (t :: ts)).count '\n')) := by
  have ahead := wordAhead_spelled (t :: ts)
  have enough : (spelled (t :: ts)).length + 6 ≤ 10 * (spelled (t :: ts)).tail.length + 20 := by
    simp only [List.length_tail]
    omega
  rw [lineCommands]
  refine (startCommand_reads Blanks.nil ahead).bind ?_
  refine (afterBlanks_reads Blanks.nil ahead.solid).bind ?_
  have some_ : ¬ (spelled (t :: ts)).tail.isEmpty = true := by
    simpa [List.isEmpty_iff] using spelled_ne_nil t ts
  have inside : ¬ ((spelled (t :: ts)).tail.head? == some '\n') = true := by
    rw [beq_iff_eq, List.head?_eq_some_iff]
    rintro ⟨r, newline⟩
    exact ahead.ne_newline newline
  rw [if_neg some_, if_neg inside]
  refine (andOr_reads unreserved enough).bind ?_
  refine (afterBlanks_reads Blanks.nil wordAhead_nil.solid).bind ?_
  rw [wordAhead_nil.operator]
  refine (Reads.get _).bind ?_
  exact .pure _ _

/-- **A line of quoted words is one simple command**, of these words and of nothing else, if the
    first is no reserved word; and nothing of the line is left to be read. -/
theorem nextLine_words :
    Reads nextLine (.plain (spelled (t :: ts)).tail line)
      (some (.sequence [quotedCommand line t ts]))
      (.plain [] (line + (spelled (t :: ts)).count '\n')) := by
  have ahead := wordAhead_spelled (t :: ts)
  refine (Reads.get _).bind ?_
  refine (skipLines_reads Blanks.nil ahead).bind ?_
  refine (Reads.get _).bind ?_
  have some_ : ¬ (spelled (t :: ts)).tail.isEmpty = true := by
    simpa [List.isEmpty_iff] using spelled_ne_nil t ts
  show Reads (if (spelled (t :: ts)).tail.isEmpty = true then _ else _) _ _ _
  rw [if_neg some_]
  exact ((lineCommands_reads unreserved).map _).map _

end

end Parse

end Runbook.Shell
