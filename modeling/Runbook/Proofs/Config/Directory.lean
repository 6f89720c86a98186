/-
  A configuration file that is named is as good as its directory.

  The environment file is looked for beside the configuration file. The directory that its
  path is made with can be written in two ways, which differ by slashes at the end;
  `findText_doubled` says that a slash more leads to the same file.

  * `withEnvFile_directoryOf`: what is put over a configuration does not depend on it;
  * `inDirectory_eq_atPath`: where a directory has a configuration file, loading the
    directory and loading the file come to the same.
-/
import Runbook.Config.Load
import Runbook.Proofs.Text

namespace Runbook

/-! ## Paths as texts -/

namespace Files

/-- An empty name on the way leads nowhere else. -/
theorem follow_empty (fs : Files) (p : Path) (xs : List String) (y : String) (ys : List String) :
    fs.follow p (xs ++ "" :: y :: ys) = fs.follow p (xs ++ y :: ys) := by
  induction xs generalizing p with
  | nil =>
    have here : p.step "" = p := rfl
    rw [List.nil_append, List.nil_append, follow, here]
    rcases hf : fs.find p with e | f
    · rw [follow, hf]
    · cases f with
      | directory => rfl
      | regular _ _ | program _ | null => rw [follow, hf]
  | cons x xs ih =>
    rw [List.cons_append, List.cons_append, follow, follow, ih]

/-- A slash may be doubled. -/
theorem findText_doubled (fs : Files) (cwd : Path) (a b : List Char) :
    fs.findText cwd (String.ofList (a ++ '/' :: '/' :: b)) =
      fs.findText cwd (String.ofList (a ++ '/' :: b)) := by
  obtain ⟨x, xs, ha⟩ := List.exists_cons_of_ne_nil (Text.pieces_ne_nil '/' a)
  obtain ⟨y, ys, hb⟩ := List.exists_cons_of_ne_nil (Text.pieces_ne_nil '/' b)
  have start : (a ++ '/' :: '/' :: b).head? = (a ++ '/' :: b).head? := by
    cases a <;> rfl
  have doubled : Text.pieces '/' (a ++ '/' :: '/' :: b) = x :: (xs ++ [] :: y :: ys) := by
    rw [Text.pieces_append, ha, Text.pieces, if_pos rfl, hb, List.cons_append]
  have once : Text.pieces '/' (a ++ '/' :: b) = x :: (xs ++ y :: ys) := by
    rw [Text.pieces_append, ha, hb, List.cons_append]
  have some_ (cs : List Char) : (String.ofList (a ++ '/' :: cs)).isEmpty = false := by
    simp [← Bool.not_eq_true]
  rw [findText, findText, some_, some_, String.toList_ofList, String.toList_ofList, start,
    doubled, once]
  simp only [List.map_cons, List.map_append, List.drop_succ_cons, List.drop_zero]
  have relative := follow_empty fs cwd (String.ofList x :: xs.map String.ofList)
    (String.ofList y) (ys.map String.ofList)
  have absolute := follow_empty fs [] (xs.map String.ofList) (String.ofList y)
    (ys.map String.ofList)
  rw [List.cons_append, List.cons_append] at relative
  rw [String.ofList_nil, relative, absolute]

end Files

/-! ## The directory of a configuration file -/

namespace Path

variable {dir name : String}

/-- A name below a directory, character by character. -/
theorem join_below (relative : name.toList.head? ≠ some '/') {d : List Char} :
    join (String.ofList (d ++ ['/'])) name = String.ofList (d ++ '/' :: name.toList) := by
  have last : (String.ofList (d ++ ['/'])).toList.getLast? = some '/' := by simp
  rw [join, if_neg (by simp [relative]), if_pos last]
  apply String.toList_injective
  simp

/-- The same without the slash at the end. -/
theorem join_beside (relative : name.toList.head? ≠ some '/') {d : List Char} (some_ : d ≠ [])
    (last : d.getLast? ≠ some '/') :
    join (String.ofList d) name = String.ofList (d ++ '/' :: name.toList) := by
  have notEmpty : (String.ofList d).isEmpty = false := by
    simp [← Bool.not_eq_true, some_]
  rw [join, if_neg (by simp [relative, notEmpty]), if_neg (by simpa using last)]
  apply String.toList_injective
  simp

end Path

namespace Config

variable {m : Machine}

theorem fileName_plain : '/' ∉ fileName.toList := by
  decide

theorem envFileName_relative (m : Machine) : (envFileName m).toList.head? ≠ some '/' := by
  unfold envFileName
  split <;> simp

/-- Two texts for the same file. -/
def SameFile (m : Machine) (path path' : String) : Prop :=
  m.has path = m.has path' ∧ m.readBytes path = m.readBytes path'

theorem withEnvFile_congr {dir dir' : String} {c : Config}
    (same : SameFile m (Path.join dir (envFileName m)) (Path.join dir' (envFileName m))) :
    withEnvFile m dir c = withEnvFile m dir' c := by
  rw [withEnvFile, withEnvFile, readEnv, readEnv, same.1, same.2]

theorem sameFile_doubled (m : Machine) (a b : List Char) :
    SameFile m (String.ofList (a ++ '/' :: '/' :: b)) (String.ofList (a ++ '/' :: b)) := by
  have found := m.files.findText_doubled m.cwd a b
  have zero : (String.ofList (a ++ '/' :: '/' :: b)).toList.contains '\x00' =
      (String.ofList (a ++ '/' :: b)).toList.contains '\x00' := by
    simp
  exact ⟨by rw [Machine.has, Machine.has, found],
    by rw [Machine.readBytes, Machine.readBytes, found, zero]⟩

theorem SameFile.symm {path path' : String} (same : SameFile m path path') :
    SameFile m path' path :=
  ⟨same.1.symm, same.2.symm⟩

/-- The directory of a path that ends in the name of a configuration file. -/
theorem directoryOf_named (a : List Char) :
    directoryOf (String.ofList (a ++ '/' :: fileName.toList)) =
      if a = [] then "/" else String.ofList a := by
  rw [directoryOf, String.toList_ofList, Text.cutLast_append fileName_plain]
  cases a <;> rfl

/-- **The environment file is the same one** whether it is looked for in a directory or
    beside the configuration file of the directory. -/
theorem sameFile_directoryOf (m : Machine) (dir : String) :
    SameFile m (Path.join (directoryOf (Path.join dir fileName)) (envFileName m))
      (Path.join dir (envFileName m)) := by
  have relative := envFileName_relative m
  have relative' : fileName.toList.head? ≠ some '/' := by decide
  obtain ⟨d, rfl⟩ : ∃ d, dir = String.ofList d := ⟨dir.toList, String.ofList_toList.symm⟩
  rcases List.eq_nil_or_concat d with rfl | ⟨e, c, rfl⟩
  · exact ⟨rfl, rfl⟩
  · rw [List.concat_eq_append]
    by_cases hc : c = '/'
    · subst hc
      rw [Path.join_below relative', Path.join_below relative, directoryOf_named]
      by_cases he : e = []
      · subst he
        rw [if_pos rfl]
        have root : Path.join "/" (envFileName m) = _ := Path.join_below (d := []) relative
        rw [root]
        exact ⟨rfl, rfl⟩
      · rw [if_neg he]
        by_cases last : e.getLast? = some '/'
        · obtain ⟨e', rfl⟩ := List.getLast?_eq_some_iff.1 last
          rw [Path.join_below relative, List.append_assoc]
          exact (sameFile_doubled m e' _).symm
        · rw [Path.join_beside relative he last]
          exact ⟨rfl, rfl⟩
    · have last : (e ++ [c]).getLast? ≠ some '/' := by simpa using hc
      rw [Path.join_beside relative' (by simp) last, directoryOf_named, if_neg (by simp)]
      exact ⟨rfl, rfl⟩

/-- **A directory is as good as its configuration file.** -/
theorem inDirectory_eq_atPath {dir : String} (there : m.has (Path.join dir fileName) = true) :
    inDirectory m dir = atPath m (Path.join dir fileName) := by
  rw [inDirectory, atPath, if_pos there, if_pos there]
  rcases read m (Path.join dir fileName) with f | c
  · rfl
  · exact (withEnvFile_congr (sameFile_directoryOf m dir)).symm

end Config

end Runbook
