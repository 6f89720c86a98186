/-
  The interpreter of local commands that a configuration asks for.

  * `Config.NamesShell`: its name is the configured one, else that of the user unless it is
    empty, else `sh`;
  * `Machine.LooksAt`: the paths at which a program of that name is looked for, in order;
  * `Machine.Resolves`: the name stands for the first of them that can be run, and for itself
    if there is none;
  * `TakesFlag`: the flag that stands in front of a command line;
  * `runsShell_iff` and `takesFlag_iff`: so it is chosen, and not otherwise.
-/
import Runbook.Machine.Lookup
import Runbook.Proofs.Text
import Runbook.Session.Local

namespace Runbook

/-! ## Its name -/

/-- The name of the interpreter, given the one that is configured. -/
inductive Machine.NamesShell (m : Machine) : Option String → String → Prop
  | configured (name : String) : NamesShell m (some name) name
  | user {name : String} (given : m.env.get? "SHELL" = some name) (real : name ≠ "") :
      NamesShell m none name
  | usual (ungiven : ∀ name, m.env.get? "SHELL" = some name → name = "") : NamesShell m none "sh"

/-! ## The path that is found for it -/

/-- What lies at a path can be run. -/
inductive Machine.HasProgram (m : Machine) (path : String) : Prop
  | script {content : Bytes} (lies : m.files.findText m.cwd path = .ok (.regular content true))
  | program {name : String} (lies : m.files.findText m.cwd path = .ok (.program name))

/-- The paths at which a program is looked for, in their order: a name of several parts is a path
    itself, any other is looked for in the directories of the search path. -/
inductive Machine.LooksAt (m : Machine) (name : String) : List String → Prop
  | itself (several : 1 < (Path.parts name).length) : LooksAt m name [m.absolute name]
  | searched {dirs : String} (single : (Path.parts name).length ≤ 1)
      (given : m.env.get? "PATH" = some dirs) :
      LooksAt m name
        ((searchPath dirs).map fun d => Path.join (m.absolute (m.expandHome d)) name)
  | nowhere (single : (Path.parts name).length ≤ 1) (ungiven : m.env.get? "PATH" = none) :
      LooksAt m name []

/-- What a program's name stands for. -/
inductive Machine.Resolves (m : Machine) (name : String) : String → Prop
  | found {path : String} {before after : List String}
      (looks : m.LooksAt name (before ++ path :: after)) (there : m.HasProgram path)
      (first : ∀ p ∈ before, ¬ m.HasProgram p) : Resolves m name path
  | unfound {paths : List String} (looks : m.LooksAt name paths)
      (missing : ∀ p ∈ paths, ¬ m.HasProgram p) : Resolves m name name

/-- The interpreter that is used, given the one that is configured. -/
def Machine.RunsShell (m : Machine) (configured : Option String) (shell : String) : Prop :=
  ∃ name, m.NamesShell configured name ∧ m.Resolves name shell

namespace Machine

variable (m : Machine)

theorem isRunnable_iff {path : String} : m.isRunnable path = true ↔ m.HasProgram path := by
  unfold isRunnable
  constructor
  · intro runs
    split at runs
    · next lies => exact .script lies
    · next lies => exact .program lies
    · cases runs
  · rintro (lies | lies)
    · rw [lies]
    · rw [lies]

theorem looksAt_iff {name : String} {paths : List String} :
    m.LooksAt name paths ↔ paths = m.candidates name := by
  unfold candidates
  constructor
  · rintro (several | ⟨single, given⟩ | ⟨single, ungiven⟩)
    · have path : isPath name = true := decide_eq_true several
      rw [if_pos path]
    · have plain : ¬ isPath name = true := by simpa [isPath] using single
      rw [if_neg plain, given]
    · have plain : ¬ isPath name = true := by simpa [isPath] using single
      rw [if_neg plain, ungiven]
  · intro same
    by_cases several : isPath name = true
    · rw [if_pos several] at same
      subst same
      exact .itself (of_decide_eq_true several)
    · have single : (Path.parts name).length ≤ 1 := by simpa [isPath] using several
      rw [if_neg several] at same
      rcases given : m.env.get? "PATH" with _ | dirs
      · rw [given] at same
        subst same
        exact .nowhere single given
      · rw [given] at same
        subst same
        exact .searched single given

theorem resolves_iff {name shell : String} :
    m.Resolves name shell ↔ shell = (m.lookup? name).getD name := by
  unfold lookup?
  constructor
  · intro resolves
    cases resolves with
    | @found _ before after looks there first =>
      have misses : ∀ p ∈ before, (!m.isRunnable p) = true := by
        intro p hp
        rw [Bool.not_eq_true', Bool.eq_false_iff]
        exact fun runs => first p hp (m.isRunnable_iff.1 runs)
      have found : (before ++ shell :: after).find? m.isRunnable = some shell :=
        List.find?_eq_some_iff_append.2 ⟨m.isRunnable_iff.2 there, before, after, rfl, misses⟩
      rw [← m.looksAt_iff.1 looks, found]
      rfl
    | @unfound paths looks missing =>
      have unfound : paths.find? m.isRunnable = none :=
        List.find?_eq_none.2 fun p hp runs => missing p hp (m.isRunnable_iff.1 runs)
      rw [← m.looksAt_iff.1 looks, unfound]
      rfl
  · intro same
    have looks : m.LooksAt name (m.candidates name) := m.looksAt_iff.2 rfl
    rcases found : (m.candidates name).find? m.isRunnable with _ | path
    · rw [found] at same
      subst same
      refine .unfound looks fun p hp there => ?_
      exact List.find?_eq_none.1 found p hp (m.isRunnable_iff.2 there)
    · rw [found] at same
      subst same
      obtain ⟨runs, before, after, split, misses⟩ := List.find?_eq_some_iff_append.1 found
      rw [split] at looks
      refine .found looks (m.isRunnable_iff.1 runs) fun p hp there => ?_
      have missed := misses p hp
      rw [m.isRunnable_iff.2 there] at missed
      cases missed

theorem namesShell_iff {configured : Option String} {name : String} :
    m.NamesShell configured name ↔
      name = (configured.or ((m.env.get? "SHELL").filter (!·.isEmpty))).getD "sh" := by
  constructor
  · rintro (⟨⟩ | ⟨given, real⟩ | ungiven)
    · rfl
    · simp [given, real, Option.filter_some]
    · rcases given : m.env.get? "SHELL" with _ | user
      · rfl
      · simp [ungiven user given, Option.filter_some]
  · rintro rfl
    rcases configured with _ | name
    · rw [Option.none_or]
      rcases given : m.env.get? "SHELL" with _ | user
      · exact .usual (by simp [given])
      · by_cases empty : user = ""
        · subst empty
          exact .usual (by simp [given])
        · have real : (some user).filter (!·.isEmpty) = some user := by simp [empty]
          rw [real]
          exact .user given empty
    · exact .configured name

theorem chooseShell_of_named {configured : Option String} {name : String}
    (named : m.NamesShell configured name) :
    (m.chooseShell configured).1 = (m.lookup? name).getD name := by
  rw [namesShell_iff] at named
  unfold chooseShell
  rw [← named]
  dsimp only
  cases m.lookup? name with
  | none => rfl
  | some path => rfl

/-- **The shell that is chosen is the one that the configuration asks for**, and no other. -/
theorem runsShell_iff {configured : Option String} {shell : String} :
    m.RunsShell configured shell ↔ shell = (m.chooseShell configured).1 := by
  constructor
  · rintro ⟨name, named, resolves⟩
    rw [m.chooseShell_of_named named]
    exact m.resolves_iff.1 resolves
  · rintro rfl
    obtain ⟨name, named⟩ : ∃ name, m.NamesShell configured name := ⟨_, m.namesShell_iff.2 rfl⟩
    exact ⟨name, named, m.resolves_iff.2 (m.chooseShell_of_named named)⟩

end Machine

/-! ## Its flag -/

/-- The flag in front of a command line: that of the command prompt, or that of all others. -/
inductive TakesFlag (shell : String) : String → Prop
  | prompt (command : "cmd".toList <:+: shell.toList) (other : ¬ "sh".toList <:+: shell.toList) :
      TakesFlag shell "/C"
  | shell (other : ¬ "cmd".toList <:+: shell.toList ∨ "sh".toList <:+: shell.toList) :
      TakesFlag shell "-c"

/-- **The flag is the one that the interpreter takes**, and no other. -/
theorem takesFlag_iff {shell flag : String} : TakesFlag shell flag ↔ flag = shellFlag shell := by
  unfold shellFlag
  constructor
  · rintro (⟨command, other⟩ | other)
    · rw [← Text.contains_iff] at command other
      simp [command, other]
    · rw [← Text.contains_iff, ← Text.contains_iff] at other
      rcases other with other | other <;> simp [other]
  · rintro rfl
    split
    · next prompt =>
      rw [Bool.and_eq_true, Bool.not_eq_true', ← Bool.not_eq_true] at prompt
      exact .prompt (Text.contains_iff.1 prompt.1) (mt Text.contains_iff.2 prompt.2)
    · next others =>
      refine .shell ?_
      by_cases other : "sh".toList <:+: shell.toList
      · exact .inr other
      · refine .inl fun command => others ?_
        have plain : Text.contains shell "sh" = false :=
          Bool.eq_false_iff.2 fun occurs => other (Text.contains_iff.1 occurs)
        rw [Text.contains_iff.2 command, plain]
        rfl

end Runbook
