/-
  The commands of a discovery are what they look like.

  * `Shell.Spells line args`: a shell reads the line as one simple command, and these are its
    arguments, whatever the state of the shell;
  * `Confined d qs`: the questions of a discovery with the settings `d`, by what their commands
    spell.

  `discovery_spells`: after the home directory every discovery asks only for a listing of the
  key directory and for files in it. Answers and settings may be any texts: they end up in the
  arguments and nowhere else.
-/
import Runbook.Proofs.Discovery.Interview
import Runbook.Proofs.Shell.Arguments

namespace Runbook

/-! ## Command lines -/

namespace Shell

open ShellWord (quoteChars)

/-- A command line is read to its end as one simple command without assignments or
    redirections. Each of its words has no part but a text, and a shell in any state takes
    these texts as they are: they are the arguments. -/
structure Spells (line : String) (args : List String) : Prop where
  reads : ∃ last, Reads Parse.nextLine (.plain line.toList 1)
    (some (.sequence [.simple 1 [] (args.map wordOf) []])) (.plain [] last)
  expands (s : State) (fuel : Nat) (enough : args.length + 3 ≤ fuel) :
    (arguments fuel [] (args.map wordOf)).run s = (.ok args, s)

/-- Quoted words spell themselves, if the first is a plain name. -/
theorem Spells.ofQuoted {line : String} {t : String} {ts : List String}
    (unreserved : Parse.reserved.contains t = false) (solid : '\n' ∉ quoteChars t.toList)
    (same : line.toList = (Parse.spelled (t :: ts)).tail) : Spells line (t :: ts) where
  reads := by
    have first : 1 + (quoteChars t.toList).count '\n' = 1 := by
      rw [List.count_eq_zero.2 solid]
    have read : Reads Parse.nextLine (.plain line.toList 1)
        (some (.sequence [Parse.quotedCommand 1 t ts]))
        (.plain [] (1 + (Parse.spelled (t :: ts)).count '\n')) := by
      rw [same]
      exact Parse.nextLine_words unreserved
    rw [Parse.quotedCommand, first] at read
    exact ⟨_, read⟩
  expands s _ enough := by
    have expanded := arguments_words (t :: ts) [] s enough
    rwa [List.nil_append] at expanded

end Shell

open Shell (Spells)
open Shell.Parse (spelled)

theorem quote_toList (t : String) :
    (ShellWord.quote t).toList = ShellWord.quoteChars t.toList := String.toList_ofList

/-- **Listing a directory** is no more than that, whatever its name is. -/
theorem listCommand_spells (dir : String) : Spells (listCommand dir) ["ls", "-1", dir] := by
  refine .ofQuoted (by decide) (by decide) ?_
  have command : ShellWord.quoteChars ['l', 's'] = ['l', 's'] := by decide
  have option : ShellWord.quoteChars ['-', '1'] = ['-', '1'] := by decide
  rw [listCommand, String.toList_append, quote_toList]
  simp [spelled, command, option]

/-- **Printing a file** is no more than that, whatever its path is. -/
theorem readCommand_spells (path : String) : Spells (readCommand path) ["cat", path] := by
  refine .ofQuoted (by decide) (by decide) ?_
  have command : ShellWord.quoteChars ['c', 'a', 't'] = ['c', 'a', 't'] := by decide
  rw [readCommand, String.toList_append, quote_toList]
  simp [spelled, command]

/-- A home directory that would like to be more than a name. -/
example : Spells "ls -1 '/h'\\''; rm -r $(pwd) #/.ssh'" ["ls", "-1", "/h'; rm -r $(pwd) #/.ssh"] :=
  listCommand_spells "/h'; rm -r $(pwd) #/.ssh"

/-! ## Questions -/

variable {σ S : Type} {k : SessionKind σ S}

/-- The questions of a discovery. The first asks for the home directory. Behind it there are
    none, or one for a listing of the key directory; behind that, questions for files whose
    names are lines of the listing. -/
inductive Confined (d : DiscoverySettings) : List (Question S) → Prop
  | home {q : Question S} (command : q.command = homeCommand) : Confined d [q]
  | listing {q list : Question S} {reads : List (Question S)} {out dir : String}
      (command : q.command = homeCommand) (told : q.answer = .ok out)
      (directory : dir = Text.dropTrailing '/' (Text.trim out) ++ "/" ++ d.keyDir)
      (lists : Spells list.command ["ls", "-1", dir])
      (files : ∀ read ∈ reads, ∃ listing name, list.answer = .ok listing ∧
        name ∈ (Text.lines listing).map Text.trim ∧
        Spells read.command ["cat", dir ++ "/" ++ name]) :
      Confined d (q :: list :: reads)

/-- Files that are read are in the directory, under names from its listing. -/
theorem DiscoverySettings.mem_paths {d : DiscoverySettings} {dir listing path : String}
    (listed : path ∈ d.paths dir listing) :
    ∃ name ∈ (Text.lines listing).map Text.trim, path = dir ++ "/" ++ name := by
  obtain ⟨name, wanted, rfl⟩ := List.mem_map.1 listed
  exact ⟨name, (List.mem_filter.1 wanted).1, rfl⟩

theorem Asks.confined {d : DiscoverySettings} {qs : List (Question S)} {keys : List AuthMethod}
    (asks : Asks k d qs keys) : Confined d qs := by
  cases asks with
  | homeless command => exact .home command
  | unlisted tells command =>
    obtain ⟨first, out, told, rfl, -⟩ := tells
    refine .listing first told rfl ?_ (List.forall_mem_nil _)
    rw [command]
    exact listCommand_spells _
  | listed tells command answer same commands =>
    obtain ⟨first, out, told, rfl, -⟩ := tells
    refine .listing first told rfl ?_ ?_
    · rw [command]
      exact listCommand_spells _
    · intro read asked
      have sent := List.mem_map_of_mem (f := (·.command)) asked
      rw [commands] at sent
      obtain ⟨path, listed, sent⟩ := List.mem_map.1 sent
      rw [same] at listed
      obtain ⟨name, among, rfl⟩ := DiscoverySettings.mem_paths listed
      refine ⟨_, name, answer, among, ?_⟩
      rw [← sent]
      exact readCommand_spells _

/-- **A discovery cannot be made to say anything else**: with sessions of any kind, which may
    answer what they like, and with any settings. What is done with the session that keys are
    discovered through is to put these questions to it, and no more. -/
theorem discovery_spells (k : SessionKind σ S) (d : DiscoverySettings) (via : S) (w : World σ) :
    ∃ qs : List (Question S), Deeds k w (qs.map .asked) (k.discoverKeys via d w).2 ∧
      Linked via qs (k.discoverKeys via d w).1.2 ∧ Confined d qs := by
  obtain ⟨es, done, discover⟩ := (doing k).discoverKeys_gives d via w
  obtain ⟨qs, rfl, linked, asks⟩ := discovers_asks discover
  exact ⟨qs, done, linked, asks.confined⟩

end Runbook
