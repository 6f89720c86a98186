/-
  A configuration reaches every scope.

  * `Config.Written` and `Config.Assigned`: what the two files of a directory hold, a
    configuration and assignments of variables; without a file it is the default, and none;
  * `Config.AsksFor`: what a configuration asks of the keys of hosts; which interpreter it asks
    for is what `Machine.RunsShell` says;
  * `Heeds st e`: the event is one that sessions made with these settings can leave;
    `Visit.heeds`: there are no others in a visit;
  * `configuration_reaches`: every dial and every process of every execution follows the
    files, at any depth. Naming the configuration file comes to the same as naming its
    directory.
-/
import Runbook.Proofs.Chain.Compiled
import Runbook.Proofs.Chain.Rerun
import Runbook.Proofs.Config.Directory
import Runbook.Proofs.Config.Overlay
import Runbook.Proofs.Config.Shell

namespace Runbook

/-! ## What files hold -/

namespace Config

variable {m : Machine} {dir : String}

/-- The configuration in the configuration file of a directory. -/
inductive Written (m : Machine) (dir : String) : Config → Prop
  | absent : m.has (Path.join dir fileName) = false → Written m dir {}
  | file {text : String} {c : Config} : m.has (Path.join dir fileName) = true →
      m.readText (Path.join dir fileName) = .ok text → parse? text = some c → Written m dir c

/-- The assignments of the environment file of a directory, in order. -/
inductive Assigned (m : Machine) (dir : String) : List (String × String) → Prop
  | absent : m.has (Path.join dir (envFileName m)) = false → Assigned m dir []
  | file {content : Bytes} {vs : List (String × String)} :
      m.has (Path.join dir (envFileName m)) = true →
      m.readBytes (Path.join dir (envFileName m)) = .ok content →
      Dotenv.assignments m.env content = .ok vs → Assigned m dir vs

/-- What a configuration asks of the keys of hosts: with known hosts, those of the file that
    it names, else those of the home directory. -/
inductive AsksFor (c : Config) (m : Machine) : HostKeyPolicy → Prop
  | any : c.hostKeys = .acceptAny → AsksFor c m .acceptAny
  | named {path : String} : c.hostKeys = .knownHosts → c.knownHosts = some path →
      AsksFor c m (.knownHosts path)
  | home {home : String} : c.hostKeys = .knownHosts → c.knownHosts = none →
      m.env.get? "HOME" = some home →
      AsksFor c m (.knownHosts (Path.join (Path.join home ".ssh") "known_hosts"))

theorem written_of_read {base : Config}
    (read : (if m.has (Path.join dir fileName) then Config.read m (Path.join dir fileName)
      else .ok {}) = .ok base) : Written m dir base := by
  by_cases there : m.has (Path.join dir fileName) = true
  · rw [if_pos there, Config.read] at read
    rcases ht : m.readText (Path.join dir fileName) with e | text
    · simp [ht] at read
    · rcases hp : parse? text with _ | c
      · simp [ht, hp] at read
      · obtain rfl : c = base := by simpa [ht, hp] using read
        exact .file there ht hp
  · rw [if_neg there] at read
    obtain rfl := Except.ok.inj read
    exact .absent (by simpa using there)

/-- The environment file puts its assignments over the variables of a configuration. -/
theorem withEnvFile_assigned {base c : Config} (put : (withEnvFile m dir base).1 = .ok c) :
    ∃ vs, Assigned m dir vs ∧ c = { base with env := base.env.putAll (Overlay.putAll [] vs) } := by
  unfold withEnvFile at put
  by_cases there : m.has (Path.join dir (envFileName m)) = true
  · simp only [there, if_true, readEnv, Dotenv.read_eq] at put
    rcases hb : m.readBytes (Path.join dir (envFileName m)) with e | content
    · simp [hb, Except.map, Except.mapError] at put
    · rcases ha : Dotenv.assignments m.env content with e | vs
      · simp [hb, ha, Except.map, Except.mapError] at put
      · simp only [hb, ha, Except.map, Except.mapError, Except.ok.injEq] at put
        exact ⟨vs, .file there hb ha, put.symm⟩
  · simp only [there, if_false, Bool.false_eq_true, Except.ok.injEq] at put
    exact ⟨[], .absent (by simpa using there), put.symm⟩

/-- What is loaded from a directory is what its configuration file holds, with the variables
    of the environment file over those of the configuration. -/
theorem inDirectory_holds {c : Config} (loaded : (inDirectory m dir).1 = .ok c) :
    ∃ base vs, Written m dir base ∧ Assigned m dir vs ∧
      c = { base with env := base.env.putAll (Overlay.putAll [] vs) } := by
  unfold inDirectory at loaded
  dsimp only at loaded
  rcases hr : (if m.has (Path.join dir fileName) then Config.read m (Path.join dir fileName)
      else .ok {}) with f | base
  · rw [hr] at loaded
    cases loaded
  · rw [hr] at loaded
    obtain ⟨vs, assigned, rfl⟩ := withEnvFile_assigned loaded
    exact ⟨base, vs, written_of_read hr, assigned, rfl⟩

/-- Variables are not what is asked. -/
theorem AsksFor.ofEnv {c : Config} {env : Overlay} {p : HostKeyPolicy}
    (asks : AsksFor { c with env } m p) : c.AsksFor m p := by
  cases asks with
  | any any => exact .any any
  | named known named => exact .named known named
  | home known unnamed there => exact .home known unnamed there

theorem policy_asksFor {c : Config} {p : HostKeyPolicy} (resolved : c.policy m = .ok p) :
    c.AsksFor m p := by
  unfold policy at resolved
  split at resolved
  · next any =>
    cases resolved
    exact .any any
  · next path known named =>
    cases resolved
    exact .named known named
  · next home known unnamed there =>
    cases resolved
    exact .home known unnamed there
  · cases resolved

/-- The settings that a configuration resolves to. -/
theorem settings_eq {c : Config} {st : Settings} (resolved : (c.settings m).1 = .ok st) :
    st.timeoutMs = c.timeoutSecs * 1000 ∧ c.AsksFor m st.policy ∧
      m.RunsShell c.shell st.shell ∧ st.env = c.env := by
  unfold settings at resolved
  rcases hp : c.policy m with f | p
  · rw [hp] at resolved
    cases resolved
  · rw [hp] at resolved
    obtain rfl := Except.ok.inj resolved
    exact ⟨rfl, policy_asksFor hp, m.runsShell_iff.2 rfl, rfl⟩

end Config

/-! ## What happens in a visit -/

/-- What can happen to sessions that are made with these settings: they are in every dial
    and in every process. -/
inductive Heeds (st : Settings) : Event → Prop
  | notice (n : Notice) : Heeds st (.notice n)
  | dialed (p : Params) (answer : Except Failure Nat) : Heeds st (.dialed (p.dial st) answer)
  | opened (c : Connection) (errand : Errand) (answer : Except Failure Unit) :
      Heeds st (.opened c errand answer)
  | executed (c : Connection) (command : String) (sink : Sink) (answer : Executed) :
      Heeds st (.executed c command sink answer)
  | channelClosed (c : Connection) (sink : Sink) (answer : Except Failure Unit) :
      Heeds st (.channelClosed c sink answer)
  | disconnected (c : Connection) (answer : Except Failure Unit) :
      Heeds st (.disconnected c answer)
  | spawned (command : String) (sink : Sink) (answer : Except String Finished) :
      Heeds st (.spawned ((LocalShell.ofSettings st).process command) sink answer)

/-- All of them do. -/
abbrev HeedsAll (st : Settings) (es : List Event) : Prop := ∀ e ∈ es, Heeds st e

variable {st : Settings} {pl : Place} {es es' : List Event}

theorem heedsAll_nil : HeedsAll st [] := List.forall_mem_nil _

theorem heedsAll_notice (n : Notice) (h : HeedsAll st es) : HeedsAll st (.notice n :: es) :=
  List.forall_mem_cons.2 ⟨.notice n, h⟩

theorem heedsAll_append (h : HeedsAll st es) (h' : HeedsAll st es') : HeedsAll st (es ++ es') :=
  List.forall_mem_append.2 ⟨h, h'⟩

/-- Around what happens in a scope there are only notices. -/
theorem heedsAll_scope (name : String) (h : HeedsAll st es) :
    HeedsAll st (.notice (.chainStarted name) :: (es ++ [.notice (.chainFinished name)])) :=
  heedsAll_notice _ (heedsAll_append h (heedsAll_notice _ heedsAll_nil))

theorem heedsAll_fault (n : Fault → Notice) (o : Outcome) : HeedsAll st (noteFault n o) := by
  cases o with
  | ok => exact heedsAll_nil
  | error e => exact heedsAll_notice _ heedsAll_nil

theorem Exchanges.heeds {sink : Sink} {command : String} {o : Outcome}
    (exchange : Exchanges st sink command pl o es) : HeedsAll st es := by
  rcases exchange with ⟨⟨answer⟩⟩ | ⟨f | ⟨answer, flushed, closed⟩⟩
  · exact List.forall_mem_singleton.2 (.spawned command sink answer)
  · exact List.forall_mem_singleton.2 (.opened _ _ _)
  · have unflushed : HeedsAll st (RemoteShell.noteUnflushed command flushed) := by
      cases flushed with
      | ok => exact heedsAll_nil
      | error e => exact heedsAll_notice _ heedsAll_nil
    have unclosed : ∀ name, HeedsAll st (RemoteShell.noteUnclosed name closed) := by
      intro name
      cases closed with
      | ok => exact heedsAll_nil
      | error f => exact heedsAll_notice _ heedsAll_nil
    exact List.forall_mem_cons.2 ⟨.opened _ _ _, List.forall_mem_cons.2 ⟨.executed _ _ _ _,
      heedsAll_append unflushed (List.forall_mem_cons.2 ⟨.channelClosed _ _ _, unclosed _⟩)⟩⟩

theorem Quiet.heeds (quiet : Quiet st pl es) : HeedsAll st es := by
  induction quiet with
  | nil => exact heedsAll_nil
  | notice _ _ ih => exact heedsAll_notice _ ih
  | exchange exchange _ ih => exact heedsAll_append exchange.heeds ih

theorem Prepares.heeds {p p' : Params} {d : Option DiscoverySettings} {encl : Option Place}
    (prepare : Prepares st p d encl p' es) : HeedsAll st es := by
  cases prepare with
  | off => exact heedsAll_nil
  | alone => exact heedsAll_notice _ heedsAll_nil
  | through quiet _ => exact quiet.heeds

theorem heedsAll_dialing (p : Params) (answer : Except Failure Nat) :
    HeedsAll st (dialing st p answer) := by
  refine heedsAll_notice _ (List.forall_mem_cons.2 ⟨.dialed p answer, ?_⟩)
  cases answer with
  | ok => exact heedsAll_nil
  | error f => exact heedsAll_notice _ heedsAll_nil

theorem heedsAll_hangingUp (name : String) (c : Connection) (answer : Except Failure Unit) :
    HeedsAll st (hangingUp name c answer) :=
  heedsAll_notice _ (List.forall_mem_cons.2 ⟨.disconnected c answer, heedsAll_fault _ _⟩)

mutual

/-- **All that happens in a visit heeds the settings**, however deep. -/
theorem Visit.heeds : ∀ {encl i o es i'}, Visit st encl i o es i' → HeedsAll st es
  | _, _, _, _, _, .command exchange =>
    heedsAll_notice _ (heedsAll_append exchange.heeds (heedsAll_fault _ _))
  | _, _, _, _, _, .borrowed _ _ body => heedsAll_scope _ (heedsAll_notice _ body.heeds)
  | _, _, _, _, _, .grounded _ _ body => heedsAll_scope _ body.heeds
  | _, _, _, _, _, .refused _ _ prepare _ =>
    heedsAll_scope _ (heedsAll_append prepare.heeds (heedsAll_dialing _ _))
  | _, _, _, _, _, @Visit.connected _ _ _ _ _ p' _ serial _ _ _ _ _ prepare body _ => by
    have dialed := heedsAll_append prepare.heeds (heedsAll_dialing p' (.ok serial))
    have ran := heedsAll_append dialed body.heeds
    exact heedsAll_scope _ (heedsAll_append ran (heedsAll_hangingUp _ _ _))

theorem Visits.heeds : ∀ {pl is o es is'}, Visits st pl is o es is' → HeedsAll st es
  | _, _, _, _, _, .nil => heedsAll_nil
  | _, _, _, _, _, .stop first => first.heeds
  | _, _, _, _, _, .next first rest => heedsAll_append first.heeds rest.heeds

end

/-- What every execution of a compiled document adds to the events heeds the settings. -/
theorem trace_heeds {σ : Type} {document : Node} {c : Chain} {notices : List Event}
    (compiled : Chain.ofDocument st document = (.ok c, notices)) (h : Host σ) (w : World σ)
    (j : Nat) : HeedsAll st (c.trace h w j) := by
  obtain ⟨-, visit⟩ := rerun_plays (h := h) w j (ofDocument_rests compiled)
  exact visit.heeds

/-! ## From the files to every scope -/

/-- A process gets a variable: its last assignment in the environment file counts, else its
    value in the configuration. -/
def Supplies (base : Config) (assigned : List (String × String)) (env : Overlay) : Prop :=
  ∀ name, env.get? name = (lastValue name assigned).or (base.env.get? name)

/-- An event follows a configuration with the assignments of an environment file: a dial has
    the timeout of the configuration and asks for host keys as it says, a process is run by the
    interpreter that it asks for, under the flag of that, and has the variables of both. -/
structure Event.Follows (e : Event) (m : Machine) (base : Config)
    (assigned : List (String × String)) : Prop where
  dial : ∀ d answer, e = .dialed d answer →
    d.timeoutMs = base.timeoutSecs * 1000 ∧ base.AsksFor m d.policy
  process : ∀ p sink answer, e = .spawned p sink answer →
    m.RunsShell base.shell p.shell ∧ TakesFlag p.shell p.flag ∧ Supplies base assigned p.env

/-- **A configuration reaches every scope.** What is loaded from a directory, resolved and
    compiled with holds for every dial and every process of every execution, on any host and
    at any depth. A directory is as good as the configuration file in it. -/
theorem configuration_reaches (m : Machine) (dir : String) :
    (∀ {c : Config} {st : Settings} {document : Node} {chain : Chain} {notices : List Event},
      (Config.inDirectory m dir).1 = .ok c → (c.settings m).1 = .ok st →
      Chain.ofDocument st document = (.ok chain, notices) →
      ∃ base assigned, Config.Written m dir base ∧ Config.Assigned m dir assigned ∧
        ∀ {σ : Type} (h : Host σ) (w : World σ) (j : Nat), ∀ e ∈ chain.trace h w j,
          e.Follows m base assigned) ∧
    (m.has (Path.join dir Config.fileName) = true →
      Config.inDirectory m dir = Config.atPath m (Path.join dir Config.fileName)) := by
  refine ⟨?_, Config.inDirectory_eq_atPath⟩
  intro c st document chain notices loaded resolved compiled
  obtain ⟨base, assigned, written, assigns, rfl⟩ := Config.inDirectory_holds loaded
  obtain ⟨timeout, policy, shell, env⟩ := Config.settings_eq resolved
  refine ⟨base, assigned, written, assigns, ?_⟩
  intro σ h w j e he
  have heeds := trace_heeds compiled h w j e he
  refine ⟨?_, ?_⟩
  · rintro d answer rfl
    cases heeds
    exact ⟨timeout, policy.ofEnv⟩
  · rintro p sink answer rfl
    cases heeds
    refine ⟨shell, takesFlag_iff.2 rfl, fun name => ?_⟩
    have overlay : st.env = base.env.putAll (Overlay.putAll [] assigned) := env
    rw [← Overlay.get?_putAll_putAll, ← overlay]
    rfl

/-- A machine with both files in its root. On its search path there is first a text by the name of
    the configured shell that cannot be run, and then the shell. -/
def office : Machine where
  files :=
    [(["chainrunner.toml"], .regular (Bytes.ofUnits ("[runner]\nshell = \"bash\"\n" ++
        "[ssh]\ntimeout_secs = 9\nhost_key_policy = \"known-hosts\"\n" ++
        "[env]\nMODE = \"dull\"\nTIER = \"two\"\n")) false),
      ([".env"], .regular (Bytes.ofUnits "MODE=bright\nMODE=brighter\n") false),
      (["opt"], .directory), (["opt", "bash"], .regular (Bytes.ofUnits "notes") false),
      (["bin"], .directory), (["bin", "bash"], .program "bash"), (["bin", "sh"], .program "sh")]
  env := [("HOME", "/root"), ("SHELL", "/bin/sh"), ("PATH", "/opt:/bin")]

/-- What its configuration file holds, with the variables of the other file. -/
def officeConfig : Config where
  shell := some "bash"
  timeoutSecs := 9
  hostKeys := .knownHosts
  env := [("MODE", "brighter"), ("TIER", "two")]

/-- The settings of that machine. -/
def officeSettings : Settings where
  timeoutMs := 9000
  policy := .knownHosts "/root/.ssh/known_hosts"
  shell := "/bin/bash"
  env := [("MODE", "brighter"), ("TIER", "two")]

theorem office_reached :
    Config.inDirectory office "" = Config.atPath office "chainrunner.toml" ∧
    ∃ chain, Chain.ofDocument officeSettings sampleDocument = (.ok chain, []) ∧
      ∃ base assigned, Config.Written office "" base ∧ Config.Assigned office "" assigned ∧
        ∀ {σ : Type} (h : Host σ) (w : World σ) (j : Nat), ∀ e ∈ chain.trace h w j,
          e.Follows office base assigned := by
  have loaded : (Config.inDirectory office "").1 = .ok officeConfig := by
    decide +kernel
  have resolved : (officeConfig.settings office).1 = .ok officeSettings := by
    decide +kernel
  have there : office.has (Path.join "" Config.fileName) = true := by
    decide +kernel
  obtain ⟨chain, compiled⟩ : ∃ chain,
      Chain.ofDocument officeSettings sampleDocument = (.ok chain, []) := ⟨_, rfl⟩
  obtain ⟨reaches, named⟩ := configuration_reaches office ""
  exact ⟨named there, chain, compiled, reaches loaded resolved compiled⟩

end Runbook
