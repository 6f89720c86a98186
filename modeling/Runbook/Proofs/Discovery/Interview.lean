/-
  A discovery is an interview: what it asks, and what it makes of the answers.

  * a `Question` is a command that is put to a session; `Sent k w q w'`: its line is run there
    once, with the output turned to a new buffer, and the answer is what that holds then;
  * `Deed` is one thing that is done with sessions of a kind, with what it came to;
    `Deeds k w es w'`: from `w` to `w'` these deeds were done, and nothing else but giving
    notices;
  * `Linked s qs s'`: each question is put to the session as the one before left it;
  * `Asks k d qs keys`: these are the questions of a discovery with the settings `d`, for
    the answers that they get, and the keys that it finds in them;
  * `newKeys auth keys` are the keys that are added to methods;
  * `Enriched`: how a session is enriched.

  `enrich_interviews`: every enrichment is such an interview, for sessions of any kind; of
  the sessions of a program nothing changes but the methods of the target.
-/
import Runbook.Proofs.Discovery
import Runbook.Proofs.Chain.Compiled

namespace Runbook

variable {σ S : Type}

/-! ## Questions -/

/-- A command line, the session that it is put to, the answer, and the session afterwards. -/
structure Question (S : Type) where
  command : String
  before : S
  answer : Except Fault String
  after : S

/-- What it is to put a question to a session. The output of the session is turned to a new
    buffer, the line is run once, and the output is turned back to where it went. The answer is
    the text of all that the buffer holds then, or why the command failed. The buffer is gone
    afterwards, with all that were made since. -/
inductive Sent (k : SessionKind σ S) (w : World σ) : Question S → World σ → Prop
  | sent {line : String} {before away left after : S} {previous meanwhile : Sink} {o : Outcome}
      {w' : World σ} :
      k.swapSink (.buffer w.buffers.length) before = (previous, away) →
      k.run away line { w with buffers := w.buffers ++ [[]] } = ((o, left), w') →
      k.swapSink previous left = (meanwhile, after) →
      Sent k w ⟨line, before,
          o.map fun _ => Bytes.decodeLossy (w'.buffers.getD w.buffers.length []), after⟩
        { w' with buffers := w'.buffers.take w.buffers.length }

/-- **Capturing a command is putting a question.** -/
theorem sent_iff {k : SessionKind σ S} {w w' : World σ} {q : Question S} :
    Sent k w q w' ↔ k.capture q.before q.command w = ((q.answer, q.after), w') := by
  constructor
  · rintro ⟨turned, ran, restored⟩
    exact SessionKind.capture_apply turned ran restored
  · obtain ⟨line, before, answer, after⟩ := q
    intro captured
    rcases turned : k.swapSink (.buffer w.buffers.length) before with ⟨previous, away⟩
    rcases ran : k.run away line { w with buffers := w.buffers ++ [[]] } with ⟨⟨o, left⟩, w₁⟩
    rcases restored : k.swapSink previous left with ⟨meanwhile, back⟩
    rw [SessionKind.capture_apply turned ran restored] at captured
    cases captured
    exact .sent turned ran restored

/-! ## Deeds -/

/-- Something that is done with a session, and what it comes to. -/
inductive Deed (S : Type) where
  | connected (s : S) (r : Outcome × S)
  | ran (line : String) (s : S) (r : Outcome × S)
  | asked (q : Question S)
  | closed (s : S) (r : Outcome × S)

/-- From one world to another these deeds are done, in order; in between there are only
    notices. -/
inductive Deeds (k : SessionKind σ S) : World σ → List (Deed S) → World σ → Prop
  | nil (w : World σ) : Deeds k w [] w
  | note {w w' : World σ} {es : List (Deed S)} (n : Notice) :
      Deeds k (Run.note n w).2 es w' → Deeds k w es w'
  | connected {w w' : World σ} {es : List (Deed S)} (s : S) :
      Deeds k (k.connect s w).2 es w' → Deeds k w (.connected s (k.connect s w).1 :: es) w'
  | ran {w w' : World σ} {es : List (Deed S)} (line : String) (s : S) :
      Deeds k (k.run s line w).2 es w' → Deeds k w (.ran line s (k.run s line w).1 :: es) w'
  | asked {w w₁ w' : World σ} {es : List (Deed S)} {q : Question S} :
      Sent k w q w₁ → Deeds k w₁ es w' → Deeds k w (.asked q :: es) w'
  | closed {w w' : World σ} {es : List (Deed S)} (s : S) :
      Deeds k (k.close s w).2 es w' → Deeds k w (.closed s (k.close s w).1 :: es) w'

variable {k : SessionKind σ S}

theorem Deeds.trans {w₀ w₁ w₂ : World σ} {es es' : List (Deed S)} (h : Deeds k w₀ es w₁)
    (h' : Deeds k w₁ es' w₂) : Deeds k w₀ (es ++ es') w₂ := by
  induction h with
  | nil => exact h'
  | note n _ ih => exact .note n (ih h')
  | connected s _ ih => exact .connected s (ih h')
  | ran line s _ ih => exact .ran line s (ih h')
  | asked sent _ ih => exact .asked sent (ih h')
  | closed s _ ih => exact .closed s (ih h')

/-- A first question is put to its session, after notices at most. -/
theorem Deeds.asked_cons {w w' : World σ} {q : Question S} {es : List (Deed S)}
    (h : Deeds k w (.asked q :: es) w') : ∃ w₁ w₂, Sent k w₁ q w₂ ∧ Deeds k w₂ es w' := by
  generalize hes : Deed.asked q :: es = all at h
  induction h with
  | nil => cases hes
  | note n _ ih => exact ih hes
  | connected | ran | closed => cases hes
  | asked sent rest =>
    cases hes
    exact ⟨_, _, sent, rest⟩

/-- Runs as the deeds that they are made of. -/
def deeds (k : SessionKind σ S) : View σ (Deed S) := ⟨Deeds k, Deeds.nil, Deeds.trans⟩

/-- Every operation is a deed. -/
def doing (k : SessionKind σ S) : Conduct k (deeds k) where
  note _ := []
  Connects s r es := es = [.connected s r]
  Runs line s r es := es = [.ran line s r]
  Captures line s r es := es = [.asked ⟨line, s, r.1, r.2⟩]
  Closes s r es := es = [.closed s r]
  note_gives n _ := ⟨_, .note n (.nil _), rfl⟩
  connect_gives s _ := ⟨_, .connected s (.nil _), rfl⟩
  run_gives line s _ := ⟨_, .ran line s (.nil _), rfl⟩
  capture_gives _ _ _ := ⟨_, .asked (sent_iff.2 rfl) (.nil _), rfl⟩
  close_gives s _ := ⟨_, .closed s (.nil _), rfl⟩

/-! ## Interviews -/

/-- The questions are put to one session, as each leaves it to the next. -/
def Linked (s : S) : List (Question S) → S → Prop
  | [], s' => s' = s
  | q :: qs, s' => q.before = s ∧ Linked q.after qs s'

/-- The key that a question for a file has found, named after the session and the path. -/
def Question.key? (k : SessionKind σ S) (path : String) (q : Question S) : Option AuthMethod :=
  match q.answer with
  | .ok pem =>
    if isPrivateKey pem then some (.privateKey (k.identify q.after ++ ":" ++ path) pem) else none
  | .error _ => none

/-- A name is looked for: it is not empty and matches a pattern, of those that are
    patterns. -/
def DiscoverySettings.wants (d : DiscoverySettings) (name : String) : Bool :=
  !name.isEmpty && d.keyPatterns.any fun p =>
    match Pattern.parse p with
    | .ok pattern => pattern.accepts name.toList
    | .error _ => false

/-- The files that are read of a directory, in the order of the lines of its listing. -/
def DiscoverySettings.paths (d : DiscoverySettings) (dir listing : String) : List String :=
  (((Text.lines listing).map Text.trim).filter d.wants).map fun name => dir ++ "/" ++ name

/-- The home directory is told, and it is not blank. -/
def Question.TellsHome (q : Question S) (home : String) : Prop :=
  q.command = homeCommand ∧ ∃ out, q.answer = .ok out ∧ home = Text.trim out ∧ home ≠ ""

/-- The questions of a discovery, and the keys that it finds in the answers. -/
inductive Asks (k : SessionKind σ S) (d : DiscoverySettings) :
    List (Question S) → List AuthMethod → Prop
  | homeless {q : Question S} : q.command = homeCommand →
      (∀ out, q.answer = .ok out → Text.trim out = "") → Asks k d [q] []
  | unlisted {q q' : Question S} {home : String} {e : Fault} : q.TellsHome home →
      q'.command = listCommand (keyDirectory home d.keyDir) → q'.answer = .error e →
      Asks k d [q, q'] []
  | listed {q q' : Question S} {home listing : String} {paths : List String}
      {reads : List (Question S)} : q.TellsHome home →
      q'.command = listCommand (keyDirectory home d.keyDir) → q'.answer = .ok listing →
      paths = d.paths (keyDirectory home d.keyDir) listing →
      reads.map (·.command) = paths.map readCommand →
      Asks k d (q :: q' :: reads)
        ((paths.zip reads).filterMap fun (path, q) => q.key? k path)

/-! ## From deeds to questions -/

theorem keyNames_eq (d : DiscoverySettings) (listing : String) :
    keyNames (Conduct.readable d.keyPatterns) listing =
      ((Text.lines listing).map Text.trim).filter d.wants := by
  unfold keyNames
  refine List.filter_congr fun name _ => ?_
  rw [DiscoverySettings.wants, Conduct.readable, List.any_filterMap]
  congr 1
  refine congrArg _ (funext fun p => ?_)
  rcases Pattern.parse p with e | pattern <;> rfl

theorem doing_noteUnreadable (ps : List String) : (doing k).noteUnreadable ps = [] := by
  induction ps with
  | nil => rfl
  | cons p ps ih =>
    rw [Conduct.noteUnreadable, ih]
    rcases Pattern.parse p with e | pattern <;> rfl

/-- One key file is one question. -/
theorem readsKey_question {path : String} {s s' : S} {key : Option AuthMethod}
    {es : List (Deed S)} (read : (doing k).ReadsKey path s (key, s') es) :
    ∃ q : Question S, es = [.asked q] ∧ q.before = s ∧ q.after = s' ∧
      q.command = readCommand path ∧ q.key? k path = key := by
  rcases read with text | ⟨text, key⟩ | ⟨text, other⟩
  all_goals
    obtain rfl := text
    refine ⟨_, List.append_nil _, rfl, rfl, rfl, ?_⟩
  · rfl
  · simp [Question.key?, key]
  · simp [Question.key?, other]

/-- The key files of a directory are one question each. -/
theorem readsKeys_questions {dir : String} {names : List String} {s s' : S}
    {keys : List AuthMethod} {es : List (Deed S)}
    (read : (doing k).ReadsKeys dir s names (keys, s') es) :
    ∃ reads : List (Question S), es = reads.map .asked ∧ Linked s reads s' ∧
      reads.map (·.command) = (names.map fun name => dir ++ "/" ++ name).map readCommand ∧
      keys = (((names.map fun name => dir ++ "/" ++ name).zip reads).filterMap
        fun (path, q) => q.key? k path) := by
  generalize hr : (keys, s') = r at read
  induction read generalizing keys with
  | nil =>
    cases hr
    exact ⟨[], rfl, rfl, rfl, rfl⟩
  | @cons s name names key between es keys' s'' es' first rest ih =>
    cases hr
    obtain ⟨q, rfl, before, after, command, found⟩ := readsKey_question first
    obtain ⟨reads, rfl, linked, commands, rfl⟩ := ih rfl
    refine ⟨q :: reads, rfl, ⟨before, after ▸ linked⟩, ?_, ?_⟩
    · rw [List.map_cons, List.map_cons, List.map_cons, command, commands]
    · rw [List.map_cons, List.zip_cons_cons, List.filterMap_cons]
      simp only [found]
      rcases key with _ | key <;> rfl

/-- Asking for the key directory is one question; without an answer that is not blank it is
    not found. -/
theorem findsDirectory_question {d : DiscoverySettings} {s s' : S} {r : Except Fault String}
    {es : List (Deed S)} (find : (doing k).FindsDirectory d s (r, s') es) :
    ∃ q : Question S, es = [.asked q] ∧ q.before = s ∧ q.after = s' ∧
      match r with
      | .ok dir => ∃ home, q.TellsHome home ∧ dir = keyDirectory home d.keyDir
      | .error _ => q.command = homeCommand ∧ ∀ out, q.answer = .ok out → Text.trim out = "" := by
  rcases find with home | ⟨home, blank⟩ | ⟨home, filled⟩
  all_goals
    obtain rfl := home
    refine ⟨_, rfl, rfl, rfl, ?_⟩
  · exact ⟨rfl, nofun⟩
  · refine ⟨rfl, fun out told => ?_⟩
    obtain rfl := Except.ok.inj told
    simpa using blank
  · exact ⟨_, ⟨rfl, _, rfl, rfl, by simpa using filled⟩, rfl⟩

/-- **A discovery is an interview.** -/
theorem discovers_asks {d : DiscoverySettings} {s s' : S} {keys : List AuthMethod}
    {es : List (Deed S)} (discover : (doing k).Discovers d s (keys, s') es) :
    ∃ qs : List (Question S), es = qs.map .asked ∧ Linked s qs s' ∧ Asks k d qs keys := by
  cases discover with
  | homeless directory =>
    obtain ⟨q, rfl, before, after, command, blank⟩ := findsDirectory_question directory
    exact ⟨[q], rfl, ⟨before, after.symm⟩, .homeless command blank⟩
  | unlisted directory listing =>
    obtain ⟨q, rfl, before, after, home, tells, rfl⟩ := findsDirectory_question directory
    obtain rfl := listing
    exact ⟨[q, _], rfl, ⟨before, after.symm, rfl⟩, .unlisted tells rfl rfl⟩
  | @listed dir between _ out after' _ _ _ _ directory listing read =>
    obtain ⟨q, rfl, before, after, home, tells, rfl⟩ := findsDirectory_question directory
    obtain rfl := listing
    obtain ⟨reads, rfl, linked, commands, rfl⟩ := readsKeys_questions read
    rw [keyNames_eq] at commands
    refine ⟨q :: ⟨listCommand (keyDirectory home d.keyDir), between, .ok out, after'⟩ ::
      reads, ?_, ⟨before, after.symm, linked⟩, ?_⟩
    · rw [doing_noteUnreadable]
      rfl
    · rw [keyNames_eq]
      exact .listed tells rfl rfl rfl commands

/-! ## What is made of the keys -/

/-- The keys that are not known yet, each in its first place. -/
def newKeys (auth keys : List AuthMethod) : List AuthMethod :=
  (keys.filter fun key => !auth.contains key).eraseDups

theorem addKeys_newKeys (auth keys : List AuthMethod) :
    addKeys auth keys = auth ++ newKeys auth keys := by
  induction keys generalizing auth with
  | nil => simp [addKeys, newKeys]
  | cons key keys ih =>
    rw [addKeys, List.foldl_cons, newKeys, List.filter_cons]
    by_cases known : auth.contains key = true
    · rw [if_pos known, if_neg (by simpa using known)]
      exact ih auth
    · rw [if_neg known, if_pos (by simpa using known), List.eraseDups_cons, List.filter_filter]
      have later : (keys.filter fun key' => !(auth ++ [key]).contains key') =
          keys.filter fun key' => (!key' == key) && !auth.contains key' := by
        refine List.filter_congr fun key' _ => ?_
        by_cases same : key' = key
        · simp [same]
        · simp [same]
      rw [← later]
      exact (ih (auth ++ [key])).trans (List.append_cons auth key _).symm

/-- What keys that are found make of a target, and how many are added: nothing if its
    parameters cannot be changed. -/
inductive Gains (k : SessionKind σ S) (target : S) (keys : List AuthMethod) : Nat → S → Prop
  | fixed : k.changeableParams? target = none → Gains k target keys 0 target
  | grown {p : Params} : k.changeableParams? target = some p →
      Gains k target keys (newKeys p.auth keys).length
        (k.withParams { p with auth := p.auth ++ newKeys p.auth keys } target)

/-- How a target is enriched through a session: the number of new keys, both sessions and
    the world that it comes to. -/
inductive Enriched (k : SessionKind σ S) (d : DiscoverySettings) (target via : S) (w : World σ) :
    (Nat × S × S) × World σ → Prop
  | idle : (∀ p, k.params? target = some p → p.address = "") →
      Enriched k d target via w ((0, target, via), w)
  | interviewed {p : Params} {qs : List (Question S)} {keys : List AuthMethod} {n : Nat}
      {target' via' : S} {w' : World σ} : k.params? target = some p → p.address ≠ "" →
      Linked via qs via' → Deeds k w (qs.map .asked) w' → Asks k d qs keys →
      Gains k target keys n target' → Enriched k d target via w ((n, target', via'), w')

/-- **Enriching is an interview**, with sessions of any kind. -/
theorem enrich_enriched (k : SessionKind σ S) (d : DiscoverySettings) (target via : S)
    (w : World σ) : Enriched k d target via w (k.enrich target via d w) := by
  by_cases idle : ∀ p, k.params? target = some p → p.address = ""
  · have still : k.enrich target via d w = ((0, target, via), w) := by
      unfold SessionKind.enrich
      rcases hp : k.params? target with _ | p
      · rfl
      · have empty : p.address.isEmpty = true := by simpa using idle p hp
        simp only [empty, if_true, Run.pure_apply]
    rw [still]
    exact .idle idle
  · obtain ⟨es, done, enriches⟩ := (doing k).enrich_gives d target via w
    generalize k.enrich target via d w = r at done enriches
    obtain ⟨⟨n, target', via'⟩, w'⟩ := r
    cases enriches with
    | unaddressed none_ => exact absurd none_ idle
    | unchangeable addressed found fixed =>
      obtain ⟨qs, rfl, linked, asks⟩ := discovers_asks found
      exact .interviewed addressed.1 addressed.2 linked done asks (.fixed fixed)
    | @enriched p keys _ es q addressed found changeable =>
      obtain ⟨qs, rfl, linked, asks⟩ := discovers_asks found
      have counted : Conduct.added q.auth keys = (newKeys q.auth keys).length := by
        rw [Conduct.added, addKeys_newKeys, List.length_append, Nat.add_sub_cancel_left]
      rw [addKeys_newKeys, counted]
      refine .interviewed addressed.1 addressed.2 linked ?_ asks (.grown changeable)
      split at done
      · exact List.append_nil (qs.map Deed.asked) ▸ done
      · exact List.append_nil (qs.map Deed.asked) ▸ done

/-! ## The sessions of a program -/

namespace Session

variable {s : Session} {p q : Params}

theorem withParams_self (h : s.params? = some p) : s.withParams p = s := by
  cases s with
  | shell => rfl
  | remote r =>
    obtain rfl := Option.some.inj h
    rfl
  | custom c =>
    obtain ⟨id, passThrough, params, fixed, sink⟩ := c
    obtain rfl : params = some p := h
    cases fixed <;> rfl

theorem withParams_withParams : (s.withParams q).withParams p = s.withParams p := by
  cases s with
  | shell | remote => rfl
  | custom c =>
    obtain ⟨id, passThrough, params, fixed, sink⟩ := c
    cases fixed <;> cases params <;> rfl

/-- Parameters that can be changed are those that the session has, and then those that it is
    given. -/
theorem params?_of_changeable (h : s.changeableParams? = some p) :
    s.params? = some p ∧ (s.withParams q).params? = some q := by
  cases s with
  | shell => cases h
  | remote => exact ⟨h, rfl⟩
  | custom c =>
    obtain ⟨id, passThrough, params, fixed, sink⟩ := c
    cases fixed with
    | true => cases h
    | false =>
      obtain rfl : params = some p := h
      exact ⟨rfl, rfl⟩

end Session

/-- Of a session with parameters nothing but its methods changes when keys are found. -/
theorem Gains.params {h : Host σ} {target target' : Session} {keys : List AuthMethod} {n : Nat}
    (gains : Gains (Session.kind h) target keys n target') {p : Params}
    (own : target.params? = some p) : ∃ new : List AuthMethod, n = new.length ∧
      target'.params? = some { p with auth := p.auth ++ new } ∧ target'.withParams p = target := by
  cases gains with
  | fixed => exact ⟨[], rfl, by simpa using own, Session.withParams_self own⟩
  | @grown q changeable =>
    obtain ⟨same, given⟩ := Session.params?_of_changeable changeable
    obtain rfl : p = q := Option.some.inj (own.symm.trans same)
    refine ⟨newKeys p.auth keys, rfl, given, ?_⟩
    exact Session.withParams_withParams.trans (Session.withParams_self own)

/-- A session that is asked keeps its sink. -/
theorem enrich_sink (h : Host σ) (d : DiscoverySettings) (target via : Session) (w : World σ) :
    (enrich h target via d w).1.2.2.sink = via.sink := by
  have keeps : (Session.conduct h).Keeps (·.sink = via.sink) (fun _ => True) fun _ _ => True := by
    refine ⟨trivial, fun _ _ => trivial, fun _ _ => trivial, ?_, fun _ _ => trivial,
      fun _ _ => trivial⟩
    rintro line s r s' es before ⟨_⟩
    exact ⟨(Session.sink_setSink _ _).trans before, trivial⟩
  obtain ⟨es, -, enriches⟩ := (Session.conduct h).enrich_gives d target via w
  exact (keeps.enriches rfl enriches).1

/-- **Enriching is an interview** with the session that keys are discovered through; what it
    is asked depends on its answers alone, and the keys that are new are added to the methods
    of the target, if they can be changed. In sessions of a program nothing else changes of
    the target, and output goes where it went before. -/
theorem enrich_interviews :
    (∀ {σ S : Type} (k : SessionKind σ S) (d : DiscoverySettings) (target via : S) (w : World σ),
      Enriched k d target via w (k.enrich target via d w)) ∧
    ∀ {σ : Type} (h : Host σ) (d : DiscoverySettings) (target via : Session) (w : World σ),
      (enrich h target via d w).1.2.2.sink = via.sink ∧
      ∀ p, target.params? = some p → ∃ new : List AuthMethod,
        (enrich h target via d w).1.1 = new.length ∧
        (enrich h target via d w).1.2.1.params? = some { p with auth := p.auth ++ new } ∧
        (enrich h target via d w).1.2.1.withParams p = target := by
  refine ⟨enrich_enriched, fun h d target via w => ⟨enrich_sink h d target via w, ?_⟩⟩
  intro p own
  have enriched : Enriched _ d target via w (enrich h target via d w) :=
    enrich_enriched (Session.kind h) d target via w
  generalize enrich h target via d w = r at enriched
  cases enriched with
  | idle => exact ⟨[], rfl, by simpa using own, Session.withParams_self own⟩
  | interviewed _ _ _ _ _ gains => exact gains.params own

/-! ## A target that can be changed and one that cannot -/

/-- What a host with one key answers. -/
def answerOfKeeper (command : String) : String :=
  if command = "echo $HOME" then "/root\n"
  else if command = "ls -1 /root/.ssh" then "id_rsa\nnotes\n"
  else "PRIVATE KEY"

/-- A host with one key. -/
def Host.keeper : Host Unit :=
  { Host.granting with
    spawn := fun p => pure (.ok ⟨Bytes.ofUnits (answerOfKeeper p.command), [], .exited 0⟩) }

/-- A session on that host. -/
def usher : Session := .shell (LocalShell.ofSettings {})

/-- A session from outside of which the parameters can be read and not changed. -/
def sealed : Session :=
  .custom { id := ⟨"sealed", 0⟩, params := some { address := "web:22" }, fixed := true }

theorem usher_captures (command : String) (w : World Unit) :
    ((Session.kind Host.keeper).capture usher command w).1 =
      (.ok (Bytes.decodeLossy (Bytes.ofUnits (answerOfKeeper command))), usher) := by
  have ran : ∀ sink, ((Session.kind Host.keeper).run (usher.setSink sink) command).Gives played
      fun r es => r = (.ok (), usher.setSink sink) ∧
        outputTo sink es = Bytes.ofUnits (answerOfKeeper command) := by
    intro sink w
    refine ⟨[.spawned _ _ (.ok ⟨Bytes.ofUnits (answerOfKeeper command), [], .exited 0⟩)],
      Plays.writing w () rfl (by rintro rfl o; rfl), rfl, ?_⟩
    simp [outputTo, Event.outputTo, Event.output?]
  obtain ⟨es, o, t, -, ⟨ho, out⟩, answer⟩ := capture_leads (k := Session.kind Host.keeper)
    (s := usher) w (ran (.buffer w.buffers.length))
  cases ho
  rw [answer, out]
  rfl

/-- All questions to the session are answered alike. -/
theorem usher_answers {qs : List (Question Session)} {s : Session} {w w' : World Unit}
    (linked : Linked usher qs s) (asked : Deeds (Session.kind Host.keeper) w (qs.map .asked) w') :
    ∀ q ∈ qs, q.after = usher ∧
      q.answer = .ok (Bytes.decodeLossy (Bytes.ofUnits (answerOfKeeper q.command))) := by
  induction qs generalizing w with
  | nil => exact List.forall_mem_nil _
  | cons q qs ih =>
    obtain ⟨before, linked⟩ := linked
    obtain ⟨w₁, w₂, sent, rest⟩ := asked.asked_cons
    have came := sent_iff.1 sent
    have answered := usher_captures q.command w₁
    rw [before] at came
    rw [came] at answered
    obtain ⟨answer, after⟩ := Prod.mk.inj answered
    rw [after] at linked
    exact List.forall_mem_cons.2 ⟨⟨after, answer⟩, ih linked rest⟩

/-- There is one interview of it, and it finds one key. -/
theorem usher_shows {qs : List (Question Session)} {keys : List AuthMethod} {s : Session}
    {w w' : World Unit} (linked : Linked usher qs s)
    (asked : Deeds (Session.kind Host.keeper) w (qs.map .asked) w')
    (asks : Asks (Session.kind Host.keeper) {} qs keys) :
    keys = [.privateKey "localhost:/root/.ssh/id_rsa" "PRIVATE KEY"] := by
  have answers := usher_answers linked asked
  have home : Bytes.decodeLossy (Bytes.ofUnits (answerOfKeeper homeCommand)) = "/root\n" := by
    decide +kernel
  cases asks with
  | @homeless q command blank =>
    obtain ⟨-, answer⟩ := answers q (by simp)
    rw [command, home] at answer
    exact absurd (blank _ answer) (by decide +kernel)
  | @unlisted q q' _ _ _ _ failed =>
    obtain ⟨-, answer⟩ := answers q' (by simp)
    rw [failed] at answer
    cases answer
  | @listed q q' dir listing paths reads tells command told same commands =>
    obtain ⟨-, answer⟩ := answers q (by simp)
    obtain ⟨homeAsked, out, ho, rfl, -⟩ := tells
    rw [homeAsked, home] at answer
    obtain rfl : out = "/root\n" := Except.ok.inj (ho.symm.trans answer)
    have directory : keyDirectory (Text.trim "/root\n") ".ssh" = "/root/.ssh" := by
      decide +kernel
    have listed : Bytes.decodeLossy (Bytes.ofUnits
        (answerOfKeeper (listCommand "/root/.ssh"))) = "id_rsa\nnotes\n" := by
      decide +kernel
    have wanted : DiscoverySettings.paths {} "/root/.ssh" "id_rsa\nnotes\n" =
        ["/root/.ssh/id_rsa"] := by
      decide +kernel
    have read : Bytes.decodeLossy (Bytes.ofUnits
        (answerOfKeeper (readCommand "/root/.ssh/id_rsa"))) = "PRIVATE KEY" := by
      decide +kernel
    obtain ⟨-, answer'⟩ := answers q' (by simp)
    replace command : q'.command = listCommand "/root/.ssh" :=
      command.trans (congrArg listCommand directory)
    rw [command, listed] at answer'
    obtain rfl : listing = "id_rsa\nnotes\n" := Except.ok.inj (told.symm.trans answer')
    replace same : paths = ["/root/.ssh/id_rsa"] := by
      rw [same, ← wanted, ← directory]
    subst same
    obtain ⟨r, rfl, asked'⟩ := List.map_eq_singleton_iff.1 commands
    obtain ⟨after, answer''⟩ := answers r (by simp)
    rw [asked', read] at answer''
    have key : isPrivateKey "PRIVATE KEY" = true := by
      decide +kernel
    have found : r.key? (Session.kind Host.keeper) "/root/.ssh/id_rsa" =
        some (.privateKey "localhost:/root/.ssh/id_rsa" "PRIVATE KEY") := by
      rw [Question.key?, answer'']
      simp only [key, if_true, after]
      rfl
    simp [found]

/-- A session that can be enriched. -/
def gate : Session :=
  .custom { id := ⟨"gate", 0⟩, params := some { address := "gate:22" } }

theorem gate_gains_key :
    (enrich Host.keeper gate usher {} { host := () }).1.1 = 1 ∧
    (enrich Host.keeper gate usher {} { host := () }).1.2.1.params? =
      some { address := "gate:22",
             auth := [.privateKey "localhost:/root/.ssh/id_rsa" "PRIVATE KEY"] } := by
  have enriched : Enriched _ {} gate usher { host := () }
      (enrich Host.keeper gate usher {} { host := () }) :=
    enrich_interviews.1 (Session.kind Host.keeper) {} gate usher { host := () }
  generalize enrich Host.keeper gate usher {} { host := () } = r at enriched
  cases enriched with
  | idle none_ => exact absurd (none_ _ rfl) (by decide)
  | interviewed own addressed linked asked asks gains =>
    rw [usher_shows linked asked asks] at gains
    cases gains with
    | fixed unchangeable => cases unchangeable
    | grown changeable =>
      cases changeable
      exact ⟨rfl, rfl⟩

/-- **A target that cannot be changed gains nothing**, whatever keys are found: this one should
    have got the key of the host. -/
theorem sealed_gains_nothing :
    sealed.params? = some { address := "web:22" } ∧
    ¬ ∀ (n : Nat) (target' via' : Session) (w' : World Unit) (qs : List (Question Session))
        (keys : List AuthMethod),
      enrich Host.keeper sealed usher {} { host := () } = ((n, target', via'), w') →
      Linked usher qs via' → Deeds (Session.kind Host.keeper) { host := () } (qs.map .asked) w' →
      Asks (Session.kind Host.keeper) {} qs keys →
      n = (newKeys [] keys).length ∧
        target'.params? = some { address := "web:22", auth := newKeys [] keys } := by
  refine ⟨rfl, fun claimed => ?_⟩
  have enriched : Enriched _ {} sealed usher { host := () }
      (enrich Host.keeper sealed usher {} { host := () }) :=
    enrich_enriched (Session.kind Host.keeper) {} sealed usher { host := () }
  generalize enrich Host.keeper sealed usher {} { host := () } = r at claimed enriched
  cases enriched with
  | idle none_ => exact absurd (none_ _ rfl) (by decide)
  | @interviewed p qs keys n target' via' w' own addressed linked asked asks gains =>
    obtain ⟨count, -⟩ := claimed n target' via' w' qs keys rfl linked asked asks
    rw [usher_shows linked asked asks] at count
    cases gains with
    | fixed => exact absurd count (by decide)
    | grown changeable => cases changeable

end Runbook
