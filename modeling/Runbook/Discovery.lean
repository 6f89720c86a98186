/-
  Discovery of private keys before a scope connects.

  Discovery runs through a session that can be reached already. It finds the home
  directory, lists the key directory below it, and reads every file whose name matches.
  It never fails: what goes wrong is logged, and the methods stay as they were.

  * `SessionKind.enrich` adds the keys it finds to the target's methods, each once, after those that
    are there, and counts them;
  * `ShellWord.quote` writes a path as one word of a command line. A text without characters
    that mean something to a shell stands for itself; any other is put between single quotes,
    and a single quote in it is written as a quote that closes, an escaped quote, and a quote
    that opens again.
-/
import Runbook.Session.Capture
import Runbook.Discovery.Pattern

namespace Runbook

namespace ShellWord

/-- Characters that mean something to a shell, or could. -/
def special : List Char :=
  ['\n', '\'', '|', '&', ';', '<', '>', '(', ')', '$', '`', '\\', '"', ' ', '\t', '*', '?', '[',
    '#', '~', '=', '%']

/-- A character between single quotes. -/
def quoteChar (c : Char) : List Char := if c = '\'' then ['\'', '\\', '\'', '\''] else [c]

/-- The characters of a text written as one word. -/
def quoteChars (s : List Char) : List Char :=
  if s.isEmpty then ['\'', '\'']
  else if s.any (special.contains ·) then '\'' :: s.flatMap quoteChar ++ ['\'']
  else s

/-- A text written as one word. -/
def quote (s : String) : String := String.ofList (quoteChars s.toList)

end ShellWord

variable {σ S : Type}

/-- The patterns that can be read, with a notice for each that cannot. -/
def readPatterns : List String → Run σ (List Pattern)
  | [] => pure []
  | p :: ps => do
    match Pattern.parse p with
    | .ok pattern => do
      let rest ← readPatterns ps
      pure (pattern :: rest)
    | .error e => do
      Run.note (.patternIgnored p e.message)
      readPatterns ps

/-- The command that tells the home directory. -/
def homeCommand : String := "echo $HOME"

/-- The command that lists a directory, one name a line. -/
def listCommand (dir : String) : String := "ls -1 " ++ ShellWord.quote dir

/-- The command that prints a file. -/
def readCommand (path : String) : String := "cat " ++ ShellWord.quote path

/-- The key directory below a home directory. -/
def keyDirectory (home keyDir : String) : String := Text.dropTrailing '/' home ++ "/" ++ keyDir

/-- A file holds a private key. -/
def isPrivateKey (pem : String) : Bool := Text.contains pem "PRIVATE KEY"

/-- The names in a listing that match a pattern. -/
def keyNames (patterns : List Pattern) (listing : String) : List String :=
  ((Text.lines listing).map Text.trim).filter fun name =>
    !name.isEmpty && patterns.any (·.accepts name.toList)

/-- The methods with each new key added at the end, unless it is there already. -/
def addKeys (auth keys : List AuthMethod) : List AuthMethod :=
  keys.foldl (fun auth key => if auth.contains key then auth else auth ++ [key]) auth

/-- What is added to the methods are keys that were not there, each once. -/
theorem addKeys_eq (auth keys : List AuthMethod) : ∃ added, addKeys auth keys = auth ++ added ∧
    added.Nodup ∧ ∀ key ∈ added, key ∈ keys ∧ key ∉ auth := by
  induction keys generalizing auth with
  | nil => exact ⟨[], (List.append_nil _).symm, List.nodup_nil, by simp⟩
  | cons key keys ih =>
    rw [addKeys, List.foldl_cons]
    by_cases known : auth.contains key = true
    · rw [if_pos known]
      obtain ⟨added, eq, nodup, new⟩ := ih auth
      exact ⟨added, eq, nodup, fun k hk => ⟨List.mem_cons_of_mem _ (new k hk).1, (new k hk).2⟩⟩
    · rw [if_neg known]
      obtain ⟨added, eq, nodup, new⟩ := ih (auth ++ [key])
      have apart : ∀ k ∈ added, k ∉ auth ∧ k ≠ key := fun k hk => by simpa using (new k hk).2
      refine ⟨key :: added, ?_, ?_, ?_⟩
      · exact eq.trans (List.append_cons auth key added).symm
      · exact List.nodup_cons.2 ⟨fun hk => (apart key hk).2 rfl, nodup⟩
      · intro k hk
        rcases List.mem_cons.1 hk with rfl | hk
        · exact ⟨List.mem_cons_self, by simpa using known⟩
        · exact ⟨List.mem_cons_of_mem _ (new k hk).1, (apart k hk).1⟩

namespace SessionKind

variable (k : SessionKind σ S)

/-- Asks a session for its key directory. -/
def findKeyDirectory (s : S) (settings : DiscoverySettings) : Run σ (Except Fault String × S) := do
  match ← k.capture s homeCommand with
  | (.error e, s) => pure (.error e, s)
  | (.ok output, s) =>
    let home := Text.trim output
    if home.isEmpty then
      pure (.error (.failed (k.identify s) homeCommand "empty home directory"), s)
    else pure (.ok (keyDirectory home settings.keyDir), s)

/-- Reads one key file. -/
def readKey (s : S) (path : String) : Run σ (Option AuthMethod × S) := do
  match ← k.capture s (readCommand path) with
  | (.error e, s) => do
    Run.note (.keyUnreadable path e)
    pure (none, s)
  | (.ok pem, s) =>
    if isPrivateKey pem then do
      Run.note (.keyFound path (k.identify s))
      pure (some (.privateKey (k.identify s ++ ":" ++ path) pem), s)
    else do
      Run.note (.notAKey path)
      pure (none, s)

/-- Reads the key files of a directory, in the order of their names in the listing. -/
def readKeys (dir : String) : S → List String → Run σ (List AuthMethod × S)
  | s, [] => pure ([], s)
  | s, name :: names => do
    let (key, s) ← k.readKey s (dir ++ "/" ++ name)
    let (keys, s) ← readKeys dir s names
    pure (key.toList ++ keys, s)

/-- The keys that a session can show. -/
def discoverKeys (s : S) (settings : DiscoverySettings) : Run σ (List AuthMethod × S) := do
  match ← k.findKeyDirectory s settings with
  | (.error e, s) => do
    Run.note (.discoverySkipped e)
    pure ([], s)
  | (.ok dir, s) => do
    match ← k.capture s (listCommand dir) with
    | (.error e, s) => do
      Run.note (.listingFailed dir e)
      pure ([], s)
    | (.ok listing, s) => do
      let patterns ← readPatterns settings.keyPatterns
      k.readKeys dir s (keyNames patterns listing)

/-- Adds the keys that `via` can show to the methods of `target`. Answers how many were
    added, the target and the session that was asked. -/
def enrich (target via : S) (settings : DiscoverySettings) : Run σ (Nat × S × S) :=
  match k.params? target with
  | none => pure (0, target, via)
  | some p =>
    if p.address.isEmpty then pure (0, target, via)
    else do
      let (keys, via) ← k.discoverKeys via settings
      match k.changeableParams? target with
      | none => pure (0, target, via)
      | some p => do
        let auth := addKeys p.auth keys
        let added := auth.length - p.auth.length
        if 0 < added then Run.note (.keysAdded added p.address)
        pure (added, k.withParams { p with auth } target, via)

end SessionKind

/-- Adds the keys that `via` can show to the methods of `target`. -/
def enrich (h : Host σ) (target via : Session) (settings : DiscoverySettings) :
    Run σ (Nat × Session × Session) :=
  (Session.kind h).enrich target via settings

end Runbook
