/-
  Notices: everything that is logged while a chain is loaded or run.

  Each notice has a level, an origin that log filters can name, and a text with styles.
  Levels have names and tags, and the options of the command line ask for one.
-/
import Runbook.Fault
import Runbook.Text.Styled

namespace Runbook

/-- How grave a notice is. -/
inductive Level where
  | error | warn | info | debug | trace
  deriving DecidableEq, Repr

namespace Level

/-- The name of a level. -/
def name : Level → String
  | error => "ERROR"
  | warn => "WARN"
  | info => "INFO"
  | debug => "DEBUG"
  | trace => "TRACE"

/-- The place of a level, the gravest first. -/
def rank : Level → Nat
  | error => 1
  | warn => 2
  | info => 3
  | debug => 4
  | trace => 5

/-- The tag that a log line carries: the name, five characters wide, in the level's colour. -/
def tag : Level → Text.Span
  | error => ⟨"ERROR", { bold := true, colour := some .red }⟩
  | warn => ⟨"WARN ", { bold := true, colour := some .yellow }⟩
  | info => ⟨"INFO ", { colour := some .green }⟩
  | debug => ⟨"DEBUG", { colour := some .blue }⟩
  | trace => ⟨"TRACE", { dimmed := true }⟩

/-- The level that the options ask for: quiet shows errors only and wins over verbose. -/
def ofOptions (verbose : Nat) (quiet : Bool) : Option Level :=
  if quiet then some error
  else match verbose with
    | 0 => none
    | 1 => some debug
    | _ => some trace

end Level

/-- The part of the program that gives a notice. -/
inductive Origin where
  | compiler | chain | credentials | remote | loader | config | shellChoice | handler
  deriving DecidableEq, Repr

/-- The path by which log filters name an origin. -/
def Origin.path : Origin → String
  | .compiler => "chainrunner::chain::compiler"
  | .chain => "chainrunner::chain"
  | .credentials => "chainrunner::credentials"
  | .remote => "chainrunner::session::remote"
  | .loader => "chainrunner::loader"
  | .config => "chainrunner::config"
  | .shellChoice => "chainrunner::utils"
  | .handler => "chainrunner::handlers::run"

/-- Something worth logging. -/
inductive Notice where
  /-- A named node is not a sequence and cannot be a chain. -/
  | notAChain (name kind : String)
  /-- A reserved key has a value that is not a text. -/
  | reservedBlock (key chain kind : String)
  /-- A named entry is neither a setting nor a chain. -/
  | skippedBlock (key chain kind : String)
  /-- An entry has a shape that no chain contains. -/
  | skippedEntry (kind chain : String)
  | readingDocument (path : String)
  | chainStarted (chain : String)
  | chainFinished (chain : String)
  /-- A chain without a target of its own runs where the enclosing one runs. -/
  | chainBorrows (chain target : String)
  | noDiscoverySession (target : String)
  | closeFailed (chain : String) (fault : Fault)
  /-- A command is about to run on a target. -/
  | attempt (target command : String)
  | commandFailed (fault : Fault)
  | commandUnbound (command : String)
  | connecting (user address : String)
  | dialFailed (address : String) (failure : Failure)
  /-- Not all that a command wrote could be written out. -/
  | flushFailed (command reason : String)
  | channelCloseFailed (target : String) (failure : Failure)
  | disconnecting (address : String)
  | keysAdded (count : Nat) (address : String)
  | discoverySkipped (fault : Fault)
  | listingFailed (dir : String) (fault : Fault)
  | patternIgnored (pattern reason : String)
  | keyUnreadable (path : String) (fault : Fault)
  | notAKey (path : String)
  | keyFound (path target : String)
  | environmentLoaded (file : String)
  /-- No program was found for a shell; without a search path there is none to look in. -/
  | shellUnresolved (shell : String) (searched : Bool)
  | runFinished (chain : String)
  deriving DecidableEq, Repr

namespace Notice

/-- The level of a notice. -/
def level : Notice → Level
  | commandFailed _ | commandUnbound _ | dialFailed _ _ => .error
  | reservedBlock _ _ _ | skippedBlock _ _ _ | skippedEntry _ _ | closeFailed _ _
  | discoverySkipped _ | listingFailed _ _ | patternIgnored _ _ | keyUnreadable _ _
  | notAKey _ => .warn
  | chainStarted _ | chainFinished _ | attempt _ _ | connecting _ _ | keysAdded _ _
  | environmentLoaded _ | runFinished _ => .info
  | notAChain _ _ | readingDocument _ | chainBorrows _ _ | noDiscoverySession _
  | flushFailed _ _ | channelCloseFailed _ _ | disconnecting _ | keyFound _ _
  | shellUnresolved _ _ => .debug

/-- Where a notice comes from. -/
def origin : Notice → Origin
  | notAChain _ _ | reservedBlock _ _ _ | skippedBlock _ _ _ | skippedEntry _ _ => .compiler
  | readingDocument _ => .loader
  | chainStarted _ | chainFinished _ | chainBorrows _ _ | noDiscoverySession _
  | closeFailed _ _ | attempt _ _ | commandFailed _ | commandUnbound _ => .chain
  | connecting _ _ | dialFailed _ _ | flushFailed _ _ | channelCloseFailed _ _
  | disconnecting _ => .remote
  | keysAdded _ _ | discoverySkipped _ | listingFailed _ _ | patternIgnored _ _
  | keyUnreadable _ _ | notAKey _ | keyFound _ _ => .credentials
  | environmentLoaded _ => .config
  | shellUnresolved _ _ => .shellChoice
  | runFinished _ => .handler

open Text in
/-- The text of a notice. -/
def text : Notice → Styled
  | notAChain name kind => [raw ("'" ++ name ++ "' is a " ++ kind ++ ", not a chain")]
  | reservedBlock key chain kind =>
    [raw ("'" ++ key ++ "' in chain '" ++ chain ++ "' is a reserved configuration key; its "
      ++ kind ++ " value is ignored and not run as a sub-chain")]
  | skippedBlock key chain kind =>
    [raw ("skipping '" ++ key ++ "' in chain '" ++ chain ++ "': expected a sequence, found "
      ++ kind)]
  | skippedEntry kind chain =>
    [raw ("skipping " ++ kind ++ " entry in chain '" ++ chain ++ "'")]
  | readingDocument path => [raw ("reading chain document " ++ path)]
  | chainStarted chain => [inColour .blue "run chain", raw " ", inBold chain]
  | chainFinished chain => [inColour .blue "finished chain", raw " ", inBold chain]
  | chainBorrows chain target =>
    [raw ("chain " ++ chain ++ " runs on enclosing scope " ++ target)]
  | noDiscoverySession target =>
    [raw ("no enclosing session to discover keys through for " ++ target)]
  | closeFailed chain fault =>
    [raw ("failed to close session of chain " ++ chain ++ ": " ++ fault.message)]
  | attempt target command =>
    [inColour .cyan target, raw ": ", inBold "$", raw (" " ++ command)]
  | commandFailed fault => [inColour .red "❌", raw (" " ++ fault.message)]
  | commandUnbound command => [raw ("no session bound for '" ++ command ++ "'")]
  | connecting user address =>
    [raw ("connecting to remote session: " ++ user ++ "@" ++ address)]
  | dialFailed address failure =>
    [raw ("connection to " ++ address ++ " failed: " ++ failure.text)]
  | flushFailed command reason =>
    [raw ("failed to flush output of '" ++ command ++ "': " ++ reason)]
  | channelCloseFailed target failure =>
    [raw ("failed to close channel on " ++ target ++ ": " ++ failure.text)]
  | disconnecting address => [raw ("closing connection to " ++ address)]
  | keysAdded count address =>
    [raw ("added " ++ toString count ++ " discovered key(s) for " ++ address)]
  | discoverySkipped fault => [raw ("key discovery skipped: " ++ fault.message)]
  | listingFailed dir fault => [raw ("failed to list " ++ dir ++ ": " ++ fault.message)]
  | patternIgnored pattern reason =>
    [raw ("ignoring invalid key pattern '" ++ pattern ++ "': " ++ reason)]
  | keyUnreadable path fault => [raw ("failed to read " ++ path ++ ": " ++ fault.message)]
  | notAKey path => [raw (path ++ " is not a PEM private key, skipping")]
  | keyFound path target => [raw ("found private key " ++ path ++ " on " ++ target)]
  | environmentLoaded file =>
    [inColour .green "🌿", raw " Loading environment from: ", inBold file]
  | shellUnresolved shell searched =>
    [raw ("could not resolve shell '" ++ shell ++ "' on PATH: " ++
      if searched then "cannot find binary path"
      else "no path to search and provided name is not an absolute path")]
  | runFinished chain =>
    [inColour .green "✅", raw " Chain '", inBold chain, raw "' finished"]

/-- A notice in one line: its level and its text, without styles. -/
def line (n : Notice) : String := n.level.name ++ ": " ++ n.text.plain

end Notice

end Runbook
