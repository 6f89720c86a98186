/-
  The program: its arguments are read, the configuration and the chain are loaded, and
  the chain is run or shown.

  * `CommandLine.run` gives everything that the program writes, the code that it ends
    with, and the state of the host afterwards;
  * `Program` steps write in order; a failure ends the program with its text in the last
    line of standard error;
  * notices go to standard error, each in a line with the time and its level.
-/
import Runbook.Chain.Execute
import Runbook.Chain.Outline
import Runbook.CommandLine.Options
import Runbook.Config.Load
import Runbook.Log.Filter
import Runbook.Text.Unescaped

namespace Runbook

/-- A fault as the program reports it: the cause of a fault of the system is told on its
    own once more. -/
def Fault.failure (f : Fault) : Failure :=
  match f with
  | .io reason => ⟨[f.message, reason]⟩
  | f => .of f.message

namespace CommandLine

/-! ## How output is shown -/

/-- How the program shows what it writes. -/
structure Display where
  colours : Bool := false
  /-- Terminal sequences stay in log lines. -/
  logSequences : Bool := false
  filter : Filter := {}
  /-- The time that log lines carry. -/
  clock : String := ""

namespace Display

/-- Log lines keep terminal sequences: if the variable for it says so, else if colours are
    forced and not refused. -/
def keepsSequences (env : Overlay) : Bool :=
  let isGiven (name : String) : Bool := (env.get? name).any (!·.isEmpty)
  match env.get? "RUST_LOG_STYLE" with
  | some "always" => true
  | some "never" => false
  | _ => isGiven "CLICOLOR_FORCE" && !isGiven "NO_COLOR"

/-- The display that the environment and the options ask for, and the messages about parts
    of the log filter that mean nothing. -/
def of (env : Overlay) (o : Options) (clock : String) : Display × List String :=
  let (filter, warnings) := Filter.parse ((env.get? "RUST_LOG").getD "info")
  let filter := match Level.ofOptions o.verbose o.quiet with
    | some l => filter.withLevel l
    | none => filter
  ({ colours := (env.get? "CLICOLOR_FORCE").any (· ≠ "0")
     logSequences := keepsSequences env, filter, clock }, warnings)

/-- The line of a notice, if it is shown. -/
def logLine (d : Display) (n : Notice) : Option String :=
  let text := n.text.shown d.colours
  if d.filter.admits n text then
    let stamp := Text.Styled.shown d.colours [Text.inDim d.clock, Text.raw " ", n.level.tag]
    let line := stamp ++ " " ++ text ++ "\n"
    some (if d.logSequences then line else Text.unescaped line)
  else none

/-- The last line of a program that fails. -/
def failureLine (d : Display) (f : Failure) : String :=
  Text.Styled.shown d.colours [Text.inColour .red "❌", Text.raw (" " ++ f.text)] ++ "\n"

/-- The line above an outline. -/
def outlineTitle (d : Display) : String :=
  Text.Styled.shown d.colours [Text.inColour .yellow "::", Text.raw " [DRY-RUN] Chain outline:"]
    ++ "\n"

/-- What an event leaves on standard error: a notice its line, a local process whatever it
    wrote there. -/
def ofEvent (d : Display) : Event → Bytes
  | .notice n => ((d.logLine n).map Bytes.encode).getD []
  | .spawned _ _ (.ok f) => f.stderr
  | _ => []

end Display

/-! ## The program -/

/-- What a program leaves behind. -/
structure Report (σ : Type) where
  code : Nat
  stdout : Bytes
  stderr : Bytes
  host : σ

/-- What a program has written, and the state of its host. -/
structure Output (σ : Type) where
  host : σ
  stdout : Bytes := []
  stderr : Bytes := []

/-- A step of the program. -/
abbrev Program (σ : Type) := ExceptT Failure (StateM (Output σ))

namespace Program

variable {σ : Type}

/-- Writes to standard output. -/
def print (text : String) : Program σ Unit :=
  modify fun s => { s with stdout := s.stdout ++ Bytes.encode text }

/-- Writes what events leave on standard error. -/
def report (d : Display) (es : List Event) : Program σ Unit :=
  modify fun s => { s with stderr := s.stderr ++ es.flatMap d.ofEvent }

/-- Takes an answer, or ends with its failure. -/
def ofExcept {α : Type} (answer : Except Failure α) : Program σ α := ExceptT.mk (pure answer)

/-- Takes what loading comes to, after the notices about it. -/
def load {α : Type} (d : Display) (l : Config.Loaded α) : Program σ α := do
  report d (l.2.map .notice)
  ofExcept l.1

/-- Runs a step of the outside world. -/
def ofRun {α : Type} (d : Display) (step : Run σ α) : Program σ α := do
  let s ← get
  let (a, w) := step { host := s.host }
  modify fun s => { s with host := w.host, stdout := s.stdout ++ w.stdout }
  report d w.events
  pure a

/-- Loads the configuration and the chain of the options, and runs the chain or shows its
    outline. -/
def main (h : Host σ) (m : Machine) (d : Display) (o : Options) : Program σ Unit := do
  let config ← load d (match o.config with
    | some path => Config.atPath m path
    | none => Config.inDirectory m m.cwd.text)
  let settings ← load d (config.settings m)
  let (chain, events) := Chain.load m settings o.source
  report d events
  let chain ← ofExcept (chain.mapError fun f => f.failure.within "Failed to load chain")
  if o.dryRun then
    print d.outlineTitle
    print chain.render
  else
    let (outcome, _, _) ← ofRun d (chain.execute h none)
    ofExcept (outcome.mapError Fault.failure)
    report d [.notice (.runFinished chain.scope.name)]

end Program

/-! ## The command line -/

/-- The name of the program with its version. -/
def versionText : String := "chainrunner 0.1.0\n"

/-- How the program is used. -/
def helpText : String :=
  "Run nested chains of shell commands locally or over SSH

Usage: chainrunner [OPTIONS] <--file <FILE>|--raw <RAW>>

Options:
  -f, --file <FILE>      Path to the chain document
      --raw <RAW>        Chain document given inline instead of a file
  -c, --config <CONFIG>  Runner config (defaults to ./chainrunner.toml when present)
  -d, --dry-run          Print the compiled chain without connecting or running anything
  -v, --verbose...       More log output (-v debug, -vv trace)
  -q, --quiet            Only log errors
  -h, --help             Print help
  -V, --version          Print version
"

/-- Runs the program on a machine, with a host for the chain. -/
def run {σ : Type} (h : Host σ) (host : σ) (m : Machine) (clock : String)
    (arguments : List String) : Report σ :=
  let ended (code : Nat) (stdout stderr : String) : Report σ :=
    ⟨code, Bytes.encode stdout, Bytes.encode stderr, host⟩
  match Options.parse arguments with
  | .error .help => ended 0 helpText ""
  | .error .version => ended 0 versionText ""
  | .error (.usage e) =>
    ended 2 "" ("error: " ++ e.message ++ "\n\nFor more information, try '--help'.\n")
  | .ok o =>
    let (d, warnings) := Display.of m.env o clock
    let warned := String.join (warnings.map fun w => "warning: " ++ w ++ ", ignoring it\n")
    let (answer, s) := (Program.main h m d o).run { host, stderr := Bytes.encode warned }
    match answer with
    | .ok () => ⟨0, s.stdout, s.stderr, s.host⟩
    | .error f => ⟨1, s.stdout, s.stderr ++ Bytes.encode (d.failureLine f), s.host⟩

end CommandLine

end Runbook
