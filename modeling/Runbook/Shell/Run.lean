/-
  Running shell commands.

  All of it is bounded by an amount of fuel: each command, each expansion and each round
  of a loop takes one unit from those inside it. `Shell.start` runs a shell from its
  arguments to its end.
-/
import Runbook.Shell.Builtins
import Runbook.Shell.Program
import Runbook.Shell.Redirect

namespace Runbook.Shell

/-- Removes the line ends at the end of an output. -/
def withoutLineEnds (b : Bytes) : String :=
  Text.dropTrailing '\n' (Bytes.toUnits (b.filter (· ≠ 0)))

/-- Runs a step in a copy of the shell: all its changes are lost but those to files and to
    what is opened. Answers how it ended, and the copy. -/
def apart (step : Eval Unit) : Eval (Except Flow Unit × State) := fun s =>
  let (r, t) := step.run
    { s with
      traps := s.traps.filter (·.2.isEmpty), jobs := [], isCopy := true, pending := []
      doom := none }
  (.ok (r, t),
    { s.freeSlot with files := t.files, opened := t.opened, doom := s.doom.or t.doom })

/-- The status with which a copy of the shell, or another shell, ends. -/
def endStatus : Except Flow Unit × State → Nat
  | (.error (.exit n), _) | (.error (.back n), _) => n % 256
  | (.error (.killed n), _) => 128 + n
  | (.error .fault, _) => 2
  | (_, t) => t.status % 256

/-- The state of a shell that is called from another one. -/
def State.inner (s : State) (name : String) : State :=
  { files := s.files, cwd := s.cwd, name
    vars := s.vars.filter (·.exported), descriptors := s.descriptors, opened := s.opened
    traps := s.traps.filter (·.2.isEmpty), mask := s.mask, pid := s.pid + s.started + 1 }

/-- Ends a strict shell after a failure. -/
def checkStrict (tested : Bool) : Eval Unit := do
  let s ← get
  if s.has .errexit && !tested && !s.sheltered && s.status ≠ 0 then throw (.exit s.status)

/-- Runs a step whose outcome is tested, if that is so. -/
def shelteredBy {α : Type} (tested : Bool) (step : Eval α) : Eval α := do
  let before := (← get).sheltered
  modify ({ · with sheltered := before || tested })
  afterwards step ({ · with sheltered := before })

/-- The number of running loops that an argument asks for. -/
def levels (args : List String) : Eval Nat := do
  match args with
  | [] => pure (min 1 (← get).loops)
  | a :: _ => do
    let n ← wholeNumber a
    if n = 0 then abort ("Illegal number: " ++ a)
    pure (min n (← get).loops)

/-! ## Names of commands -/

/-- Says what a name would run. -/
def describe (long : Bool) (x : String) : Eval Nat := do
  let s ← get
  let say (what : String) : Option String := some (if long then x ++ what else x)
  let known := s.found.lookup x
  let path := known.or (findProgram s s.search x).toOption
  let answer :=
    if Parse.reserved.contains x then say " is a shell keyword"
    else match s.aliases.lookup x with
    | some v => some (if long then x ++ " is an alias for " ++ v else "alias " ++ shownAlias (x, v))
    | none =>
      if (s.functions.lookup x).isSome then say " is a shell function"
      else if specialCommands.contains x then say " is a special shell builtin"
      else if isBuiltin x then say " is a shell builtin"
      else if x.toList.contains '/' then
        if (s.files.findText s.cwd x).isOk then some (if long then x ++ " is " ++ x else x) else none
      else path.map fun p =>
        if long then x ++ " is " ++ (if known.isSome then "a tracked alias for " else "") ++ p
        else p
  match answer with
  | some text => do
    print (text ++ "\n")
    pure 0
  | none => do
    if long then print (x ++ ": not found\n")
    pure 127

/-- Finds programs and keeps in mind where they are, or lists those that it has in mind. -/
def remember : Builtin := fun args => do
  let (options, names) ← takeOptions "r" args
  if !options.isEmpty then
    modify ({ · with found := [] })
    pure 0
  else do
    if names.isEmpty then
      for (_, path) in slotted 31 (← get).found do print (path ++ "\n")
    let mut status := 0
    for x in names do
      let s ← get
      if !(isBuiltin x) && (s.functions.lookup x).isNone && !x.toList.contains '/' then
        match findProgram s s.search x with
        | .ok path =>
          modify fun s => { s with found := s.found.filter (·.1 ≠ x) ++ [(x, path)] }
        | .error _ => do
          complain (x ++ ": not found")
          status := 1
    pure status

/-- The words of a simple command without the `command` in front. -/
structure Invocation where
  args : List String
  /-- No function is meant, and no failure ends the shell. -/
  plain : Bool := false
  /-- Programs are those of the system. -/
  usual : Bool := false

/-- What follows `command` and its options, if those are known and something does; and
    whether the options ask for the programs of the system. -/
def commandOperands? : List String → Option (Bool × List String)
  | [] => none
  | "--" :: args => if args.isEmpty then none else some (false, args)
  | a :: args =>
    match a.toList with
    | '-' :: c :: cs =>
      if (c :: cs).all (· == 'p') then (commandOperands? args).map fun r => (true, r.2) else none
    | _ => some (false, a :: args)

/-- What the words of a simple command run. -/
def invocation : Nat → List String → Invocation
  | fuel + 1, "command" :: args =>
    match commandOperands? args with
    | some (usual, rest) =>
      let v := invocation fuel rest
      { v with plain := true, usual := usual || v.usual }
    | none => { args := "command" :: args }
  | _, args => { args }

/-- Writes the words of a command to where error output led before its redirections. -/
def traced (before : List (Nat × Nat)) (lead : String) (words : List String) : Eval Unit :=
  modify fun s =>
    let t := { s with descriptors := before }.write 2
      (Bytes.ofUnits (lead ++ Text.joinWith " " words ++ "\n"))
    { t with descriptors := s.descriptors }

/-! ## Commands -/

mutual

/-- The pieces of a part of a word, which may be in the value of an assignment. -/
def expandPart (fuel : Nat) (assigned : Bool) (p : Part) : Eval (List Piece) :=
  match fuel, p with
  | 0, _ => throw (.exit 2)
  | _, .text t quoted => pure ((if quoted then [.mark] else []) ++
      (glyphsOf t quoted false).map .glyph)
  | fuel + 1, .param name use word quoted => expandParam fuel assigned name use word quoted
  | fuel + 1, .output c quoted => do
    let (i, s) := (← get).openNew (.pipe [])
    set s
    let status ← copied fuel do
      modify fun s => { s.point 1 i with sheltered := false }
      run fuel false c
    modify ({ · with outputStatus := status })
    let s ← get
    let bytes := (s.opened.getD i .nowhere).unread s.files
    modify fun s => { s with opened := s.opened.setIfInBounds i .nowhere }
    pure (piecesOf (withoutLineEnds bytes) quoted)
  | _, .bad => abort "Bad substitution"
  | fuel + 1, .arithmetic ps quoted => do
    let text := pieceText [' '] (← expandWord fuel false ps)
    match Arithmetic.read text.toList with
    | .error wanted => abort ("arithmetic expression: " ++ wanted ++ ": \"" ++ text ++ "\"")
    | .ok e =>
      match e.value (← get).value? [] with
      | .error .divisionByZero => abort ("arithmetic expression: division by zero: \"" ++ text ++
          "\"")
      | .error (.notANumber x) => abort ("Illegal number: " ++ x)
      | .error .malformed => abort "arithmetic expression: expecting EOF"
      | .ok (n, vs) => do
        for (x, v) in vs.reverse do assign x (toString v)
        pure (piecesOf (toString n) quoted)

/-- The pieces of a parameter. -/
def expandParam (fuel : Nat) (assigned : Bool) (name : String) (use : ParamUse) (word : Word)
    (quoted : Bool) : Eval (List Piece) :=
  match fuel with
  | 0 => throw (.exit 2)
  | fuel + 1 => do
    let s ← get
    let value := s.parameter? name
    let word := if quoted then word else withHomes s assigned word
    let isList := name == "@" || name == "*"
    let isSet (colon : Bool) : Bool :=
      if isList then !s.args.isEmpty else value.any fun v => !(colon && v.isEmpty)
    let instead : Eval (List Piece) := do
      let ps ← expandWord fuel assigned word
      pure (if quoted then .mark :: ps else ps.map Piece.cuttable)
    let known : Eval String := do
      if value.isNone && s.has .nounset && !isList then abort (name ++ ": parameter not set")
      pure (value.getD "")
    let plain : Eval (List Piece) := do
      if isList then pure (argumentPieces s (name == "*") quoted)
      else pure (piecesOf (← known) quoted)
    match use with
    | .value => plain
    | .length => do pure (piecesOf (toString (← known).length) quoted)
    | .orElse colon => if isSet colon then plain else instead
    | .orAssign colon =>
      if isSet colon then plain
      else do
        let v := pieceText s.separators (← expandWord fuel assigned word)
        assign name v
        pure (piecesOf v quoted)
    | .orFail colon =>
      if isSet colon then plain
      else do
        let message := pieceText s.separators (← expandWord fuel assigned word)
        abort (name ++ ": " ++
          if message.isEmpty then
            "parameter not set" ++ if colon then " or null" else ""
          else message)
    | .ifSet colon =>
      if isSet colon then instead else pure (piecesOf "" quoted)
    | .withoutStart longest => do
      let text ← known
      let gs := glyphsAmong s.separators (← expandWord fuel assigned word)
      pure (piecesOf (String.ofList (Shell.withoutStart longest gs text.toList)) quoted)
    | .withoutEnd longest => do
      let text ← known
      let gs := glyphsAmong s.separators (← expandWord fuel assigned word)
      pure (piecesOf (String.ofList (Shell.withoutEnd longest gs text.toList)) quoted)

/-- The pieces of a word. -/
def expandWord (fuel : Nat) (assigned : Bool) (w : Word) : Eval (List Piece) :=
  match fuel, w with
  | 0, _ => throw (.exit 2)
  | _, [] => pure []
  | fuel + 1, p :: ps => do
    let a ← expandPart fuel assigned p
    let b ← expandWord fuel assigned ps
    pure (a ++ b)

/-- The glyphs of a word that is not cut. -/
def wordGlyphs (fuel : Nat) (assigned : Bool) (w : Word) : Eval (List Glyph) :=
  match fuel with
  | 0 => throw (.exit 2)
  | fuel + 1 => do
    let ps ← expandWord fuel assigned (withHomes (← get) assigned w)
    pure (glyphsAmong (← get).separators ps)

/-- The arguments that words stand for, behind those there are already. -/
def arguments (fuel : Nat) (before : List String) (ws : List Word) : Eval (List String) :=
  match fuel, ws with
  | 0, _ => throw (.exit 2)
  | _, [] => pure before
  | fuel + 1, w :: ws => do
    let assigns := ((invocation before.length before).args.head?).any assigningCommands.contains
    match if assigns then Parse.assignment? w else none with
    | some (x, value) => do
      let gs ← wordGlyphs fuel true value
      arguments fuel (before ++ [x ++ "=" ++ textOf gs]) ws
    | none => do
      let ps ← expandWord fuel false (withHomes (← get) false w)
      let s ← get
      let cuts := cutPieces s.separators ps
      let args := if s.has .noglob then cuts.map textOf
        else cuts.flatMap (argumentsOf s.files s.cwd)
      arguments fuel (before ++ args) ws

/-- Applies redirections; answers whether all could be. -/
def redirect (fuel : Nat) (rs : List Redirect) : Eval Bool :=
  match fuel, rs with
  | 0, _ => throw (.exit 2)
  | _, [] => pure true
  | fuel + 1, .mk d kind w :: rs => do
    let word := textOf (← wordGlyphs fuel false w)
    if ← redirectTo d kind word then redirect fuel rs else pure false

/-- Runs a step with redirections, which are undone after it. -/
def redirected (fuel : Nat) (rs : List Redirect) (step : Eval Unit) : Eval Unit :=
  match fuel with
  | 0 => throw (.exit 2)
  | fuel + 1 => do
    let before := (← get).descriptors
    afterwards (do if ← redirect fuel rs then step else setStatus 2)
      ({ · with descriptors := before })

/-- Runs a step in a copy of the shell to its end; answers its status. -/
def copied (fuel : Nat) (step : Eval Unit) : Eval Nat :=
  match fuel with
  | 0 => throw (.exit 2)
  | fuel + 1 => do
    let r ← apart (finish fuel step)
    let s ← get
    match s.doom with
    | some n => if !s.isCopy then do
        set { s with doom := none }
        deliver n
    | none => pure ()
    pure (endStatus r)

/-- Runs a command. A failure ends a strict shell, unless it is tested. -/
def run (fuel : Nat) (tested : Bool) (c : Command) : Eval Unit :=
  match fuel with
  | 0 => throw (.exit 2)
  | fuel + 1 => do
    if (← get).has .noexec then return
    match c with
    | .simple line assignments words rs => do
      modify ({ · with line, outputStatus := 0 })
      let args ← arguments fuel [] words
      simple fuel tested assignments args rs
      answerSignals fuel
      checkStrict tested
    | .inLine line c => do
      modify ({ · with line })
      run fuel tested c
    | .redirected c rs => do
      redirected fuel rs (run fuel tested c)
      checkStrict tested
    | .pipe a b => do
      let (i, s) := (← get).openNew (.pipe [])
      set s
      let _ ← copied fuel do
        modify (·.point 1 i)
        run fuel tested a
      let status ← copied fuel do
        modify (·.point 0 i)
        run fuel tested b
      setStatus status
      answerSignals fuel
      checkStrict tested
    | .not c => do
      run fuel true c
      setStatus (if (← get).status = 0 then 1 else 0)
    | .and a b => do
      run fuel true a
      if (← get).status = 0 then run fuel tested b
    | .or a b => do
      run fuel true a
      if (← get).status ≠ 0 then run fuel tested b
    | .sequence cs => runAll fuel tested cs
    | .background c => do
      let (i, s) := (← get).openNew .nowhere
      set s
      let status ← copied fuel do
        modify (·.point 0 i)
        run fuel false c
      modify fun s => { s.addJob status with status := 0 }
      answerSignals fuel
    | .subshell c => do
      setStatus (← copied fuel (run fuel tested c))
      answerSignals fuel
      checkStrict tested
    | .choice condition yes no => do
      run fuel true condition
      if (← get).status = 0 then run fuel tested yes
      else do
        setStatus 0
        run fuel tested no
    | .repeat until_ condition body => repeated fuel tested until_ condition body 0
    | .each name ws body => do
      let values ← match ws with
        | some ws => arguments fuel [] ws
        | none => do pure (← get).args
      setStatus 0
      forEach fuel tested name values body
    | .select w arms => do
      let text := textOf (← wordGlyphs fuel false w)
      setStatus 0
      selected fuel tested text arms
    | .define name body => do
      modify fun s =>
        { s with functions := (name, body) :: s.functions.filter (·.1 ≠ name), status := 0 }

/-- Runs commands one after another. -/
def runAll (fuel : Nat) (tested : Bool) (cs : List Command) : Eval Unit :=
  match fuel, cs with
  | 0, _ => throw (.exit 2)
  | _, [] => pure ()
  | fuel + 1, c :: cs => do
    run fuel tested c
    runAll fuel tested cs

/-- Runs the body of a loop; answers whether the loop goes on. -/
def round (fuel : Nat) (tested : Bool) (body : Command) : Eval Bool :=
  match fuel with
  | 0 => throw (.exit 2)
  | fuel + 1 => do
    let outer := (← get).loops
    modify ({ · with loops := outer + 1 })
    let ended : Option Flow ←
      try
        run fuel tested body
        pure none
      catch e => pure (some e)
    modify ({ · with loops := outer })
    match ended with
    | none => pure true
    | some (.leave n) => if n ≤ 1 then pure false else throw (.leave (n - 1))
    | some (.again n) => if n ≤ 1 then pure true else throw (.again (n - 1))
    | some e => throw e

/-- Repeats a body under a condition; `last` is the status of the body so far. -/
def repeated (fuel : Nat) (tested until_ : Bool) (condition body : Command) (last : Nat) :
    Eval Unit :=
  match fuel with
  | 0 => throw (.exit 2)
  | fuel + 1 => do
    run fuel true condition
    if ((← get).status = 0) != until_ then
      if ← round fuel tested body then repeated fuel tested until_ condition body (← get).status
    else setStatus last

/-- Runs a body for each value of a variable. -/
def forEach (fuel : Nat) (tested : Bool) (name : String) (values : List String)
    (body : Command) : Eval Unit :=
  match fuel, values with
  | 0, _ => throw (.exit 2)
  | _, [] => pure ()
  | fuel + 1, v :: vs => do
    assign name v
    if ← round fuel tested body then forEach fuel tested name vs body

/-- Runs the first arm with a pattern that a text matches. -/
def selected (fuel : Nat) (tested : Bool) (text : String) (arms : List (List Word × Command)) :
    Eval Unit :=
  match fuel, arms with
  | 0, _ => throw (.exit 2)
  | _, [] => pure ()
  | fuel + 1, (patterns, body) :: arms => do
    if ← matchesAny fuel text patterns then run fuel tested body
    else selected fuel tested text arms

/-- A text matches one of some patterns. -/
def matchesAny (fuel : Nat) (text : String) (patterns : List Word) : Eval Bool :=
  match fuel, patterns with
  | 0, _ => throw (.exit 2)
  | _, [] => pure false
  | fuel + 1, p :: ps => do
    let gs ← wordGlyphs fuel false p
    if glyphsMatch gs text.toList then pure true else matchesAny fuel text ps

/-- Runs a step to the end of a shell, with what is to be run there. -/
def finish (fuel : Nat) (step : Eval Unit) : Eval Unit :=
  match fuel with
  | 0 => throw (.exit 2)
  | fuel + 1 => do
    let ended : Option Flow ←
      try
        step
        pure none
      catch e => pure (some e)
    let s ← get
    match ended, s.traps.lookup 0 with
    | some (.killed n), _ => throw (.killed n)
    | some e, none => throw e
    | none, none => pure ()
    | ended, some action => do
      let status := match ended with
        | some (.exit n) | some (.back n) => n
        | some .fault => 2
        | _ => s.status
      set { s with traps := s.traps.filter (·.1 ≠ 0), status, lastStatus := some status, loops := 0 }
      try
        let _ ← runText fuel false { rest := action.toList }
      catch
        | .back _ => pure ()
        | e => throw e
      throw (.exit status)

/-- Runs the actions of the signals that have come. -/
def answerSignals (fuel : Nat) : Eval Unit :=
  match fuel with
  | 0 => throw (.exit 2)
  | fuel + 1 => do
    let s ← get
    match s.pending.min? with
    | none => pure ()
    | some n => do
      set { s with pending := s.pending.filter (· ≠ n), lastStatus := some s.status }
      let _ ← runText fuel false { rest := ((s.traps.lookup n).getD "").toList }
      modify ({ · with status := s.status, lastStatus := s.lastStatus })
      answerSignals fuel

/-- Runs the commands of a text; answers whether there were any. Lines that are read from a
    file are shown if an option asks for it. -/
def runText (fuel : Nat) (isFile : Bool) (source : Source) : Eval Bool :=
  match fuel with
  | 0 => throw (.exit 2)
  | fuel + 1 => do
    let source := { source with aliases := (← get).aliases }
    match Parse.nextLine.run source with
    | .error e => do
      modify ({ · with line := e.line })
      abort e.message
    | .ok (c, after) => do
      if isFile && (← get).has .verbose then
        printError (String.ofList (source.rest.take (source.rest.length - after.rest.length)))
      match c with
      | none => pure false
      | some c => do
        run fuel false c
        let _ ← runText fuel isFile after
        pure true

/-- The text in front of each command that is shown before it runs. -/
def traceLead (fuel : Nat) : Eval String :=
  match fuel with
  | 0 => throw (.exit 2)
  | fuel + 1 => do
    let s ← get
    let lead := (s.value? "PS4").getD ""
    match (Parse.parts .here (10 * lead.length + 20) []).run { rest := lead.toList } with
    | .error _ => pure lead
    | .ok (w, _) => do
      set { s with settings := Setting.switch s.settings .xtrace false }
      afterwards
        (try textOf <$> wordGlyphs fuel false w
        catch _ => pure lead)
        ({ · with settings := s.settings })

/-- Shows a command before it runs, if an option asks for it. -/
def showCommand (fuel : Nat) (before : List (Nat × Nat)) (words : List String) : Eval Unit :=
  match fuel with
  | 0 => throw (.exit 2)
  | fuel + 1 => do
    if (← get).has .xtrace then traced before (← traceLead fuel) words

/-- Runs a simple command, whose words are expanded. -/
def simple (fuel : Nat) (tested : Bool) (assignments : List (String × Word))
    (args : List String) (rs : List Redirect) : Eval Unit :=
  match fuel with
  | 0 => throw (.exit 2)
  | fuel + 1 => do
    let before := (← get).descriptors
    let undo (s : State) : State := { s with descriptors := before }
    let v := invocation args.length args
    let name := v.args.headD ""
    let isSpecial := specialCommands.contains name && !v.plain
    let could ←
      try redirect fuel rs
      catch e => do
        modify undo
        throw e
    if !could then do
      modify undo
      setStatus 2
      if isSpecial then throw .fault
    else if args.isEmpty then
      afterwards (do
        let shown ← assignAll fuel false assignments
        showCommand fuel before shown
        setStatus (← get).outputStatus) undo
    else
      let isLocal := !isSpecial
      let body : Eval Unit := do
        let shown ← assignAll fuel isLocal assignments
        showCommand fuel before (shown ++ args)
        if name == "exec" && !v.args.tail.isEmpty then
          for (x, _) in assignments do modify (·.change x ({ · with exported := true }))
        invoke fuel tested v isSpecial
      let body := if isLocal then framed body else body
      if name == "exec" then body else afterwards body undo

/-- Makes assignments in order, up to the end of the innermost frame if they are local;
    answers how they are shown. -/
def assignAll (fuel : Nat) (isLocal : Bool) (assignments : List (String × Word)) :
    Eval (List String) :=
  match fuel, assignments with
  | 0, _ => throw (.exit 2)
  | _, [] => pure []
  | fuel + 1, (x, w) :: rest => do
    let value := textOf (← wordGlyphs fuel true w)
    if isLocal then assignFramed x value else assign x value
    let more ← assignAll fuel isLocal rest
    pure ((x ++ "=" ++ value) :: more)

/-- Runs what the words of a simple command name. -/
def invoke (fuel : Nat) (tested : Bool) (v : Invocation) (isSpecial : Bool) : Eval Unit :=
  match fuel, v.args with
  | 0, _ => throw (.exit 2)
  | _, [] => pure ()
  | fuel + 1, name :: args => do
    let functions := (← get).functions
    match if v.plain then none else functions.lookup name with
    | some body => callFunction fuel tested body args
    | none =>
      if isBuiltin name then do
        let n ←
          try shelteredBy tested (speakingAs name do
            let n ← builtin fuel v.usual name args
            if (← get).lost then do
              modify ({ · with lost := false })
              complain (name ++ ": I/O error")
              pure (max n 1)
            else pure n)
          catch
            | .fault => if isSpecial then throw .fault else pure 2
            | e => throw e
        setStatus n
      else do
        let n ← program fuel v.usual name args
        setStatus n

/-- Runs the body of a function with arguments. -/
def callFunction (fuel : Nat) (tested : Bool) (body : Command) (args : List String) : Eval Unit :=
  match fuel with
  | 0 => throw (.exit 2)
  | fuel + 1 => do
    let outer ← get
    set { outer.withArgs args with loops := 0 }
    try
      afterwards (shelteredBy tested (run fuel tested body)) fun s =>
        { s with
          args := outer.args, loops := outer.loops, optionIndex := outer.optionIndex
          optionOffset := outer.optionOffset }
    catch
      | .back n => setStatus n
      | e => throw e

/-- Runs a command of the shell itself. -/
def builtin (fuel : Nat) (usual : Bool) (name : String) (args : List String) : Eval Nat :=
  match fuel with
  | 0 => throw (.exit 2)
  | fuel + 1 => do
    match name, args with
    | "exit", [] => do
      let s ← get
      throw (.exit (s.lastStatus.getD s.status))
    | "exit", a :: _ => throw (.exit (← wholeNumber a))
    | "return", [] => throw (.back (← get).status)
    | "return", a :: _ => throw (.back (← wholeNumber a))
    | "break", args => do
      let n ← levels args
      if n = 0 then pure 0 else throw (.leave n)
    | "continue", args => do
      let n ← levels args
      if n = 0 then pure 0 else throw (.again n)
    | "eval", args => do
      let ran ← runText fuel false { rest := (Text.joinWith " " args).toList }
      let s ← get
      pure (if ran then s.status else 0)
    | ".", args => do
      let (_, operands) ← takeOptions "" args
      match operands with
      | [] => pure 0
      | a :: _ => source fuel a
    | "command", args => do
      let (options, operands) ← takeOptions "pvV" args
      match options.getLast?, operands with
      | none, _ | _, [] => pure 0
      | some (c, _), x :: _ => describe (c == 'V') x
    | "type", args => do
      let mut status := 0
      for x in args do
        let n ← describe true x
        if n ≠ 0 then status := n
      pure status
    | "hash", args => remember args
    | "kill", args => kill fuel args
    | "exec", [] => pure 0
    | "exec", name :: args => do
      let s ← get
      match findProgram s s.search name with
      | .error .missing => do
        complain (name ++ ": not found")
        throw (.exit 127)
      | .error .denied => do
        complain (name ++ ": Permission denied")
        throw (.exit 126)
      | .ok path => do
        modify fun s => { s with speaker := none, traps := s.traps.filter (·.1 ≠ 0) }
        let n ← execute fuel usual name path args
        throw (.exit n)
    | name, args =>
      match builtins.lookup name with
      | some f => f args
      | none => pure 127

/-- Runs the commands of a file in this shell. -/
def source (fuel : Nat) (name : String) : Eval Nat :=
  match fuel with
  | 0 => throw (.exit 2)
  | fuel + 1 => do
    let s ← get
    let path? := if name.toList.contains '/' then some name
      else (candidates s.search name).find? fun c => match s.files.findText s.cwd c with
        | .ok (.regular _ _) | .ok (.program _) => true
        | _ => false
    match path? with
    | none => abort (name ++ ": not found")
    | some path =>
      match s.files.findText s.cwd path with
      | .error e => abort ("cannot open " ++ path ++ ": " ++ ({} : Opening).reason e)
      | .ok file => do
        let content := match file with
          | .regular content _ => content
          | _ => []
        let text := (Bytes.toUnits (content.filter (· ≠ 0))).toList
        try
          let ran ← speakingAs path (runText fuel true { rest := text })
          let s ← get
          pure (if ran then s.status else 0)
        catch
          | .back n => pure n
          | e => throw e

/-- Sends a signal, or lists signals. -/
def kill (fuel : Nat) (args : List String) : Eval Nat :=
  match fuel with
  | 0 => throw (.exit 2)
  | fuel + 1 => do
    let usage : Eval Nat := abort
      "Usage: kill [-s sigspec | -signum | -sigspec] [pid | job]... or\nkill -l [exitstatus]"
    let direct := match args with
      | a :: _ => match a.toList with
        | '-' :: name => Signal.read? true (String.ofList name)
        | _ => none
      | [] => none
    let (options, targets) ← match direct with
      | some _ => pure ([], args.drop 1)
      | none => takeOptions "ls:" args
    if options.any (·.1 == 'l') then
      match targets with
      | [] => do
        print (String.join (("0" :: Signal.names.drop 1).map fun x => x ++ "\n"))
        pure 0
      | a :: _ => do
        let n ← wholeNumber a
        let n := if n > 128 then n - 128 else n
        if 0 < n && n < Signal.names.length then do
          print (Signal.name n ++ "\n")
          pure 0
        else abort ("invalid signal number or exit status: " ++ a)
    else do
      let signal ← match direct, options.getLast? with
        | some n, _ => pure n
        | none, some (_, name) =>
          match Signal.read? true name with
          | some n => pure n
          | none => abort ("invalid signal number or name: " ++ name)
        | none, none => pure 15
      if targets.isEmpty then usage else send fuel signal targets

/-- Sends a signal to processes. -/
def send (fuel : Nat) (n : Nat) (targets : List String) : Eval Nat :=
  match fuel, targets with
  | 0, _ => throw (.exit 2)
  | _, [] => pure 0
  | fuel + 1, t :: ts => do
    let s ← get
    let isShell ← match t.toList with
      | '%' :: _ => do
        let _ ← namedJob t
        pure false
      | _ => do pure ((← wholeNumber t) == s.pid)
    if isShell then do
      if n ≠ 0 then
        if s.isCopy then set { s with doom := some n } else deliver n
      send fuel n ts
    else do
      complain "No such process\n"
      let _ ← send fuel n ts
      pure 1

/-- Runs a program that is found by its name. -/
def program (fuel : Nat) (usual : Bool) (name : String) (args : List String) : Eval Nat :=
  match fuel with
  | 0 => throw (.exit 2)
  | fuel + 1 => do
    let s ← get
    let hasSlash := name.toList.contains '/'
    match findProgram s (if usual then systemSearch else s.search) name with
    | .error .missing => do
      complain (name ++ ": not found")
      pure 127
    | .error .denied => do
      complain (name ++ ": Permission denied")
      pure (if hasSlash then 126 else 127)
    | .ok path => do
      set s.freeSlot
      if !hasSlash && (s.found.lookup name).isNone then
        modify ({ · with found := s.found ++ [(name, path)] })
      execute fuel usual name path args

/-- Runs the program at a path under a name. -/
def execute (fuel : Nat) (usual : Bool) (name path : String) (args : List String) : Eval Nat :=
  match fuel with
  | 0 => throw (.exit 2)
  | fuel + 1 => do
    let s ← get
    match s.files.find (Path.of s.cwd path) with
    | .ok (.program p) =>
      if isShell p then called fuel name args
      else if p == "env" then changedEnv fuel args
      else runTool p args
    | .ok (.regular content _) =>
      match interpreter? content with
      | some (p, extra) =>
        match s.files.canRun (Path.of s.cwd p) with
        | .ok () => execute fuel usual p p (extra ++ path :: args)
        | .error .denied => do
          complain (name ++ ": Permission denied")
          pure 126
        | .error _ => do
          complain (name ++ ": not found")
          pure 127
      | none => called fuel name (path :: args)
    | _ => pure 126

/-- Runs a program in a changed environment, or prints that. -/
def changedEnv (fuel : Nat) (args : List String) : Eval Nat :=
  match fuel with
  | 0 => throw (.exit 2)
  | fuel + 1 => do
    let rec options (s : State) : List String → State × List String
      | "-u" :: x :: args => options (s.restore x none) args
      | "--" :: args => (s, args)
      | a :: args =>
        if a == "-i" || a == "-" then
          options { s with vars := s.vars.map ({ · with exported := false }) } args
        else (s, a :: args)
      | [] => (s, [])
    let (s, args) := options (← get) args
    let pairs := args.takeWhile fun a => a.toList.contains '='
    let t := pairs.foldl (fun (t : State) a =>
      let (x, v) := nameAndValue a
      (t.assign x (v.getD "")).change x ({ · with exported := true })) s
    match args.drop pairs.length with
    | [] => do
      print (String.join (t.environment.map fun v => v.1 ++ "=" ++ v.2 ++ "\n"))
      modify ({ · with lost := false })
      pure 0
    | x :: rest =>
      let path := (t.lookup "PATH").bind fun v => if v.exported then v.value else none
      match findProgram t (path.getD "/bin:/usr/bin") x with
      | .error e => do
        let (reason, status) := match e with
          | .missing => (FileFault.missing.reason, 127)
          | .denied => (FileFault.denied.reason, 126)
        printError ("env: " ++ Tool.quoted x ++ ": " ++ reason ++ "\n")
        pure status
      | .ok path => copied fuel do
        modify ({ · with vars := t.vars })
        setStatus (← execute fuel false x path rest)

/-- Runs another shell to its end. -/
def called (fuel : Nat) (name : String) (args : List String) : Eval Nat :=
  match fuel with
  | 0 => throw (.exit 2)
  | fuel + 1 => do
    let s ← get
    let (r, t) := (start fuel args).run (s.inner name)
    set { s with files := t.files, opened := t.opened }
    match r with
    | .error (.killed n) => if let some words := Signal.obituary? n then printError (words ++ "\n")
    | _ => pure ()
    pure (endStatus (r.map fun _ => (), match r with
      | .ok n => { t with status := n }
      | .error _ => t))

/-- Runs a shell from its arguments to its end. -/
def start (fuel : Nat) (args : List String) : Eval Nat :=
  match fuel with
  | 0 => throw (.exit 2)
  | fuel + 1 => do
    modify fun s =>
      let s := if s.value? "PWD" == some s.cwd.text then s
        else (s.assign "PWD" s.cwd.text).change "PWD" ({ · with exported := true })
      let s := if (s.value? "PATH").isSome then s else s.assign "PATH" usualSearch
      [("IFS", " \t\n"), ("OPTIND", "1"), ("PPID", toString (s.pid - 1)), ("PS1", "# "),
        ("PS2", "> "), ("PS4", "+ ")].foldl (fun s v => s.assign v.1 v.2) s
    modify ({ · with line := 0 })
    let (isCommand, args, _) ← switchOptions true args.length args
    let s ← get
    let (isFile, text) ←
      if isCommand then
        match args with
        | [] => abort "-c requires an argument"
        | command :: rest => do
          if let name :: rest := rest then set { s with name, args := rest }
          pure (false, command)
      else match if s.has .stdin then [] else args with
      | [] => do
        set { s.leaveInput [] with args, settings := Setting.switch s.settings .stdin true }
        pure (true, Bytes.toUnits s.input)
      | file :: rest =>
        match s.files.findText s.cwd file with
        | .error e => abort ("cannot open " ++ file ++ ": " ++ ({} : Opening).reason e)
        | .ok f => do
          set { s with name := file, args := rest }
          pure (true, match f with
            | .regular content _ => Bytes.toUnits content
            | _ => "")
    modify ({ · with line := 1 })
    try
      finish fuel do
        let _ ← runText fuel isFile { rest := text.toList }
      pure (← get).status
    catch
      | .exit n => pure (n % 256)
      | .back n => pure (n % 256)
      | .fault => pure 2
      | .killed n => throw (.killed n)
      | _ => pure (← get).status

end

end Runbook.Shell
