/-
  Redirecting a session's output for a while, and capturing the output of one command.

  * `redirectedBy` runs a step with another sink and puts back the sink that was swapped
    out, whatever the step came to and whatever it did to the sink;
  * `SessionKind.capture` runs one command into a buffer of its own and answers its text.
-/
import Runbook.Session

namespace Runbook

variable {σ S : Type}

/-- Runs a step on a session with its output sent to `sink`, then puts back the sink from
    before. -/
def redirectedBy {α : Type} (swap : Sink → S → Sink × S) (s : S) (sink : Sink)
    (step : S → Run σ (α × S)) : Run σ (α × S) := do
  let (previous, s) := swap sink s
  let (a, s) ← step s
  pure (a, (swap previous s).2)

/-- Runs a command line and answers its output as text. -/
def SessionKind.capture (k : SessionKind σ S) (s : S) (command : String) :
    Run σ (Except Fault String × S) := do
  let id ← Run.newBuffer
  let (o, s) ← redirectedBy k.swapSink s (.buffer id) (k.run · command)
  let bytes ← Run.dropBuffers id
  match o with
  | .ok () => pure (.ok (Bytes.decodeLossy bytes), s)
  | .error e => pure (.error e, s)

/-- A captured command is run once, with the output of the session turned to a new buffer. Its
    answer is what the buffer has come to hold, and the output is turned back. -/
theorem SessionKind.capture_apply {k : SessionKind σ S} {s away left back : S}
    {command : String} {previous meanwhile : Sink} {o : Outcome} {w w' : World σ}
    (turned : k.swapSink (.buffer w.buffers.length) s = (previous, away))
    (ran : k.run away command { w with buffers := w.buffers ++ [[]] } = ((o, left), w'))
    (restored : k.swapSink previous left = (meanwhile, back)) :
    k.capture s command w =
      ((o.map fun _ => Bytes.decodeLossy (w'.buffers.getD w.buffers.length []), back),
        { w' with buffers := w'.buffers.take w.buffers.length }) := by
  have made : Run.newBuffer w =
      (w.buffers.length, { w with buffers := w.buffers ++ [[]] }) := rfl
  have dropped : Run.dropBuffers w.buffers.length w' =
      (w'.buffers.getD w.buffers.length [],
        { w' with buffers := w'.buffers.take w.buffers.length }) := rfl
  unfold SessionKind.capture redirectedBy
  simp only [Run.bind_apply, Run.pure_apply, made, turned, ran, restored, dropped]
  cases o <;> rfl

namespace Session

/-- Runs a step on the session with its output sent to `sink`, then puts back the sink
    from before. -/
def redirected {α : Type} (s : Session) (sink : Sink) (step : Session → Run σ (α × Session)) :
    Run σ (α × Session) :=
  redirectedBy swapSink s sink step

/-- Runs command lines one after the other, whatever they come to. -/
def runAll (h : Host σ) : Session → List String → Run σ (List Outcome × Session)
  | s, [] => pure ([], s)
  | s, c :: cs => do
    let (o, s) ← s.run h c
    let (os, s) ← s.runAll h cs
    pure (o :: os, s)

/-- Runs a command line and answers its output as text. -/
def capture (h : Host σ) (s : Session) (command : String) :
    Run σ (Except Fault String × Session) :=
  (kind h).capture s command

end Session

end Runbook
