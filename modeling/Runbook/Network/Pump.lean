/-
  Draining the two streams of a channel at once.

  A channel's standard output and standard error share one window, so neither may be read
  to its end before the other: they are read in turn, a chunk at a time, until the channel
  says that it has finished, and then each is drained.

  * `Feed` is where chunks of both sides are read from, over a state of its own;
  * `Basin` is where the bytes of a side go; one with limited room fails when it is full;
  * `pump` runs at most the given number of rounds and drains at most as many chunks; it
    answers `none` if that was not enough.
-/
import Runbook.Fault
import Runbook.Text.Bytes

namespace Runbook

/-- A stream of a channel. -/
inductive Side where
  | out
  | err
  deriving DecidableEq, Repr

/-- What a failure of a stream is reported with. -/
def Side.context : Side → String
  | out => "failed to read remote stdout"
  | err => "failed to read remote stderr"

/-- The number of bytes that a read asks for. -/
def readSize : Nat := 8192

/-- What a read comes to. No data at all is read at the end of a stream. -/
inductive ReadResult where
  | data (bytes : Bytes)
  | wouldBlock
  | failed (f : Failure)

/-- Two streams, and whether the channel has finished. -/
structure Feed (σ : Type) where
  read : Side → StateM σ ReadResult
  finished : StateM σ Bool

/-- A place for bytes, with the room left in it if it is limited. -/
structure Basin where
  bytes : Bytes := []
  room : Option Nat := none
  /-- The failure that is met when it is full. -/
  refusal : Failure := .of "sink full"
  deriving DecidableEq, Repr

/-- Puts bytes into a basin, as far as there is room; answers whether all went in. -/
def Basin.put (b : Basin) (bytes : Bytes) : Bool × Basin :=
  match b.room with
  | none => (true, { b with bytes := b.bytes ++ bytes })
  | some n =>
    (bytes.length ≤ n, { b with
      bytes := b.bytes ++ bytes.take n
      room := some (n - bytes.length) })

/-- What a read comes to when its bytes are put into a basin: whether there was any
    progress. -/
def ReadResult.into (r : ReadResult) (b : Basin) : Except Failure Bool × Basin :=
  match r with
  | .data [] => (.ok false, b)
  | .data bytes =>
    match b.put bytes with
    | (true, b) => (.ok true, b)
    | (false, b) => (.error b.refusal, b)
  | .wouldBlock => (.ok false, b)
  | .failed f => (.error f, b)

/-- A feed and the two basins it is pumped into. -/
structure Pumping (σ : Type) where
  feed : σ
  out : Basin
  err : Basin

namespace Pumping

variable {σ : Type}

/-- The basin of a side. -/
def basin (p : Pumping σ) : Side → Basin
  | .out => p.out
  | .err => p.err

/-- Another basin for a side. -/
def withBasin (side : Side) (b : Basin) (p : Pumping σ) : Pumping σ :=
  match side with
  | .out => { p with out := b }
  | .err => { p with err := b }

/-- Forwards one chunk of a side. -/
def forward (f : Feed σ) (side : Side) (p : Pumping σ) : Except Failure Bool × Pumping σ :=
  let (r, feed) := f.read side p.feed
  let (moved, b) := r.into (p.basin side)
  (moved.mapError (.within side.context), { p with feed }.withBasin side b)

/-- Forwards chunks of a side until a read brings nothing. -/
def drain (f : Feed σ) (side : Side) : Nat → Pumping σ →
    Option (Except Failure Unit × Pumping σ)
  | 0, _ => none
  | fuel + 1, p =>
    match forward f side p with
    | (.error e, p) => some (.error e, p)
    | (.ok false, p) => some (.ok (), p)
    | (.ok true, p) => drain f side fuel p

/-- Drains what is still there after the channel has finished. -/
def drainBoth (f : Feed σ) (fuel : Nat) (p : Pumping σ) :
    Option (Except Failure Unit × Pumping σ) :=
  match drain f .out fuel p with
  | some (.ok (), p) => drain f .err fuel p
  | stopped => stopped

/-- Reads the two streams in turn until the channel has finished, then drains them. -/
def rounds (f : Feed σ) (fuel : Nat) : Nat → Pumping σ →
    Option (Except Failure Unit × Pumping σ)
  | 0, _ => none
  | n + 1, p =>
    match forward f .out p with
    | (.error e, p) => some (.error e, p)
    | (.ok _, p) =>
      match forward f .err p with
      | (.error e, p) => some (.error e, p)
      | (.ok _, p) =>
        let (done, feed) := f.finished p.feed
        let p := { p with feed }
        if done then drainBoth f fuel p else rounds f fuel n p

end Pumping

/-- Pumps a feed into two basins, in at most `fuel` rounds and drained chunks. -/
def pump {σ : Type} (f : Feed σ) (fuel : Nat) (p : Pumping σ) :
    Option (Except Failure Unit × Pumping σ) :=
  p.rounds f fuel fuel

end Runbook
