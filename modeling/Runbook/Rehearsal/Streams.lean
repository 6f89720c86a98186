/-
  Scripted streams of a channel, to rehearse pumping them.

  A stream is a list of chunks. A read takes at most `readSize` bytes of the first chunk;
  a chunk without bytes, like the end of the list, is an empty read. Every read is
  recorded.
-/
import Runbook.Network.Pump

namespace Runbook.Rehearsal

/-- What a stream has next. -/
inductive Chunk where
  | data (bytes : Bytes)
  | block
  /-- A failed read; some failures only mean that nothing is there yet. -/
  | failure (message : String) (temporary : Bool)

/-- The name of a stream in records. -/
def sideName : Side → String
  | .out => "out"
  | .err => "err"

/-- A record of what was asked. -/
inductive Reading where
  | data (side : Side) (size : Nat)
  | wouldBlock (side : Side)
  | failed (side : Side)
  | finished

/-- The text of a record. -/
def Reading.text : Reading → String
  | data side size => sideName side ++ " " ++ toString size
  | wouldBlock side => sideName side ++ " would-block"
  | failed side => sideName side ++ " error"
  | finished => "finished?"

/-- The streams of a channel. -/
structure Streams where
  out : List Chunk
  err : List Chunk
  /-- The number of the question at which the channel has finished; without it the
      channel has finished when nothing is left in `out`. -/
  finishAfter : Option Nat := none
  asked : Nat := 0
  readings : List Reading := []

/-- A read: its record, its result and what is left. -/
def readChunk (side : Side) : List Chunk → Reading × ReadResult × List Chunk
  | [] => (.data side 0, .data [], [])
  | .block :: cs => (.wouldBlock side, .wouldBlock, cs)
  | .failure message temporary :: cs =>
    (.failed side, if temporary then .wouldBlock else .failed (.of message), cs)
  | .data bytes :: cs =>
    let bs := bytes.take readSize
    let rest := bytes.drop readSize
    (.data side bs.length, .data bs, if rest.isEmpty then cs else .data rest :: cs)

namespace Streams

/-- Reads one of the streams. -/
def read (side : Side) : StateM Streams ReadResult := fun s =>
  match side with
  | .out =>
    let (reading, result, out) := readChunk .out s.out
    (result, { s with out, readings := s.readings ++ [reading] })
  | .err =>
    let (reading, result, err) := readChunk .err s.err
    (result, { s with err, readings := s.readings ++ [reading] })

/-- Asks whether the channel has finished. -/
def isFinished : StateM Streams Bool := fun s =>
  let asked := s.asked + 1
  (match s.finishAfter with
    | some n => asked == n
    | none => s.out.isEmpty,
    { s with asked, readings := s.readings ++ [.finished] })

/-- The streams as a feed. -/
def feed : Feed Streams := ⟨read, isFinished⟩

/-- The number of reads that a chunk takes at most. -/
def readsOf : Chunk → Nat
  | .data bytes => bytes.length / readSize + 1
  | _ => 1

/-- More rounds than pumping these streams takes. -/
def fuel (s : Streams) : Nat :=
  ((s.out ++ s.err).map readsOf).foldl Nat.add 0 + s.finishAfter.getD 0 + 2

/-- Pumps the streams into two basins. -/
def pumped (s : Streams) (out err : Basin) : Option (Except Failure Unit × Pumping Streams) :=
  pump feed s.fuel ⟨s, out, err⟩

end Streams

end Runbook.Rehearsal
