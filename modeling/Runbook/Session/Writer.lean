/-
  The writer in front of standard output.

  The output of commands on other machines comes through this program, which writes it out
  line by line: what follows the last line end is held back until more is written, or until
  the writer is flushed. Processes on this machine inherit standard output itself, so what
  they write is not kept in order with what is held back.

  * `Writer.put` takes bytes, and `Writer.flush` lets out what is held back;
  * `Outlet` is standard output behind its writer;
  * `Outlet.relay_idle`: bytes that are taken and flushed are out, and nothing is held back.
-/
import Runbook.Text.Bytes

namespace Runbook

/-- The writer in front of standard output. -/
structure Writer where
  /-- The bytes that are held back. -/
  held : Bytes := []
  /-- Why nothing can be written out, if so. -/
  fault : Option String := none
  deriving DecidableEq, Repr

namespace Writer

/-- So many bytes of an unfinished line are held back at most. -/
def capacity : Nat := 1024

/-- Cuts bytes behind their last line end. -/
def cutLines : Bytes → Bytes × Bytes
  | [] => ([], [])
  | b :: bs =>
    let (lines, rest) := cutLines bs
    if lines.isEmpty && b != 10 then ([], b :: rest) else (b :: lines, rest)

/-- What comes out when an unfinished line goes on, and what is held back of it. -/
def hold (held rest : Bytes) : Bytes × Bytes :=
  if capacity ≤ rest.length then (held ++ rest, [])
  else if held.length + rest.length ≤ capacity then ([], held ++ rest)
  else (held, rest)

/-- Takes bytes: what comes out, and the writer afterwards. -/
def put (w : Writer) (bytes : Bytes) : Bytes × Writer :=
  match w.fault with
  | some _ => ([], { w with held := w.held ++ bytes })
  | none =>
    let (lines, rest) := cutLines bytes
    if lines.isEmpty then
      let (out, held) := hold w.held rest
      (out, { w with held })
    else
      let (out, held) := hold [] rest
      (w.held ++ lines ++ out, { w with held })

/-- Lets out what is held back: the bytes that come out, or why they cannot. -/
def flush (w : Writer) : Except String Bytes :=
  match w.fault with
  | some e => if w.held.isEmpty then .ok [] else .error e
  | none => .ok w.held

theorem cutLines_append (bytes : Bytes) : (cutLines bytes).1 ++ (cutLines bytes).2 = bytes := by
  induction bytes with
  | nil => rfl
  | cons b bs ih =>
    unfold cutLines
    dsimp only
    split
    · next unfinished =>
      rw [Bool.and_eq_true, List.isEmpty_iff] at unfinished
      rw [unfinished.1] at ih
      exact congrArg (b :: ·) ih
    · exact congrArg (b :: ·) ih

theorem hold_append (held rest : Bytes) :
    (hold held rest).1 ++ (hold held rest).2 = held ++ rest := by
  unfold hold
  split
  · exact List.append_nil _
  · split <;> rfl

/-- **No byte is lost**: what comes out, and then what is held back, is what was held back
    before and the new bytes. -/
theorem put_conserves (w : Writer) (bytes : Bytes) :
    (w.put bytes).1 ++ (w.put bytes).2.held = w.held ++ bytes := by
  have whole := cutLines_append bytes
  unfold put
  rcases w.fault with _ | e
  · dsimp only
    split
    · next unfinished =>
      rw [List.isEmpty_iff.1 unfinished, List.nil_append] at whole
      rw [hold_append, whole]
    · have behind := hold_append [] (cutLines bytes).2
      rw [List.nil_append] at behind
      rw [List.append_assoc, List.append_assoc, behind, whole]
  · rfl

theorem put_fault (w : Writer) (bytes : Bytes) : (w.put bytes).2.fault = w.fault := by
  obtain ⟨held, fault⟩ := w
  cases fault with
  | none =>
    unfold put
    dsimp only
    split <;> rfl
  | some e => rfl

/-- Half a line is held back. -/
example : put {} (Bytes.ofUnits "made\nsto") =
    (Bytes.ofUnits "made\n", { held := Bytes.ofUnits "sto" }) := by decide

end Writer

/-- Standard output: what came out of it, and the writer in front of it. -/
structure Outlet where
  out : Bytes
  writer : Writer

namespace Outlet

/-- Bytes that do not go through the writer come out at once. -/
def pass (o : Outlet) (bytes : Bytes) : Outlet := { o with out := o.out ++ bytes }

/-- Hands bytes to the writer. -/
def hand (o : Outlet) (bytes : Bytes) : Outlet where
  out := o.out ++ (o.writer.put bytes).1
  writer := (o.writer.put bytes).2

/-- Flushes the writer. What cannot be written out is held back still. -/
def flush (o : Outlet) : Except String Unit × Outlet :=
  match o.writer.flush with
  | .ok bytes => (.ok (), { out := o.out ++ bytes, writer := { o.writer with held := [] } })
  | .error e => (.error e, o)

/-- Hands bytes to the writer and flushes it. -/
def relay (o : Outlet) (bytes : Bytes) : Except String Unit × Outlet := (o.hand bytes).flush

/-- **What is flushed is out.** From a writer that holds nothing back and can write, all bytes
    come out, and again nothing is held back. -/
theorem relay_idle {o : Outlet} (idle : o.writer = {}) (bytes : Bytes) :
    o.relay bytes = (.ok (), { out := o.out ++ bytes, writer := {} }) := by
  have fault : (o.writer.put bytes).2.fault = none := by rw [Writer.put_fault, idle]
  have all : (o.writer.put bytes).1 ++ (o.writer.put bytes).2.held = bytes := by
    rw [Writer.put_conserves, idle]
    rfl
  have flushed : (o.hand bytes).writer.flush = .ok (o.writer.put bytes).2.held := by
    rw [Writer.flush, hand, fault]
  rw [relay, flush, flushed]
  simp only [hand, List.append_assoc, all, fault]

end Outlet

end Runbook
