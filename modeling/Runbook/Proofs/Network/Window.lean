/-
  Pumping is not wedged by a window that both streams share.

  A server with the tightest window sends one segment at a time: nothing of a segment can
  be read before all segments in front of it, of either stream, have been read to their
  ends. A pump that insisted on one stream would wait forever for a segment of the other.

  * `Window` is such a server, as a feed: the segments that are left, and how often it
    denies having finished after the last one;
  * `sent side segments` is what it sends on a side;
  * `Window.left` counts the bytes and the denials that are left; every round of a pump
    lowers it.

  `pump_unwedged`: the pump comes to an end after at most as many rounds, and each basin
  has got what was sent on its side, however the segments are interleaved.
-/
import Mathlib.Algebra.Ring.Nat
import Runbook.Proofs.Network.Pump

namespace Runbook

/-- What is sent on a side. -/
def sent (side : Side) (segments : List (Side × Bytes)) : Bytes :=
  segments.flatMap fun (s, bytes) => if s = side then bytes else []

/-- A server that sends segments of two streams through one window. -/
structure Window where
  pending : List (Side × Bytes)
  /-- How often it is asked in vain whether it has finished, after the last segment. -/
  late : Nat
  deriving DecidableEq, Repr

namespace Window

/-- What is pending once a read has taken its part of a segment. -/
def behind (side : Side) (bytes : Bytes) (rest : List (Side × Bytes)) : List (Side × Bytes) :=
  let unread := bytes.drop readSize
  if unread.isEmpty then rest else (side, unread) :: rest

/-- Reads of the segment in front; the other stream blocks. -/
def read (side : Side) : StateM Window ReadResult := fun w =>
  match w.pending with
  | [] => (.wouldBlock, w)
  | (s, bytes) :: rest =>
    if s = side then
      (.data (bytes.take readSize), { w with pending := behind side bytes rest })
    else (.wouldBlock, w)

/-- Whether it has finished: not before everything has been read. -/
def finished : StateM Window Bool := fun w =>
  match w.pending, w.late with
  | [], 0 => (true, w)
  | [], n + 1 => (false, { w with late := n })
  | _ :: _, _ => (false, w)

/-- The server as a feed. -/
def feed : Feed Window := ⟨read, finished⟩

/-- The bytes that are left, and the questions in vain. -/
def left (w : Window) : Nat := (w.pending.map fun segment => segment.2.length).sum + w.late

end Window

section
variable {side s : Side} {bytes : Bytes} {rest : List (Side × Bytes)}

theorem sent_cons :
    sent s ((side, bytes) :: rest) = (if side = s then bytes else []) ++ sent s rest :=
  List.flatMap_cons

/-- What a read has taken and what is behind it is what was to be sent. -/
theorem sent_behind :
    sent s ((side, bytes) :: rest) =
      (if side = s then bytes.take readSize else []) ++
        sent s (Window.behind side bytes rest) := by
  have unread : sent s (Window.behind side bytes rest) =
      (if side = s then bytes.drop readSize else []) ++ sent s rest := by
    rw [Window.behind]
    by_cases hu : bytes.drop readSize = []
    · simp [hu]
    · rw [if_neg (by simpa using hu), sent_cons]
  rw [unread, sent_cons, ← List.append_assoc]
  by_cases hs : side = s
  · simp only [hs, if_true, List.take_append_drop]
  · simp only [hs, if_false, List.append_nil]

theorem nonempty_behind (h : ∀ segment ∈ rest, segment.2 ≠ []) :
    ∀ segment ∈ Window.behind side bytes rest, segment.2 ≠ [] := by
  rw [Window.behind]
  by_cases hu : bytes.drop readSize = []
  · simpa [hu] using h
  · rw [if_neg (by simpa using hu)]
    exact List.forall_mem_cons.2 ⟨hu, h⟩

theorem size_behind (h : bytes ≠ []) :
    ((Window.behind side bytes rest).map fun segment => segment.2.length).sum <
      (((side, bytes) :: rest).map fun segment => segment.2.length).sum := by
  have some : 0 < bytes.length := List.length_pos_iff.2 h
  rw [Window.behind]
  by_cases hu : bytes.drop readSize = []
  · simp [hu, some]
  · have more : 0 < readSize := by decide
    rw [if_neg (by simpa using hu)]
    simp only [List.map_cons, List.sum_cons, List.length_drop]
    omega

end

namespace Pumping

variable {p q : Pumping Window} {side : Side}

/-- No segment is empty, and each basin has room for what is still to come. -/
structure Ready (p : Pumping Window) : Prop where
  nonempty : ∀ segment ∈ p.feed.pending, segment.2 ≠ []
  fits : ∀ side, (p.basin side).Takes (sent side p.feed.pending)

/-- The basin of a side with everything that is still to come. -/
def settled (p : Pumping Window) (side : Side) : Basin :=
  (p.basin side).filled (sent side p.feed.pending)

/-- A stream whose turn it is not blocks. -/
theorem forward_blocked (h : ∀ bytes rest, p.feed.pending ≠ (side, bytes) :: rest) :
    forward Window.feed side p = (.ok false, p) := by
  have blocked : Window.feed.read side p.feed = (.wouldBlock, p.feed) := by
    simp only [Window.feed, Window.read]
    split
    · rfl
    · rename_i s bytes rest hp
      have hs : s ≠ side := by
        rintro rfl
        exact h bytes rest hp
      rw [if_neg hs]
  rw [forward_eq, blocked]
  cases side <;> rfl

/-- What reading makes of a pumping: nothing is lost, and as much is still to come. -/
structure Serves (p q : Pumping Window) : Prop where
  ready : q.Ready
  settled : q.settled = p.settled

/-- The stream whose turn it is brings data, and less is left. -/
theorem Ready.forward_served (h : p.Ready) {bytes : Bytes} {rest : List (Side × Bytes)}
    (hp : p.feed.pending = (side, bytes) :: rest) :
    ∃ q, forward Window.feed side p = (.ok true, q) ∧ Serves p q ∧
      q.feed.left < p.feed.left := by
  have some : bytes ≠ [] := h.nonempty (side, bytes) (by rw [hp]; exact List.mem_cons_self ..)
  have served : Window.feed.read side p.feed =
      (.data (bytes.take readSize),
        { p.feed with pending := Window.behind side bytes rest }) := by
    simp [Window.feed, Window.read, hp]
  have fits : ∀ s, ((p.basin s).Takes _ ∧ _) := fun s =>
    Basin.takes_append.1 (sent_behind ▸ hp ▸ h.fits s)
  have piece : bytes.take readSize ≠ [] := by
    rw [Ne, List.take_eq_nil_iff, not_or]
    exact ⟨by decide, some⟩
  have into := ReadResult.into_of_takes piece (by simpa using (fits side).1)
  obtain ⟨q, hq⟩ : ∃ q, q = withBasin side ((p.basin side).filled (bytes.take readSize))
      { p with feed := { p.feed with pending := Window.behind side bytes rest } } := ⟨_, rfl⟩
  have feed : q.feed = { p.feed with pending := Window.behind side bytes rest } := by
    rw [hq, withBasin_feed]
  have basins : ∀ s, q.basin s =
      (p.basin s).filled (if side = s then bytes.take readSize else []) := by
    intro s
    by_cases hs : side = s
    · rw [if_pos hs, hq, ← hs, basin_withBasin]
    · rw [if_neg hs, hq, basin_withBasin_of_ne (Ne.symm hs), Basin.filled_nil]
      cases s <;> rfl
  refine ⟨q, ?_, ⟨⟨?_, fun s => ?_⟩, funext fun s => ?_⟩, ?_⟩
  · rw [forward_eq, served, into, hq]
    rfl
  · rw [feed]
    refine nonempty_behind fun segment hs => h.nonempty segment ?_
    rw [hp]
    exact List.mem_cons_of_mem _ hs
  · rw [basins, feed]
    exact (fits s).2
  · rw [settled, settled, basins, feed, hp, sent_behind, Basin.filled_filled]
  · rw [feed, Window.left, Window.left, hp]
    exact Nat.add_lt_add_right (size_behind some) _

theorem Serves.trans {p q r : Pumping Window} (h : Serves p q) (h' : Serves q r) : Serves p r :=
  ⟨h'.ready, h'.settled.trans h.settled⟩

/-- A question changes nothing that is still to come. -/
theorem Serves.asked (h : Serves p q) {w : Window} (hw : w.pending = q.feed.pending) :
    Serves p { q with feed := w } := by
  refine ⟨⟨hw ▸ h.ready.nonempty, fun side => ?_⟩, ?_⟩
  · have fits := h.ready.fits side
    cases side <;> exact hw ▸ fits
  · rw [← h.settled]
    funext side
    simp only [Pumping.settled, hw]
    cases side <;> rfl

/-- A read, whose turn it ever is. -/
theorem Ready.forward (h : p.Ready) (side : Side) :
    ∃ m q, Pumping.forward Window.feed side p = (.ok m, q) ∧ Serves p q ∧
      q.feed.left ≤ p.feed.left ∧
      ((∃ bytes rest, p.feed.pending = (side, bytes) :: rest) → q.feed.left < p.feed.left) ∧
      ((∀ bytes rest, p.feed.pending ≠ (side, bytes) :: rest) → q = p) := by
  by_cases turn : ∃ bytes rest, p.feed.pending = (side, bytes) :: rest
  · obtain ⟨bytes, rest, hp⟩ := turn
    obtain ⟨q, hq, serves, less⟩ := h.forward_served hp
    exact ⟨true, q, hq, serves, Nat.le_of_lt less, fun _ => less,
      fun no => absurd hp (no bytes rest)⟩
  · have blocked : ∀ bytes rest, p.feed.pending ≠ (side, bytes) :: rest := by simpa using turn
    exact ⟨false, p, forward_blocked blocked, ⟨h, rfl⟩, Nat.le_refl _,
      fun yes => absurd yes turn, fun _ => rfl⟩

/-- **A round makes progress.** A read of each stream brings data as long as there is any,
    whichever stream it belongs to. -/
theorem Ready.round (h : p.Ready) :
    ∃ m p₁ m' q, Pumping.forward Window.feed .out p = (.ok m, p₁) ∧
      Pumping.forward Window.feed .err p₁ = (.ok m', q) ∧ Serves p q ∧
      (p.feed.pending ≠ [] → q.feed.left < p.feed.left) ∧
      (p.feed.pending = [] → q = p) := by
  obtain ⟨m, p₁, hout, serves, outLe, outLt, outEq⟩ := h.forward .out
  obtain ⟨m', q, herr, serves', errLe, errLt, errEq⟩ := serves.ready.forward .err
  refine ⟨m, p₁, m', q, hout, herr, serves.trans serves', fun more => ?_, fun done => ?_⟩
  · obtain ⟨⟨side, bytes⟩, rest, hp⟩ := List.exists_cons_of_ne_nil more
    cases side with
    | out => exact Nat.lt_of_le_of_lt errLe (outLt ⟨bytes, rest, hp⟩)
    | err =>
      have waits : p₁ = p := outEq (by simp [hp])
      rw [waits] at errLt
      exact errLt ⟨bytes, rest, hp⟩
  · have waits : p₁ = p := outEq (by simp [done])
    rw [waits] at errEq
    exact errEq (by simp [done])

/-- What a run comes to. -/
def served (p : Pumping Window) : Pumping Window :=
  ⟨⟨[], 0⟩, p.settled .out, p.settled .err⟩

theorem served_of_settled (h : q.settled = p.settled) : q.served = p.served := by
  rw [served, served, h]

/-- At the end nothing is drained. -/
theorem drainBoth_done (h : p.feed = ⟨[], 0⟩) {fuel : Nat} (some : 0 < fuel) :
    drainBoth Window.feed fuel p = .some (.ok (), p.served) := by
  have dry : ∀ side, drain Window.feed side fuel p = .some (.ok (), p) := by
    intro side
    cases fuel with
    | zero => exact absurd some (Nat.lt_irrefl 0)
    | succ fuel => rw [drain, forward_blocked (by simp [h])]
  have still : p.served = p := by
    have none : ∀ side, p.settled side = p.basin side := by
      intro side
      rw [settled, h]
      exact Basin.filled_nil
    rw [served, none, none, ← h]
    rfl
  rw [drainBoth, dry, still]
  exact dry .err

/-- **Every run comes to its end**, with a round for each byte and each denial at most. -/
theorem Ready.rounds (h : p.Ready) {fuel n : Nat} (some : 0 < fuel) (hn : p.feed.left < n) :
    Pumping.rounds Window.feed fuel n p = .some (.ok (), p.served) := by
  induction n generalizing p with
  | zero => exact absurd hn (Nat.not_lt_zero _)
  | succ n ih =>
    obtain ⟨m, p₁, m', q, hout, herr, serves, progress, still⟩ := h.round
    have lasts : q.feed.left ≤ p.feed.left := by
      by_cases done : p.feed.pending = []
      · exact Nat.le_of_eq (congrArg (Window.left ∘ Pumping.feed) (still done))
      · exact Nat.le_of_lt (progress done)
    have goesOn {w : Window} (hw : w.pending = q.feed.pending) (less : w.left < n) :
        Pumping.rounds Window.feed fuel n { q with feed := w } = .some (.ok (), p.served) := by
      have asked := serves.asked hw
      rw [ih asked.ready less, served_of_settled asked.settled]
    rw [Pumping.rounds]
    simp only [hout, herr]
    rcases q with ⟨⟨_ | ⟨segment, segments⟩, late⟩, out, err⟩
    · cases late with
      | zero =>
        rw [← served_of_settled serves.settled]
        exact drainBoth_done rfl some
      | succ late =>
        refine goesOn (w := ⟨[], late⟩) rfl ?_
        simp only [Window.left] at lasts hn ⊢
        omega
    · have more : p.feed.pending ≠ [] := by
        intro done
        rw [← still done] at done
        exact List.cons_ne_nil _ _ done
      exact goesOn rfl (Nat.lt_of_lt_of_le (progress more) (Nat.le_of_lt_succ hn))

end Pumping

/-- **A shared window wedges no pump.** Whatever segments a server sends, in whatever order
    of the two streams and however long they are, and however late it says that it has
    finished: a pump with room in its basins comes to an end, and each basin has got what
    was sent on its side. -/
theorem pump_unwedged {segments : List (Side × Bytes)} {late : Nat} {out err : Basin}
    (nonempty : ∀ segment ∈ segments, segment.2 ≠ [])
    (hout : out.Takes (sent .out segments)) (herr : err.Takes (sent .err segments))
    {fuel : Nat} (enough : Window.left ⟨segments, late⟩ < fuel) :
    pump Window.feed fuel ⟨⟨segments, late⟩, out, err⟩ =
      some (.ok (), ⟨⟨[], 0⟩, out.filled (sent .out segments),
        err.filled (sent .err segments)⟩) := by
  have ready : Pumping.Ready ⟨⟨segments, late⟩, out, err⟩ := by
    refine ⟨nonempty, fun side => ?_⟩
    cases side
    · exact hout
    · exact herr
  exact ready.rounds (Nat.zero_lt_of_lt enough) enough

/-- More than one read can take. -/
def flood : Bytes := List.replicate 9000 7

/-- Segments of both streams in turn. -/
def crossing : List (Side × Bytes) :=
  [(.err, [1]), (.out, flood), (.err, [2, 3]), (.out, [4])]

theorem crossing_unwedged :
    pump Window.feed 9007 ⟨⟨crossing, 2⟩, {}, { room := some 3 }⟩ =
      some (.ok (), ⟨⟨[], 0⟩, Basin.filled {} (sent .out crossing),
        Basin.filled { room := some 3 } (sent .err crossing)⟩) ∧
    sent .out crossing = flood ++ [4] ∧ sent .err crossing = [1, 2, 3] := by
  have size : flood.length = 9000 := List.length_replicate
  have some : flood ≠ [] := List.ne_nil_of_length_eq_add_one size
  have herr : sent .err crossing = [1, 2, 3] := by
    simp [sent, crossing]
  refine ⟨pump_unwedged ?_ ?_ ?_ ?_, ?_, herr⟩
  · simp [crossing, some]
  · intro n limited
    cases limited
  · rw [herr]
    intro n limited
    cases limited
    decide
  · simp [Window.left, crossing, size]
  · simp [sent, crossing]

end Runbook
