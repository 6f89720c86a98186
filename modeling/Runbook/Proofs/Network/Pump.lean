/-
  Pumping a channel loses nothing.

  A pump sees a feed only through its answers. They are written down on the way: a recorded
  feed answers as the feed does and keeps a log of what it was asked, in the order of the
  questions.

  * `dataOn side log` is the data that was read on a side;
  * `Flawless`: no read failed so far and no data was refused;
  * `Exhausted`: the last read on a side brought nothing, and came after the channel had
    said that it had finished;
  * `Spoils`: how a read ends a run, what is reported then, and what its basin is left with.

  `pump_conserves`: when a pump comes to an end, each basin holds the data of its own side,
  whole and in order, and both sides are exhausted; a pump that fails does so on the first
  read that failed or whose data was refused, reads nothing more, and has lost nothing of
  the other side.
-/
import Runbook.Rehearsal.Streams

namespace Runbook

/-! ## Basins -/

namespace Basin

/-- A basin with bytes added to it, and as much less room. -/
def filled (b : Basin) (bytes : Bytes) : Basin :=
  { b with bytes := b.bytes ++ bytes, room := b.room.map (· - bytes.length) }

/-- There is room for these bytes. -/
def Takes (b : Basin) (bytes : Bytes) : Prop :=
  ∀ n, b.room = some n → bytes.length ≤ n

variable {b : Basin} {xs ys : Bytes}

theorem filled_nil : b.filled [] = b := by
  cases b with
  | mk bytes room refusal => cases room <;> simp [filled]

theorem filled_filled : (b.filled xs).filled ys = b.filled (xs ++ ys) := by
  cases b with
  | mk bytes room refusal => cases room <;> simp [filled, Nat.sub_add_eq]

theorem takes_nil : b.Takes [] := fun _ _ => Nat.zero_le _

theorem takes_append : b.Takes (xs ++ ys) ↔ b.Takes xs ∧ (b.filled xs).Takes ys := by
  unfold Takes filled
  rcases hr : b.room with _ | n
  · simp
  · simp only [Option.some.injEq, forall_eq', List.length_append, Option.map_some]
    omega

theorem put_of_takes (h : b.Takes xs) : b.put xs = (true, b.filled xs) := by
  unfold put filled
  rcases hr : b.room with _ | n
  · rfl
  · have fits : xs.length ≤ n := h n hr
    simp [fits, List.take_of_length_le fits]

theorem put_of_refused {n : Nat} (hr : b.room = some n) (h : n < xs.length) :
    b.put xs = (false, { b with bytes := b.bytes ++ xs.take n, room := some 0 }) := by
  have full : n - xs.length = 0 := Nat.sub_eq_zero_of_le (Nat.le_of_lt h)
  simp [put, hr, full, h]

end Basin

/-! ## One read -/

/-- A read that brings nothing. -/
inductive ReadResult.Idle : ReadResult → Prop
  | empty : Idle (.data [])
  | wouldBlock : Idle .wouldBlock

/-- What a read comes to when its bytes go into a basin. -/
inductive Lands (b : Basin) : ReadResult → Except Failure Bool → Basin → Prop
  | idle {r : ReadResult} : r.Idle → Lands b r (.ok false) b
  | taken {bytes : Bytes} : bytes ≠ [] → b.Takes bytes →
      Lands b (.data bytes) (.ok true) (b.filled bytes)
  | refused {bytes : Bytes} {n : Nat} : b.room = some n → n < bytes.length →
      Lands b (.data bytes) (.error b.refusal)
        { b with bytes := b.bytes ++ bytes.take n, room := some 0 }
  | failed (g : Failure) : Lands b (.failed g) (.error g) b

theorem ReadResult.into_of_takes {b : Basin} {bytes : Bytes} (h : bytes ≠ [])
    (ht : b.Takes bytes) : (data bytes).into b = (.ok true, b.filled bytes) := by
  cases bytes with
  | nil => exact absurd rfl h
  | cons x xs => simp only [into, Basin.put_of_takes ht]

theorem ReadResult.into_lands (r : ReadResult) (b : Basin) :
    Lands b r (r.into b).1 (r.into b).2 := by
  match r with
  | .wouldBlock => exact .idle .wouldBlock
  | .failed g => exact .failed g
  | .data [] => exact .idle .empty
  | .data (x :: xs) =>
    by_cases ht : b.Takes (x :: xs)
    · rw [into_of_takes (List.cons_ne_nil x xs) ht]
      exact .taken (List.cons_ne_nil x xs) ht
    · obtain ⟨n, hr, hn⟩ : ∃ n, b.room = some n ∧ n < (x :: xs).length := by
        simpa [Basin.Takes] using ht
      simp only [into, Basin.put_of_refused hr hn]
      exact .refused hr hn

/-- The other stream. -/
def Side.other : Side → Side
  | out => err
  | err => out

namespace Pumping

variable {σ : Type} {p : Pumping σ} {side s : Side} {b : Basin}

@[simp] theorem withBasin_feed : (p.withBasin side b).feed = p.feed := by
  cases side <;> rfl

@[simp] theorem basin_withBasin : (p.withBasin side b).basin side = b := by
  cases side <;> rfl

theorem basin_withBasin_of_ne (h : s ≠ side) : (p.withBasin side b).basin s = p.basin s := by
  cases side <;> cases s <;> first | rfl | exact absurd rfl h

/-- Putting bytes into the basin of a side is the only thing that forwarding a read changes
    besides the feed. -/
theorem forward_eq (f : Feed σ) (side : Side) (p : Pumping σ) :
    forward f side p =
      ((((f.read side p.feed).1.into (p.basin side)).1).mapError (.within side.context),
        { p with feed := (f.read side p.feed).2 }.withBasin side
          ((f.read side p.feed).1.into (p.basin side)).2) := rfl

end Pumping

/-! ## Recorded feeds -/

/-- What a feed was asked, with its answer. -/
inductive Enquiry where
  | read (side : Side) (r : ReadResult)
  | finished (answer : Bool)

/-- The data that an enquiry brought on a side. -/
def Enquiry.dataOn (side : Side) : Enquiry → Bytes
  | read s (.data bytes) => if s = side then bytes else []
  | _ => []

/-- The data that was read on a side. -/
def dataOn (side : Side) (log : List Enquiry) : Bytes :=
  log.flatMap (Enquiry.dataOn side)

/-- A feed that keeps a log of what it is asked. -/
def Feed.recorded {σ : Type} (f : Feed σ) : Feed (σ × List Enquiry) where
  read side := fun (s, log) =>
    let (r, s) := f.read side s
    (r, (s, log ++ [.read side r]))
  finished := fun (s, log) =>
    let (answer, s) := f.finished s
    (answer, (s, log ++ [.finished answer]))

namespace Pumping

variable {σ : Type} {f : Feed σ}

/-- A pumping whose feed has this log. -/
def recording (p : Pumping σ) (log : List Enquiry) : Pumping (σ × List Enquiry) :=
  ⟨(p.feed, log), p.out, p.err⟩

/-- The log so far. -/
def log (p : Pumping (σ × List Enquiry)) : List Enquiry := p.feed.2

/-- The pumping without its log. -/
def forgetting (p : Pumping (σ × List Enquiry)) : Pumping σ := ⟨p.feed.1, p.out, p.err⟩

/-! Keeping a log changes nothing. -/

theorem forward_forgetting (side : Side) (p : Pumping (σ × List Enquiry)) :
    forward f side p.forgetting =
      ((forward f.recorded side p).1, (forward f.recorded side p).2.forgetting) := by
  cases side <;> rfl

/-- An outcome without the log. -/
def forgotten (o : Except Failure Unit × Pumping (σ × List Enquiry)) :
    Except Failure Unit × Pumping σ :=
  (o.1, o.2.forgetting)

theorem drain_forgetting (side : Side) (fuel : Nat) (p : Pumping (σ × List Enquiry)) :
    drain f side fuel p.forgetting = (drain f.recorded side fuel p).map forgotten := by
  induction fuel generalizing p with
  | zero => rfl
  | succ fuel ih =>
    rw [drain, drain, forward_forgetting]
    rcases forward f.recorded side p with ⟨e | ⟨_ | _⟩, q⟩
    · rfl
    · rfl
    · exact ih q

theorem drainBoth_forgetting (fuel : Nat) (p : Pumping (σ × List Enquiry)) :
    drainBoth f fuel p.forgetting = (drainBoth f.recorded fuel p).map forgotten := by
  rw [drainBoth, drainBoth, drain_forgetting]
  rcases drain f.recorded .out fuel p with _ | ⟨e | ⟨⟩, q⟩
  · rfl
  · rfl
  · exact drain_forgetting .err fuel q

theorem rounds_forgetting (fuel n : Nat) (p : Pumping (σ × List Enquiry)) :
    rounds f fuel n p.forgetting = (rounds f.recorded fuel n p).map forgotten := by
  induction n generalizing p with
  | zero => rfl
  | succ n ih =>
    rw [rounds, rounds, forward_forgetting]
    rcases forward f.recorded .out p with ⟨e | _, q⟩
    · rfl
    · simp only
      rw [forward_forgetting]
      rcases forward f.recorded .err q with ⟨e | _, q⟩
      · rfl
      · simp only [forgetting, Feed.recorded]
        rcases f.finished q.feed.1 with ⟨_ | _, feed⟩
        · exact ih ⟨(feed, q.log ++ [.finished false]), q.out, q.err⟩
        · exact drainBoth_forgetting fuel ⟨(feed, q.log ++ [.finished true]), q.out, q.err⟩

end Pumping

/-! ## What a run keeps -/

section
variable {side s : Side} {log : List Enquiry} {e : Enquiry}

theorem dataOn_concat : dataOn side (log ++ [e]) = dataOn side log ++ e.dataOn side := by
  simp [dataOn]

@[simp] theorem dataOn_finished {answer : Bool} :
    dataOn side (log ++ [.finished answer]) = dataOn side log := by
  simp [dataOn_concat, Enquiry.dataOn]

theorem dataOn_idle {r : ReadResult} (h : r.Idle) :
    dataOn side (log ++ [.read s r]) = dataOn side log := by
  cases h <;> simp [dataOn_concat, Enquiry.dataOn]

theorem dataOn_data {bytes : Bytes} :
    dataOn side (log ++ [.read side (.data bytes)]) = dataOn side log ++ bytes := by
  rw [dataOn_concat, Enquiry.dataOn, if_pos rfl]

theorem dataOn_of_ne {r : ReadResult} (h : side ≠ s) :
    dataOn side (log ++ [.read s r]) = dataOn side log := by
  rw [dataOn_concat]
  cases r <;> simp [Enquiry.dataOn, h.symm]

end

/-- Nothing went wrong so far: no read failed, and each basin had room for its data. -/
structure Flawless (start : Side → Basin) (log : List Enquiry) : Prop where
  sound : ∀ side g, .read side (.failed g) ∉ log
  fits : ∀ side, (start side).Takes (dataOn side log)

/-- Nothing went wrong, and each basin holds the data of its side. -/
structure Held (start now : Side → Basin) (log : List Enquiry) : Prop where
  flawless : Flawless start log
  filled : ∀ side, now side = (start side).filled (dataOn side log)

/-- How a read spoils a run, after some data of its side that went into the basin: what is
    reported, and what the basin is left with. -/
inductive Spoils (b : Basin) (side : Side) (data : Bytes) : ReadResult → Failure → Bytes → Prop
  /-- The read fails; the data before it is all there. -/
  | read (g : Failure) : Spoils b side data (.failed g) (g.within side.context) (b.bytes ++ data)
  /-- The basin, which had room for the data before, is full. -/
  | sink {bytes : Bytes} {n : Nat} : b.room = some n → data.length ≤ n →
      n < (data ++ bytes).length →
      Spoils b side data (.data bytes) (b.refusal.within side.context)
        (b.bytes ++ (data ++ bytes).take n)

/-- A run that the last read of its log spoiled, the first to do so. -/
inductive Broke (start final : Side → Basin) : List Enquiry → Failure → Prop
  | intro {before : List Enquiry} {side : Side} {r : ReadResult} {e : Failure} :
      Flawless start before →
      Spoils (start side) side (dataOn side before) r e (final side).bytes →
      (final side.other).bytes =
        (start side.other).bytes ++ dataOn side.other (before ++ [.read side r]) →
      Broke start final (before ++ [.read side r]) e

namespace Flawless

variable {start : Side → Basin} {log : List Enquiry} {side : Side}

theorem nil (start : Side → Basin) : Flawless start [] :=
  ⟨fun _ _ => List.not_mem_nil, fun _ => Basin.takes_nil⟩

theorem finished (h : Flawless start log) (answer : Bool) :
    Flawless start (log ++ [.finished answer]) := by
  refine ⟨fun side g hm => ?_, fun side => ?_⟩
  · exact h.sound side g (by simpa using hm)
  · rw [dataOn_finished]
    exact h.fits side

theorem idle {r : ReadResult} (h : Flawless start log) (hr : r.Idle) :
    Flawless start (log ++ [.read side r]) := by
  refine ⟨fun s g hm => ?_, fun s => ?_⟩
  · rcases List.mem_append.1 hm with hm | hm
    · exact h.sound s g hm
    · cases hr <;> simp at hm
  · rw [dataOn_idle hr]
    exact h.fits s

theorem data {bytes : Bytes} (h : Flawless start log)
    (ht : (start side).Takes (dataOn side log ++ bytes)) :
    Flawless start (log ++ [.read side (.data bytes)]) := by
  refine ⟨fun s g hm => ?_, fun s => ?_⟩
  · exact h.sound s g (by simpa using hm)
  · by_cases hs : s = side
    · rw [hs, dataOn_data]
      exact ht
    · rw [dataOn_of_ne hs]
      exact h.fits s

end Flawless

theorem Side.other_ne (side : Side) : side.other ≠ side := by
  cases side <;> decide

section
variable {σ : Type} {f : Feed σ} {start : Side → Basin} {side : Side}
  {p q : Pumping (σ × List Enquiry)}

/-- A read of a recorded feed is the next entry of its log, and reaches no other basin than
    that of its side. -/
theorem Pumping.forward_lands (f : Feed σ) (side : Side) (p : Pumping (σ × List Enquiry)) :
    ∃ r m q, forward f.recorded side p = (m.mapError (.within side.context), q) ∧
      q.log = p.log ++ [.read side r] ∧ Lands (p.basin side) r m (q.basin side) ∧
      ∀ s, s ≠ side → q.basin s = p.basin s := by
  refine ⟨(f.read side p.feed.1).1, _, _, forward_eq f.recorded side p, ?_, ?_, fun s hs => ?_⟩
  · rw [log, withBasin_feed]
    rfl
  · rw [basin_withBasin]
    exact ReadResult.into_lands _ _
  · rw [basin_withBasin_of_ne hs]
    cases s <;> rfl

/-- How a run goes on after one read. -/
inductive Forwarded (start : Side → Basin) (side : Side) (p q : Pumping (σ × List Enquiry)) :
    Except Failure Bool → Prop
  | on {moved : Bool} {r : ReadResult} : q.log = p.log ++ [.read side r] →
      (moved = false → r.Idle) → Held start q.basin q.log → Forwarded start side p q (.ok moved)
  | broke {e : Failure} : Broke start q.basin q.log e → Forwarded start side p q (.error e)

/-- **One step.** What is held stays held, with the data of the read in its own basin, or
    the run is spoiled. -/
theorem Held.forward (h : Held start p.basin p.log) (f : Feed σ) (side : Side) :
    Forwarded start side p (Pumping.forward f.recorded side p).2
      (Pumping.forward f.recorded side p).1 := by
  obtain ⟨r, m, q, hq, hlog, lands, others⟩ := Pumping.forward_lands f side p
  rw [hq]
  have here : p.basin side = (start side).filled (dataOn side p.log) := h.filled side
  have there : (q.basin side.other).bytes =
      (start side.other).bytes ++ dataOn side.other (p.log ++ [.read side r]) := by
    rw [others _ side.other_ne, h.filled, dataOn_of_ne side.other_ne]
    rfl
  have held : q.basin side = (start side).filled (dataOn side q.log) →
      Flawless start q.log → Held start q.basin q.log := by
    intro same flawless
    refine ⟨flawless, fun s => ?_⟩
    by_cases hs : s = side
    · rw [hs, same]
    · rw [others s hs, h.filled, hlog, dataOn_of_ne hs]
  have broke {e} (spoils : Spoils (start side) side (dataOn side p.log) r e
      (q.basin side).bytes) : Broke start q.basin q.log e := by
    rw [hlog]
    exact .intro h.flawless spoils there
  generalize hb : q.basin side = b at lands held broke
  cases lands with
  | idle hr =>
    refine .on hlog (fun _ => hr) (held ?_ ?_)
    · rw [here, hlog, dataOn_idle hr]
    · exact hlog ▸ h.flawless.idle hr
  | @taken bytes some_ takes =>
    refine .on hlog (fun hm => Bool.noConfusion hm) (held ?_ ?_)
    · rw [here, hlog, dataOn_data, Basin.filled_filled]
    · have fits := Basin.takes_append.2 ⟨h.flawless.fits side, here ▸ takes⟩
      exact hlog ▸ h.flawless.data fits
  | @refused bytes n room full =>
    obtain ⟨k, hk, rest⟩ : ∃ k, (start side).room = some k ∧
        k - (dataOn side p.log).length = n := by
      simpa [here, Basin.filled] using room
    have fits : (dataOn side p.log).length ≤ k := h.flawless.fits side k hk
    have beyond : k < (dataOn side p.log ++ bytes).length := by
      rw [List.length_append]
      omega
    have spoils : Spoils (start side) side (dataOn side p.log) (.data bytes) _ _ :=
      .sink hk fits beyond
    rw [List.take_append, List.take_of_length_le fits, rest, ← List.append_assoc] at spoils
    refine .broke (broke ?_)
    rw [here]
    exact spoils
  | failed g =>
    refine .broke (broke ?_)
    rw [here]
    exact .read g

/-! ## Whole runs -/

/-- How the draining of a side ends: with a read that brings nothing, or spoiled. -/
inductive Drained (start : Side → Basin) (side : Side) (p q : Pumping (σ × List Enquiry)) :
    Except Failure Unit → Prop
  | dry (reads : List ReadResult) {r : ReadResult} :
      q.log = p.log ++ reads.map (.read side) ++ [.read side r] → r.Idle →
      Held start q.basin q.log → Drained start side p q (.ok ())
  | broke {e : Failure} : Broke start q.basin q.log e → Drained start side p q (.error e)

theorem Held.drain (h : Held start p.basin p.log) {fuel : Nat} {o : Except Failure Unit}
    (hd : Pumping.drain f.recorded side fuel p = some (o, q)) : Drained start side p q o := by
  induction fuel generalizing p with
  | zero => cases hd
  | succ fuel ih =>
    have step := h.forward f side
    rw [Pumping.drain] at hd
    rcases hf : Pumping.forward f.recorded side p with ⟨m, p'⟩
    rw [hf] at hd step
    cases step with
    | broke broken =>
      cases hd
      exact .broke broken
    | @on moved r hlog idle held =>
      cases moved with
      | false =>
        cases hd
        exact .dry [] (by simpa using hlog) (idle rfl) held
      | true =>
        cases ih held hd with
        | broke broken => exact .broke broken
        | @dry reads last hlast lastIdle done =>
          refine .dry (r :: reads) ?_ lastIdle done
          rw [hlast, hlog]
          simp

/-- The last read on a side brought nothing, and was asked for after the channel had said
    that it had finished. -/
def Exhausted (side : Side) (log : List Enquiry) : Prop :=
  ∃ before r after, log = before ++ .read side r :: after ∧ r.Idle ∧
    .finished true ∈ before ∧ ∀ r', .read side r' ∉ after

/-- How a run ends. Without a failure each basin has got the data of its side and both sides
    are exhausted. -/
def Conserved (start final : Side → Basin) (log : List Enquiry) : Except Failure Unit → Prop
  | .ok () => ∀ side, (final side).bytes = (start side).bytes ++ dataOn side log ∧
      Exhausted side log
  | .error e => Broke start final log e

theorem Held.drainBoth (h : Held start p.basin p.log) (asked : .finished true ∈ p.log)
    {fuel : Nat} {o : Except Failure Unit}
    (hd : Pumping.drainBoth f.recorded fuel p = some (o, q)) :
    Conserved start q.basin q.log o := by
  rw [Pumping.drainBoth] at hd
  rcases hout : Pumping.drain f.recorded .out fuel p with _ | ⟨o', p'⟩
  · rw [hout] at hd
    cases hd
  rw [hout] at hd
  cases h.drain hout with
  | broke broken =>
    cases hd
    exact broken
  | @dry outs r hlog idle held =>
    cases held.drain hd with
    | broke broken => exact broken
    | @dry errs r' hlog' idle' done =>
      have ends : q.log = p.log ++ outs.map (.read .out) ++ .read .out r ::
          (errs.map (.read .err) ++ [.read .err r']) := by
        rw [hlog', hlog]
        simp
      have onceDone : .finished true ∈ p'.log := by
        rw [hlog]
        simp [asked]
      intro side
      refine ⟨by rw [done.filled]; rfl, ?_⟩
      cases side with
      | out => exact ⟨_, r, _, ends, idle, by simp [asked], by simp⟩
      | err => exact ⟨_, r', [], hlog', idle', by simp [onceDone], by simp⟩

theorem Held.finished {now : Side → Basin} {log : List Enquiry} (h : Held start now log)
    (answer : Bool) : Held start now (log ++ [.finished answer]) := by
  refine ⟨h.flawless.finished answer, fun side => ?_⟩
  rw [dataOn_finished]
  exact h.filled side

/-- **Every run.** What is held at the start of a round is conserved to the end of the run. -/
theorem Held.rounds (h : Held start p.basin p.log) {fuel n : Nat} {o : Except Failure Unit}
    (hr : Pumping.rounds f.recorded fuel n p = some (o, q)) :
    Conserved start q.basin q.log o := by
  induction n generalizing p with
  | zero => cases hr
  | succ n ih =>
    rw [Pumping.rounds] at hr
    have step := h.forward f .out
    rcases hout : Pumping.forward f.recorded .out p with ⟨m, p₁⟩
    rw [hout] at hr step
    cases step with
    | broke broken =>
      cases hr
      exact broken
    | on _ _ held =>
      have step := held.forward f .err
      rcases herr : Pumping.forward f.recorded .err p₁ with ⟨m, p₂⟩
      simp only [herr] at hr
      rw [herr] at step
      cases step with
      | broke broken =>
        cases hr
        exact broken
      | on _ _ held =>
        rw [Feed.recorded] at hr
        rcases hf : f.finished p₂.feed.1 with ⟨answer, feed⟩
        simp only [hf] at hr
        have asked : Held start (Pumping.basin ⟨(feed, p₂.log ++ [.finished answer]), p₂.out,
            p₂.err⟩) (p₂.log ++ [.finished answer]) := held.finished answer
        cases answer with
        | false => exact ih asked hr
        | true => exact asked.drainBoth (by simp [Pumping.log]) hr

end

/-- **Pumping conserves both streams.** Whatever the feed answers and wherever the basins
    are full, when the pump returns it has asked its feed for the enquiries of some log. If
    it succeeds, each basin has got exactly the data that was read on its side, in order,
    and the last read of each side brought nothing and came after the channel had finished.
    If it fails, the last enquiry is the first read that failed or whose data was refused;
    the basin of that side has got a prefix of its data, and the other one all of its own. -/
theorem pump_conserves {σ : Type} {f : Feed σ} {fuel : Nat} {p p' : Pumping σ}
    {o : Except Failure Unit} (h : pump f fuel p = some (o, p')) :
    ∃ log, pump f.recorded fuel (p.recording []) = some (o, p'.recording log) ∧
      Conserved p.basin p'.basin log o := by
  have same : (pump f.recorded fuel (p.recording [])).map Pumping.forgotten = some (o, p') := by
    rw [← h]
    exact (Pumping.rounds_forgetting fuel fuel (p.recording [])).symm
  obtain ⟨⟨o', q⟩, hq, hs⟩ := Option.map_eq_some_iff.1 same
  cases hs
  have start : Held p.basin (p.recording []).basin (p.recording []).log := by
    refine ⟨.nil p.basin, fun side => ?_⟩
    cases side <;> exact Basin.filled_nil.symm
  exact ⟨q.log, hq, start.rounds hq⟩

open Rehearsal in
/-- Streams that block now and then; they have finished while data of both is left. -/
def chatter : Streams where
  out := [.data [1, 2], .block, .data [3], .data [4]]
  err := [.block, .data [7], .data [8, 9]]
  finishAfter := some 2

open Rehearsal in
theorem chatter_conserved :
    ∃ p' : Pumping Streams,
      pump Streams.feed chatter.fuel ⟨chatter, {}, { room := some 4 }⟩ = some (.ok (), p') ∧
      p'.out.bytes = [1, 2, 3, 4] ∧ p'.err.bytes = [7, 8, 9] ∧
      ∃ log, pump Streams.feed.recorded chatter.fuel
          (Pumping.recording ⟨chatter, {}, { room := some 4 }⟩ []) =
            some (.ok (), p'.recording log) ∧
        Conserved (Pumping.basin ⟨chatter, {}, { room := some 4 }⟩) p'.basin log (.ok ()) :=
  ⟨_, rfl, rfl, rfl, pump_conserves rfl⟩

end Runbook
