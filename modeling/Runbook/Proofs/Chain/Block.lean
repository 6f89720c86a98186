/-
  How far the execution of a part of a chain gets.

  A fault cuts an execution off. The scopes before it, in the order of the document, were
  entered: their sessions are closed, and the scopes around the fault have failed. The
  scopes behind it were never touched.

  * `ClosedLast w calls`: the session of `w` was closed once, and last;
  * `FailsAt postings q e calls`: `e` is the first fault, and it arises in the scope at `q`;
  * `Block above around postings ss ss' o calls`: all of this for a part of a chain, whose
    scopes are `ss` before and `ss'` after. Blocks are put together by `Block.append`,
    `Block.cut` and `Block.enclose`.
-/
import Runbook.Proofs.Chain.Watch

namespace Runbook

variable {σ S : Type}

/-! ## Commands and their sessions -/

/-- A command of a chain: the scope it is an item of, whose session it runs on, and its line. -/
structure Posting where
  scope : Spot
  owner : Owner
  line : String
  deriving DecidableEq, Repr

/-- The command as it is run. -/
def Posting.run (c : Posting) : Owner × String := (c.owner, c.line)

/-- Whose session the items of the scope at `p` run on. -/
def Scope.host (k : SessionKind σ S) (p : Spot) (around : Option Owner) (s : Scope S) : Owner :=
  match around with
  | some w => if k.isPassThrough s.session then w else .scope p
  | none => .scope p

mutual

/-- The commands of an item that stands at `p` and runs on a session of `w`. -/
def Item.postings (k : SessionKind σ S) (p : Spot) (w : Owner) : Item S → List Posting
  | .command line => [⟨p.tail, w, line⟩]
  | .chain s items => postingsAll k p 0 (s.host k p (some w)) items

/-- The commands of the items of the scope at `p`, from the item `n` on. -/
def postingsAll (k : SessionKind σ S) (p : Spot) (n : Nat) (w : Owner) :
    List (Item S) → List Posting
  | [] => []
  | i :: is => i.postings k (n :: p) w ++ postingsAll k p (n + 1) w is

end

/-- The commands of a chain in their order, with the session of an enclosing scope if there
    is one. -/
def Chain.postings (k : SessionKind σ S) (c : Chain S) (parent : Option S) : List Posting :=
  postingsAll k [] 0 (c.scope.host k [] (parent.map fun _ => .outside)) c.items

/-- The way from the outermost scope down to a spot. -/
def downTo : Spot → List Spot
  | [] => [[]]
  | n :: p => downTo p ++ [n :: p]

/-! ## Calls -/

/-- The fault of a call, if it failed. What captured commands come to is nobody's fault. -/
def Call.fault? : Call → Option Fault
  | ⟨_, .capture _, _⟩ => none
  | ⟨_, _, o⟩ => o.fault?

/-- The command that was run, and whose session it ran on. -/
def Call.run? : Call → Option (Owner × String)
  | ⟨w, .run line, _⟩ => some (w, line)
  | _ => none

/-- The calls on the session of an owner. -/
def callsOn (w : Owner) (calls : List Call) : List Call := calls.filter (·.owner = w)

/-- The session was closed once, and nothing was asked of it afterwards. -/
def ClosedLast (w : Owner) (calls : List Call) : Prop :=
  ∃ before o, callsOn w calls = before ++ [⟨w, .close, o⟩] ∧ ∀ c ∈ before, c.act ≠ .close

/-- The call is how a fault arises in the scope at `q`: its session does not connect, the next
    command is one of its own and fails, or its session does not close. -/
inductive Arises (postings : List Posting) (q : Spot) (e : Fault) (before : List Call) :
    Call → Prop where
  | connect : Arises postings q e before ⟨.scope q, .connect, .error e⟩
  | command {done w line rest} (next : postings = done ++ ⟨q, w, line⟩ :: rest)
      (ran : before.filterMap Call.run? = done.map Posting.run) :
      Arises postings q e before ⟨w, .run line, .error e⟩
  | close : Arises postings q e before ⟨.scope q, .close, .error e⟩

/-- The first fault is `e`, and it arises in the scope at `q`. -/
def FailsAt (postings : List Posting) (q : Spot) (e : Fault) (calls : List Call) : Prop :=
  ∃ before c after, calls = before ++ c :: after ∧ before.filterMap Call.fault? = [] ∧
    Arises postings q e before c

section

variable {w : Owner} {es es' : List Call} {ps ps' : List Posting} {q : Spot} {e : Fault}

theorem callsOn_append : callsOn w (es ++ es') = callsOn w es ++ callsOn w es' :=
  List.filter_append ..

theorem callsOn_eq_nil : callsOn w es = [] ↔ ∀ c ∈ es, c.owner ≠ w := by
  simp [callsOn, List.filter_eq_nil_iff]

theorem ClosedLast.append (closed : ClosedLast w es) (idle : ∀ c ∈ es', c.owner ≠ w) :
    ClosedLast w (es ++ es') := by
  obtain ⟨before, o, calls, unclosed⟩ := closed
  refine ⟨before, o, ?_, unclosed⟩
  rw [callsOn_append, callsOn_eq_nil.2 idle, List.append_nil, calls]

theorem ClosedLast.after (closed : ClosedLast w es') (idle : ∀ c ∈ es, c.owner ≠ w) :
    ClosedLast w (es ++ es') := by
  obtain ⟨before, o, calls, unclosed⟩ := closed
  refine ⟨before, o, ?_, unclosed⟩
  rw [callsOn_append, callsOn_eq_nil.2 idle, List.nil_append, calls]

/-- A session that was not closed, and then is. -/
theorem ClosedLast.close (unclosed : ∀ c ∈ es, c.owner = w → c.act ≠ .close) (o : Outcome) :
    ClosedLast w (es ++ [⟨w, .close, o⟩]) := by
  refine ⟨callsOn w es, o, ?_, fun c hc => ?_⟩
  · simp [callsOn]
  · obtain ⟨hc, of⟩ := List.mem_filter.1 hc
    exact unclosed c hc (of_decide_eq_true of)

theorem FailsAt.append (fails : FailsAt ps q e es) (ps' : List Posting) (es' : List Call) :
    FailsAt (ps ++ ps') q e (es ++ es') := by
  obtain ⟨before, c, after, rfl, clean, arises⟩ := fails
  refine ⟨before, c, after ++ es', by simp, clean, ?_⟩
  cases arises with
  | connect => exact .connect
  | command next ran => exact .command (by rw [next, List.append_assoc]; rfl) ran
  | close => exact .close

theorem FailsAt.after (fails : FailsAt ps' q e es') (clean : es.filterMap Call.fault? = [])
    (ran : es.filterMap Call.run? = ps.map Posting.run) :
    FailsAt (ps ++ ps') q e (es ++ es') := by
  obtain ⟨before, c, after, rfl, clean', arises⟩ := fails
  refine ⟨es ++ before, c, after, by simp, by simp [clean, clean'], ?_⟩
  cases arises with
  | connect => exact .connect
  | @command done _ _ _ next ran' =>
    refine .command (by rw [next, ← List.append_assoc]) ?_
    rw [List.filterMap_append, List.map_append, ran, ran']
  | close => exact .close

end

/-! ## How far a part of a chain got -/

/-- Whose the sessions of the scopes are. -/
def owners (ss : List (Scope (Watched S))) : List Owner := ss.map (·.session.owner)

/-- The scopes that failed, by the owners of their sessions. -/
def failedOwners (ss : List (Scope (Watched S))) : List Owner :=
  owners (ss.filter (·.phase = .failed))

/-- The scopes `ss` were entered and left as `ss'`, inside a scope that runs on a session
    of `around`. -/
structure Entered (around : Option Owner) (ss ss' : List (Scope (Watched S)))
    (calls : List Call) : Prop where
  same : owners ss' = owners ss
  ended : ∀ s ∈ ss', s.phase = .closed ∨ s.phase = .failed
  /-- Nothing is asked of a session from elsewhere, except of the one around, which is left
      open. -/
  within : ∀ c ∈ calls, c.owner ∈ owners ss ∨ some c.owner = around ∧ c.act ≠ .close
  closed : ∀ w ∈ owners ss, ClosedLast w calls

/-- What the execution of a part of a chain came to. The scopes around that part are `above`,
    those inside it that were entered are `ss'`, and the others are `rest`. -/
inductive Verdict (above : List Spot) (postings : List Posting)
    (ss' rest : List (Scope (Watched S))) : Outcome → List Call → Prop where
  | ok {calls} (all : rest = []) (sound : failedOwners ss' = [])
      (clean : calls.filterMap Call.fault? = [])
      (ran : calls.filterMap Call.run? = postings.map Posting.run) :
      Verdict above postings ss' rest (.ok ()) calls
  | error {q trail e calls} (down : downTo q = above ++ trail)
      (failed : failedOwners ss' = trail.map .scope) (fails : FailsAt postings q e calls) :
      Verdict above postings ss' rest (.error e) calls

/-- How far the execution of a part of a chain got: some of its scopes were entered, and those
    after them are as they were. -/
def Block (above : List Spot) (around : Option Owner) (postings : List Posting)
    (ss ss' : List (Scope (Watched S))) (o : Outcome) (calls : List Call) : Prop :=
  ∃ inner inner' rest, ss = inner ++ rest ∧ ss' = inner' ++ rest ∧
    Entered around inner inner' calls ∧ Verdict above postings inner' rest o calls

section

variable {above : List Spot} {around : Option Owner} {ps ps' : List Posting}
  {ss ss' tt tt' : List (Scope (Watched S))} {o : Outcome} {e : Fault} {es es' : List Call}

@[simp] theorem owners_append : owners (ss ++ tt) = owners ss ++ owners tt := List.map_append

@[simp] theorem failedOwners_append :
    failedOwners (ss ++ tt) = failedOwners ss ++ failedOwners tt := by
  simp [failedOwners, List.filter_append]

theorem failedOwners_cons_of_failed {s : Scope (Watched S)} (failed : s.phase = .failed) :
    failedOwners (s :: ss) = s.session.owner :: failedOwners ss := by
  simp [failedOwners, owners, failed]

theorem failedOwners_cons_of_sound {s : Scope (Watched S)} (sound : s.phase ≠ .failed) :
    failedOwners (s :: ss) = failedOwners ss := by
  simp [failedOwners, owners, sound]

/-- The calls that open the scope at `p`: its own session is connected, and the one around it
    is asked for keys. -/
structure Opens (p : Spot) (around : Option Owner) (calls : List Call) : Prop where
  within : ∀ c ∈ calls, (c.owner = .scope p ∨ some c.owner = around) ∧ c.act ≠ .close
  clean : calls.filterMap Call.fault? = []
  silent : calls.filterMap Call.run? = []

namespace Entered

theorem nil (within : ∀ c ∈ es, some c.owner = around ∧ c.act ≠ .close) :
    Entered around ([] : List (Scope (Watched S))) [] es where
  same := rfl
  ended := by simp
  within c hc := .inr (within c hc)
  closed := by simp [owners]

/-- Nothing is asked of other sessions. -/
theorem idle (entered : Entered around ss ss' es) {w : Owner} (apart : some w ≠ around)
    (other : w ∉ owners ss) : ∀ c ∈ es, c.owner ≠ w := by
  rintro c hc rfl
  rcases entered.within c hc with inside | ⟨outside, -⟩
  · exact other inside
  · exact apart outside

theorem append (first : Entered around ss ss' es) (second : Entered around tt tt' es')
    (apart : ∀ w ∈ owners (ss ++ tt), some w ≠ around)
    (disjoint : ∀ w ∈ owners ss, w ∉ owners tt) :
    Entered around (ss ++ tt) (ss' ++ tt') (es ++ es') := by
  refine ⟨?_, fun s hs => ?_, fun c hc => ?_, fun w hw => ?_⟩
  · rw [owners_append, owners_append, first.same, second.same]
  · exact (List.mem_append.1 hs).elim (first.ended s) (second.ended s)
  · rw [owners_append, List.mem_append]
    rcases List.mem_append.1 hc with hc | hc
    · exact (first.within c hc).imp_left .inl
    · exact (second.within c hc).imp_left .inr
  · have apart := apart w hw
    rw [owners_append, List.mem_append] at hw
    rcases hw with hw | hw
    · exact (first.closed w hw).append (second.idle apart (disjoint w hw))
    · exact (second.closed w hw).after (first.idle apart fun hw' => disjoint w hw' hw)

/-- A scope is entered around the scopes that were entered inside it. -/
theorem enclose {s s' : Scope (Watched S)} {p : Spot} {host : Owner} {pre : List Call}
    (entered : Entered (some host) ss ss' es) (hosted : host = .scope p ∨ some host = around)
    (opens : Opens p around pre) (own : s.session.owner = .scope p)
    (own' : s'.session.owner = .scope p) (ended : s'.phase = .closed ∨ s'.phase = .failed)
    (apart : ∀ w ∈ owners (s :: ss), some w ≠ around) (new : .scope p ∉ owners ss) (o : Outcome) :
    Entered around (s :: ss) (s' :: ss') (pre ++ es ++ [⟨.scope p, .close, o⟩]) := by
  have head : owners (s :: ss) = .scope p :: owners ss := by rw [← own]; rfl
  refine ⟨?_, fun t ht => ?_, fun c hc => ?_, fun w hw => ?_⟩
  · rw [head, ← entered.same, ← own']
    rfl
  · rcases List.mem_cons.1 ht with rfl | ht
    · exact ended
    · exact entered.ended t ht
  · rw [head, List.mem_cons]
    rcases List.mem_append.1 hc with hc | hc
    · rcases List.mem_append.1 hc with hc | hc
      · obtain ⟨on | outside, opened⟩ := opens.within c hc
        · exact .inl (.inl on)
        · exact .inr ⟨outside, opened⟩
      · rcases entered.within c hc with inside | ⟨outside, opened⟩
        · exact .inl (.inr inside)
        · obtain rfl := Option.some.inj outside
          exact hosted.imp .inl fun outside => ⟨outside, opened⟩
    · obtain rfl := List.mem_singleton.1 hc
      exact .inl (.inl rfl)
  · have outside := apart w hw
    rw [head, List.mem_cons] at hw
    rcases hw with rfl | hw
    · refine ClosedLast.close (fun c hc of => ?_) o
      rcases List.mem_append.1 hc with hc | hc
      · exact (opens.within c hc).2
      · rcases entered.within c hc with inside | ⟨-, opened⟩
        · exact absurd (of ▸ inside) new
        · exact opened
    · have other : .scope p ≠ w := fun h => new (h ▸ hw)
      refine ((entered.closed w hw).after fun c hc of => ?_).append fun c hc => ?_
      · subst of
        exact (opens.within c hc).1.elim (fun on => other on.symm) outside
      · obtain rfl := List.mem_singleton.1 hc
        exact other

end Entered

namespace Block

/-- A part without scopes. -/
theorem ofVerdict (within : ∀ c ∈ es, some c.owner = around ∧ c.act ≠ .close)
    (verdict : Verdict above ps ([] : List (Scope (Watched S))) ss o es) :
    Block above around ps ss ss o es :=
  ⟨[], [], ss, rfl, rfl, .nil within, verdict⟩

/-- A command of the scope at `p`. -/
theorem command (p : Spot) (w : Owner) (line : String) (o : Outcome) :
    Block (downTo p) (some w) [⟨p, w, line⟩] ([] : List (Scope (Watched S))) [] o
      [⟨w, .run line, o⟩] := by
  refine .ofVerdict (fun c hc => ?_) ?_
  · obtain rfl := List.mem_singleton.1 hc
    exact ⟨rfl, nofun⟩
  · rcases o with e | ⟨⟩
    · have down : downTo p = downTo p ++ [] := (List.append_nil _).symm
      have next : [⟨p, w, line⟩] = [] ++ (⟨p, w, line⟩ : Posting) :: [] := rfl
      exact .error down rfl ⟨[], _, [], rfl, rfl, .command next rfl⟩
    · exact .ok rfl rfl rfl rfl

/-- A session that does not connect: nothing inside its scope is entered. -/
theorem refused (p : Spot) (e : Fault) (ss : List (Scope (Watched S))) :
    Block (downTo p) (some (.scope p)) ps ss ss (.error e) [⟨.scope p, .connect, .error e⟩] := by
  have down : downTo p = downTo p ++ [] := (List.append_nil _).symm
  refine .ofVerdict (fun c hc => ?_) (.error down rfl ⟨[], _, [], rfl, rfl, .connect⟩)
  obtain rfl := List.mem_singleton.1 hc
  exact ⟨rfl, nofun⟩

/-- After a fault, the scopes and commands that follow are left alone. -/
theorem cut (block : Block above around ps ss ss' (.error e) es) (ps' : List Posting)
    (tt : List (Scope (Watched S))) :
    Block above around (ps ++ ps') (ss ++ tt) (ss' ++ tt) (.error e) es := by
  obtain ⟨inner, inner', rest, rfl, rfl, entered, verdict⟩ := block
  refine ⟨inner, inner', rest ++ tt, by simp, by simp, entered, ?_⟩
  cases verdict with
  | error down failed fails =>
    have fails := fails.append ps' []
    rw [List.append_nil] at fails
    exact .error down failed fails

/-- **The rule for sequences**, for sessions that are all apart. -/
theorem append (first : Block above around ps ss ss' (.ok ()) es)
    (second : Block above around ps' tt tt' o es')
    (apart : ∀ w ∈ owners (ss ++ tt), some w ≠ around)
    (disjoint : ∀ w ∈ owners ss, w ∉ owners tt) :
    Block above around (ps ++ ps') (ss ++ tt) (ss' ++ tt') o (es ++ es') := by
  obtain ⟨inner, inner', _, rfl, rfl, entered, ⟨rfl, sound, clean, ran⟩⟩ := first
  obtain ⟨inner₂, inner₂', rest, rfl, rfl, entered₂, verdict⟩ := second
  simp only [List.append_nil] at *
  refine ⟨inner ++ inner₂, inner' ++ inner₂', rest, by simp, by simp, ?_, ?_⟩
  · refine entered.append entered₂ (fun w hw => apart w ?_) fun w hw hw' => disjoint w hw ?_
    · simp only [owners_append, List.mem_append] at hw ⊢
      exact hw.imp_right .inl
    · exact owners_append ▸ List.mem_append_left _ hw'
  · cases verdict with
    | ok all sound₂ clean₂ ran₂ =>
      exact .ok all (by simp [sound, sound₂]) (by simp [clean, clean₂]) (by simp [ran, ran₂])
    | error down failed fails =>
      exact .error down (by simp [sound, failed]) (fails.after clean ran)

/-- **The rule for scopes**: a scope is opened, its items are run, and its session is closed
    whatever they came to. -/
theorem enclose {s s' : Scope (Watched S)} {p : Spot} {host : Owner} {pre : List Call}
    {closed : Outcome} (body : Block (downTo p) (some host) ps ss ss' o es)
    (hosted : host = .scope p ∨ some host = around) (opens : Opens p around pre)
    (down : downTo p = above ++ [p]) (own : s.session.owner = .scope p)
    (own' : s'.session.owner = .scope p) (phase : s'.phase = finalPhase o closed)
    (apart : ∀ w ∈ owners (s :: ss), some w ≠ around) (new : .scope p ∉ owners ss) :
    Block above around ps (s :: ss) (s' :: ss') (o.and closed)
      (pre ++ es ++ [⟨.scope p, .close, closed⟩]) := by
  obtain ⟨inner, inner', rest, rfl, rfl, entered, verdict⟩ := body
  have ended : s'.phase = .closed ∨ s'.phase = .failed := by
    rw [phase, finalPhase]
    split
    · exact .inl rfl
    · exact .inr rfl
  refine ⟨s :: inner, s' :: inner', rest, rfl, rfl, ?_, ?_⟩
  · refine entered.enclose hosted opens own own' ended (fun w hw => apart w ?_) (fun h => new ?_) _
    · rw [← List.cons_append, owners_append]
      exact List.mem_append_left _ hw
    · exact owners_append ▸ List.mem_append_left _ h
  cases verdict with
  | @error q trail e _ down' failed fails =>
    -- the fault of the items wins, whatever the close comes to
    have down : downTo q = above ++ p :: trail := by
      rw [down', down, List.append_assoc]
      rfl
    refine .error down ?_ ?_
    · rw [failedOwners_cons_of_failed phase, own', failed]
      rfl
    · have silent : pre.filterMap Call.run? = ([] : List Posting).map Posting.run := opens.silent
      simpa using (fails.after opens.clean silent).append [] [⟨.scope p, .close, closed⟩]
  | ok all sound clean ran =>
    rcases closed with e | ⟨⟩
    · -- all items are done, and the close is the first call that fails
      refine .error down ?_ ?_
      · rw [failedOwners_cons_of_failed phase, own', sound]
        rfl
      · exact ⟨pre ++ es, _, [], rfl, by simp [opens.clean, clean], .close⟩
    · refine .ok all ?_ ?_ ?_
      · rw [failedOwners_cons_of_sound (by rw [phase]; nofun), sound]
      · simp [opens.clean, clean, Call.fault?, Outcome.fault?]
      · simp [opens.silent, ran, Call.run?]

end Block

end

end Runbook
