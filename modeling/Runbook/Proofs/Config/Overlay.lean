/-
  The value that a variable has after many assignments.

  * `lastValue name vs` is the last value that is assigned to a name;
  * `Overlay.get?_putAll`: of the variables put over an overlay each has its last value, and
    all others are as they were;
  * `Dotenv.assignments` lists what an environment file assigns, line after line;
    `Dotenv.read_eq`: reading the file puts these, in order, over nothing.
-/
import Mathlib.Data.List.Induction
import Runbook.Dotenv

namespace Runbook

/-- The last value that is assigned to a name. -/
def lastValue (name : String) (vs : List (String × String)) : Option String :=
  (vs.filterMap fun v => if v.1 = name then some v.2 else none).getLast?

namespace Overlay

variable {o : Overlay} {name n value : String} {vs ws : List (String × String)}

/-! ## One assignment -/

theorem get?_cons (v : String × String) (o : Overlay) :
    get? (v :: o) name = if v.1 = name then some v.2 else o.get? name := by
  rw [get?, List.lookup_cons]
  by_cases h : v.1 = name
  · simp [h]
  · have apart : (name == v.1) = false := by simpa using Ne.symm h
    simp [h, apart, get?]

/-- An entry more changes nothing for other names, and for a name that is there. -/
theorem get?_concat (o : Overlay) (v : String × String) :
    get? (o ++ [v]) n = (o.get? n).or (if v.1 = n then some v.2 else none) := by
  induction o with
  | nil => exact get?_cons v []
  | cons w o ih =>
    rw [List.cons_append, get?_cons, get?_cons, ih]
    split <;> rfl

/-- Another value for every entry of a name. -/
theorem get?_replaced (o : Overlay) (name value : String) :
    get? (o.map fun v => if v.1 == name then (name, value) else v) n =
      if n = name then (o.get? n).map fun _ => value else o.get? n := by
  induction o with
  | nil => simp [get?]
  | cons v o ih =>
    rw [List.map_cons, get?_cons, get?_cons, ih]
    by_cases hv : v.1 = name
    · by_cases hn : n = name
      · simp [hv, hn]
      · simp [hv, hn, Ne.symm hn]
    · by_cases hn : n = name
      · simp [hv, hn]
      · simp [hv, hn]

theorem any_name (o : Overlay) (name : String) :
    o.any (·.1 == name) = (o.get? name).isSome := by
  induction o with
  | nil => rfl
  | cons v o ih =>
    rw [List.any_cons, get?_cons, ih]
    by_cases hv : v.1 = name
    · simp [hv]
    · simp [hv]

/-- **A variable has the value that it is given**, and the others have theirs. -/
theorem get?_put (o : Overlay) (name value n : String) :
    (o.put name value).get? n = if n = name then some value else o.get? n := by
  rw [put, any_name]
  by_cases there : (o.get? name).isSome
  · rw [if_pos there, get?_replaced]
    by_cases hn : n = name
    · obtain ⟨old, ho⟩ := Option.isSome_iff_exists.1 there
      simp [hn, ho]
    · rw [if_neg hn, if_neg hn]
  · rw [if_neg there, get?_concat]
    by_cases hn : n = name
    · have missing : o.get? name = none := by simpa using there
      simp [hn, missing]
    · simp [hn, Ne.symm hn]

/-! ## Many assignments -/

theorem lastValue_concat (vs : List (String × String)) (v : String × String) (name : String) :
    lastValue name (vs ++ [v]) = if v.1 = name then some v.2 else lastValue name vs := by
  unfold lastValue
  rw [List.filterMap_append]
  by_cases hv : v.1 = name
  · simp [hv]
  · simp [hv]

theorem putAll_concat (o : Overlay) (vs : List (String × String)) (v : String × String) :
    o.putAll (vs ++ [v]) = (o.putAll vs).put v.1 v.2 := by
  rw [putAll, putAll, List.foldl_append, List.foldl_cons, List.foldl_nil]

/-- **Each variable has its last value**; those that are not assigned have theirs. -/
theorem get?_putAll (o : Overlay) (vs : List (String × String)) (name : String) :
    (o.putAll vs).get? name = (lastValue name vs).or (o.get? name) := by
  induction vs using List.reverseRecOn with
  | nil => rfl
  | append_singleton vs v ih =>
    rw [putAll_concat, get?_put, lastValue_concat, ih]
    by_cases hv : name = v.1
    · rw [if_pos hv, if_pos hv.symm, Option.some_or]
    · rw [if_neg hv, if_neg (Ne.symm hv)]

/-- An overlay whose names are all different. -/
def Distinct (o : Overlay) : Prop := (o.map Prod.fst).Nodup

theorem Distinct.put (h : o.Distinct) (name value : String) : (o.put name value).Distinct := by
  unfold Distinct Overlay.put
  split
  · have same : (o.map fun v => if v.1 == name then (name, value) else v).map Prod.fst =
        o.map Prod.fst := by
      rw [List.map_map]
      refine List.map_congr_left fun v _ => ?_
      by_cases hv : v.1 = name
      · simp [hv]
      · simp [hv]
    rw [same]
    exact h
  · next new =>
    rw [List.map_append, List.nodup_append]
    refine ⟨h, by simp, fun x hx y hy => ?_⟩
    obtain ⟨v, hv, rfl⟩ := List.mem_map.1 hx
    obtain rfl := List.mem_singleton.1 hy
    rintro rfl
    exact new (List.any_eq_true.2 ⟨v, hv, beq_self_eq_true _⟩)

theorem distinct_putAll (vs : List (String × String)) : (putAll [] vs).Distinct := by
  induction vs using List.reverseRecOn with
  | nil => exact List.nodup_nil
  | append_singleton vs v ih =>
    rw [putAll_concat]
    exact ih.put v.1 v.2

theorem get?_eq_none (h : name ∉ o.map Prod.fst) : o.get? name = none := by
  induction o with
  | nil => rfl
  | cons v o ih =>
    rw [List.map_cons, List.mem_cons, not_or] at h
    rw [get?_cons, if_neg (Ne.symm h.1), ih h.2]

/-- In such an overlay there is no other value than the last. -/
theorem Distinct.lastValue (h : o.Distinct) (name : String) :
    lastValue name o = o.get? name := by
  induction o using List.reverseRecOn with
  | nil => rfl
  | append_singleton o v ih =>
    rw [Distinct, List.map_append, List.nodup_append] at h
    rw [lastValue_concat, get?_concat, ih h.1]
    by_cases hv : v.1 = name
    · have new : name ∉ o.map Prod.fst := by
        intro old
        exact h.2.2 name old v.1 (by simp) hv.symm
      simp [hv, get?_eq_none new]
    · simp [hv]

/-- Assignments may be collected in an overlay before they are put over another. -/
theorem get?_putAll_putAll (o : Overlay) (vs : List (String × String)) (name : String) :
    (o.putAll (putAll [] vs)).get? name = (lastValue name vs).or (o.get? name) := by
  have collected : lastValue name (putAll [] vs) = lastValue name vs := by
    rw [(distinct_putAll vs).lastValue, get?_putAll]
    exact Option.or_none
  rw [get?_putAll, collected]

end Overlay

/-! ## Environment files -/

namespace Dotenv

/-- The assignments of a file, in order; `env` is the environment that values can refer to. -/
def assignments (env : Overlay) (content : Bytes) : Except Fault (List (String × String)) :=
  (logicalLines [] .plain (physicalLines content)).foldlM (fun vs line => do
    match ← assignment? (← line) with
    | none => pure vs
    | some (name, text) =>
      pure (vs ++ [(name, ← value (valueOf env (Overlay.putAll [] vs)) text)])) []

/-- Folding commutes with a function that every step commutes with. -/
theorem foldlM_map {ε α β γ : Type} {f : β → α → Except ε β} {g : γ → α → Except ε γ}
    {φ : γ → β} (step : ∀ c a, f (φ c) a = (g c a).map φ) (as : List α) (c : γ) :
    as.foldlM f (φ c) = (as.foldlM g c).map φ := by
  induction as generalizing c with
  | nil => rfl
  | cons a as ih =>
    rw [List.foldlM_cons, List.foldlM_cons, step]
    rcases g c a with e | c'
    · rfl
    · exact ih c'

/-- **Reading a file puts its assignments** over nothing, in order. -/
theorem read_eq (env : Overlay) (content : Bytes) :
    read env content = (assignments env content).map (Overlay.putAll []) := by
  refine foldlM_map (φ := Overlay.putAll []) (fun vs line => ?_) _ []
  rcases line with e | line
  · rfl
  · simp only [bind, Except.bind]
    rcases assignment? line with e | _ | ⟨name, text⟩
    · rfl
    · rfl
    · simp only
      rcases value (valueOf env (Overlay.putAll [] vs)) text with e | v
      · rfl
      · exact congrArg Except.ok (Overlay.putAll_concat [] vs (name, v)).symm

end Dotenv

end Runbook
