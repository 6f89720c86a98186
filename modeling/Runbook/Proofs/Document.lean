/-
  Documents as values, and tags in them.

  * `Node.canonical` writes a node of texts, blocks and sequences (`Node.Plain`) as a value,
    without any tag;
  * `Value.Tagging v w`: `w` is `v` with tags put around values in it, and around keys, in
    any places and numbers;
  * `Value.bare` is a value below its outer tags.

  `ofValue_canonical`: a node is read back from its canonical value. `ofValue_tagging`: tags
  change no node, whatever the value is that they are put in. `values_convert` joins both, and
  says which values are read as blocks.
-/
import Runbook.Document.Value

namespace Runbook

/-! ## Canonical values -/

/-- A node of texts, blocks and sequences only. -/
inductive Node.Plain : Node → Prop where
  | scalar (text) : Node.Plain (.scalar text)
  | block (key) {value} (inside : Node.Plain value) : Node.Plain (.block key value)
  | sequence {items} (inside : ∀ n ∈ items, Node.Plain n) : Node.Plain (.sequence items)

mutual

/-- The value that a plain node is written as: a block is a mapping of one entry. Other
    shapes have no value of their own. -/
def Node.canonical : Node → Value
  | .scalar text => .text text
  | .block key value => .mapping [.mk (.text key) value.canonical]
  | .sequence items => .sequence (canonicalAll items)
  | .other _ => .null

/-- The values that the items of a sequence are written as. -/
def canonicalAll : List Node → List Value
  | [] => []
  | n :: ns => n.canonical :: canonicalAll ns

end

theorem canonicalAll_eq_map (ns : List Node) : canonicalAll ns = ns.map Node.canonical := by
  induction ns with
  | nil => rfl
  | cons n ns ih => rw [canonicalAll, ih, List.map_cons]

/-- **Writing and reading back**: the node of a canonical value is the one that was written. -/
theorem ofValue_canonical {d : Node} (plain : d.Plain) : Node.ofValue d.canonical = d := by
  induction plain with
  | scalar text => rfl
  | block key inside ih =>
    rw [Node.canonical, Node.ofValue, blockOf_singleton, Entry.block, Node.ofValue, ih]
  | @sequence items inside ih =>
    have same : items.map (Node.ofValue ∘ Node.canonical) = items.map id :=
      List.map_congr_left ih
    rw [Node.canonical, Node.ofValue, nodesOf_eq_map, canonicalAll_eq_map, List.map_map, same,
      List.map_id]

/-! ## Tags -/

mutual

/-- The second value is the first with tags put around values and keys in it. -/
inductive Value.Tagging : Value → Value → Prop where
  | null : Value.Tagging .null .null
  | bool (b) : Value.Tagging (.bool b) (.bool b)
  | number (n) : Value.Tagging (.number n) (.number n)
  | text (s) : Value.Tagging (.text s) (.text s)
  | sequence {vs ws} (items : ItemsTagging vs ws) : Value.Tagging (.sequence vs) (.sequence ws)
  | mapping {es fs} (entries : EntriesTagging es fs) : Value.Tagging (.mapping es) (.mapping fs)
  | tagged (tag) {v w} (inside : Value.Tagging v w) :
      Value.Tagging (.tagged tag v) (.tagged tag w)
  /-- One more tag. -/
  | wrapped (tag) {v w} (inside : Value.Tagging v w) : Value.Tagging v (.tagged tag w)

/-- Tags are put around and in the items of a sequence. -/
inductive ItemsTagging : List Value → List Value → Prop where
  | nil : ItemsTagging [] []
  | cons {v w vs ws} (first : Value.Tagging v w) (rest : ItemsTagging vs ws) :
      ItemsTagging (v :: vs) (w :: ws)

/-- Tags are put around and in the keys and the values of a mapping. -/
inductive EntriesTagging : List Entry → List Entry → Prop where
  | nil : EntriesTagging [] []
  | cons {k l v w es fs} (key : Value.Tagging k l) (value : Value.Tagging v w)
      (rest : EntriesTagging es fs) : EntriesTagging (.mk k v :: es) (.mk l w :: fs)

end

mutual

/-- **Tags are transparent**: put in any places of any value, they do not change its node. -/
theorem ofValue_tagging : ∀ {v w : Value}, v.Tagging w → Node.ofValue w = Node.ofValue v
  | _, _, .null | _, _, .bool _ | _, _, .number _ | _, _, .text _ => rfl
  | _, _, .sequence items => by
    rw [Node.ofValue, Node.ofValue, nodesOf_tagging items]
  | _, _, .mapping entries => by
    rw [Node.ofValue, Node.ofValue, blockOf_tagging entries]
  | _, _, .tagged _ inside => by
    rw [Node.ofValue, Node.ofValue, ofValue_tagging inside]
  | _, _, .wrapped _ inside => by
    rw [Node.ofValue, ofValue_tagging inside]

theorem nodesOf_tagging : ∀ {vs ws : List Value}, ItemsTagging vs ws → nodesOf ws = nodesOf vs
  | _, _, .nil => rfl
  | _, _, .cons first rest => by
    rw [nodesOf, nodesOf, ofValue_tagging first, nodesOf_tagging rest]

/-- Keys are reduced to nodes as values are, so that tags do not show in them either. -/
theorem blockOf_tagging : ∀ {es fs : List Entry}, EntriesTagging es fs → blockOf fs = blockOf es
  | _, _, .nil => rfl
  | _, _, .cons key value .nil => by
    rw [blockOf_singleton, blockOf_singleton, Entry.block, Entry.block, ofValue_tagging key,
      ofValue_tagging value]
  | _, _, .cons _ _ (.cons _ _ _) => rfl

end

/-! ## Blocks -/

/-- A value below its outer tags. -/
def Value.bare : Value → Value
  | .tagged _ v => v.bare
  | v => v

/-- A text, a boolean or a number. -/
inductive Value.IsScalar : Value → Prop where
  | text (s) : Value.IsScalar (.text s)
  | bool (b) : Value.IsScalar (.bool b)
  | number (n) : Value.IsScalar (.number n)

theorem ofValue_bare : ∀ v : Value, Node.ofValue v.bare = Node.ofValue v
  | .tagged tag v => by
    rw [Value.bare, Node.ofValue]
    exact ofValue_bare v
  | .null | .bool _ | .number _ | .text _ | .sequence _ | .mapping _ => rfl

theorem bare_ne_tagged : ∀ (v : Value) {tag : String} {w : Value}, v.bare ≠ .tagged tag w
  | .tagged _ v => bare_ne_tagged v
  | .null | .bool _ | .number _ | .text _ | .sequence _ | .mapping _ => nofun

/-- The node of a mapping is a block or one of the other shapes. -/
theorem blockOf_ne_scalar (es : List Entry) {s : String} : blockOf es ≠ .scalar s := by
  match es with
  | [] => nofun
  | .mk k v :: [] =>
    rw [blockOf_singleton, Entry.block]
    split <;> nofun
  | _ :: _ :: _ => nofun

/-- Values that are scalars under their tags become scalars, and no others do. -/
theorem ofValue_scalar_iff (v : Value) : (∃ s, Node.ofValue v = .scalar s) ↔ v.bare.IsScalar := by
  rw [← ofValue_bare v]
  constructor
  · rintro ⟨s, scalar⟩
    cases hv : v.bare with
    | text | bool | number => constructor
    | tagged => exact absurd hv (bare_ne_tagged v)
    | mapping es =>
      rw [hv, Node.ofValue] at scalar
      exact absurd scalar (blockOf_ne_scalar es)
    | null | sequence =>
      rw [hv] at scalar
      cases scalar
  · intro scalar
    generalize v.bare = w at scalar
    cases scalar <;> exact ⟨_, rfl⟩

/-- A mapping becomes a block if it has one entry and its key becomes a scalar. -/
theorem blockOf_block_iff (es : List Entry) : (∃ key node, blockOf es = .block key node) ↔
    ∃ k v, es = [.mk k v] ∧ ∃ s, Node.ofValue k = .scalar s := by
  constructor
  · rintro ⟨key, node, block⟩
    match es with
    | [] => cases block
    | .mk k v :: [] =>
      refine ⟨k, v, rfl, ?_⟩
      rw [blockOf_singleton, Entry.block] at block
      split at block
      · next s scalar => exact ⟨s, scalar⟩
      · cases block
    | _ :: _ :: _ => cases block
  · rintro ⟨k, v, rfl, s, scalar⟩
    rw [blockOf_singleton, Entry.block, scalar]
    exact ⟨s, Node.ofValue v, rfl⟩

theorem ofValue_block_iff (v : Value) : (∃ key node, Node.ofValue v = .block key node) ↔
    ∃ k x, v.bare = .mapping [.mk k x] ∧ k.bare.IsScalar := by
  rw [← ofValue_bare v]
  constructor
  · rintro ⟨key, node, block⟩
    cases hv : v.bare with
    | mapping es =>
      rw [hv, Node.ofValue] at block
      obtain ⟨k, x, rfl, scalar⟩ := (blockOf_block_iff es).1 ⟨key, node, block⟩
      exact ⟨k, x, rfl, (ofValue_scalar_iff k).1 scalar⟩
    | tagged => exact absurd hv (bare_ne_tagged v)
    | null | bool | number | text | sequence =>
      rw [hv] at block
      cases block
  · rintro ⟨k, x, mapping, scalar⟩
    rw [mapping, Node.ofValue]
    exact (blockOf_block_iff _).2 ⟨k, x, rfl, (ofValue_scalar_iff k).2 scalar⟩

/-- **Values convert faithfully**: a plain node is read back from its canonical value, with
    tags put anywhere in it; and a value is read as a block exactly if it is, below its outer
    tags, a mapping of one entry whose key is a scalar below its own. -/
theorem values_convert :
    (∀ {d : Node} {v : Value}, d.Plain → d.canonical.Tagging v → Node.ofValue v = d) ∧
    ∀ v : Value, (∃ key node, Node.ofValue v = .block key node) ↔
      ∃ k x, v.bare = .mapping [.mk k x] ∧ k.bare.IsScalar := by
  constructor
  · intro d v plain tagging
    calc Node.ofValue v = Node.ofValue d.canonical := ofValue_tagging tagging
      _ = d := ofValue_canonical plain
  · exact ofValue_block_iff

/-- A chain of one command. -/
def errands : Node := .block "errands" (.sequence [.scalar "echo a", .sequence []])

/-- The same with tags around the mapping, its key, the command, and twice the empty sequence. -/
def Value.labelled : Value :=
  .tagged "!chain" (.mapping [.mk (.tagged "!name" (.text "errands"))
    (.sequence [.tagged "!run" (.text "echo a"), .tagged "!a" (.tagged "!b" (.sequence []))])])

theorem labelled_converts : errands.Plain ∧ errands.canonical.Tagging Value.labelled ∧
    Node.ofValue Value.labelled = errands := by
  have plain : errands.Plain := by
    refine .block "errands" (.sequence ?_)
    simp only [List.forall_mem_cons]
    exact ⟨.scalar _, .sequence (List.forall_mem_nil _), List.forall_mem_nil _⟩
  have tagging : errands.canonical.Tagging Value.labelled :=
    .wrapped _ (.mapping (.cons (.wrapped _ (.text _)) (.sequence
      (.cons (.wrapped _ (.text _)) (.cons (.wrapped _ (.wrapped _ (.sequence .nil))) .nil))) .nil))
  exact ⟨plain, tagging, values_convert.1 plain tagging⟩

end Runbook
