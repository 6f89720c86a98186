/-
  The tree of a YAML document, before its scalars are given types.

  `Tree.ofTokens?` reads the one document of a text. A missing key, value or entry is an
  empty plain scalar.
-/
import Runbook.Yaml.Tag

namespace Runbook.Yaml

/-- What a node carries before its content: an anchor and a tag. -/
structure Marks where
  /-- The number that aliases find the node by. -/
  anchor : Option Nat := none
  tag : Option Bytes := none

mutual

/-- A node of a document. -/
inductive Tree where
  | scalar (marks : Marks) (text : String) (plain : Bool)
  /-- Another appearance of the node with this anchor. -/
  | alias (anchor : Nat)
  | sequence (marks : Marks) (items : List Tree)
  | mapping (marks : Marks) (pairs : List Pair)

/-- A key and its value. -/
inductive Pair where
  | mk (key value : Tree)

end

/-- A missing node. -/
def Tree.missing : Tree := .scalar {} "" true

/-! ## Readers -/

/-- What is known at a place among the tokens. -/
structure Place where
  tokens : List Token
  /-- The handles of tags and what they stand for. -/
  handles : List (String × Bytes) := []
  /-- The anchors so far, the last one first, with the number of each. -/
  anchors : List (String × Nat) := []

/-- A reader of tokens, which may refuse them. -/
abbrev Reader := StateT Place Option

namespace Reader

/-- The next token. -/
def peek : Reader (Option Token) := do pure (← get).tokens.head?

/-- Moves over a token. -/
def drop : Reader Unit := modify fun p => { p with tokens := p.tokens.drop 1 }

/-- The next token is one of these. -/
def sees (ts : List Token) : Reader Bool := do pure ((← peek).any (ts.contains ·))

/-- Moves over a token if it is the next one. -/
def take (t : Token) : Reader Bool := do
  if ← sees [t] then
    drop
    pure true
  else pure false

/-- Moves over a token, which must be the next one. -/
def expect (t : Token) : Reader Unit := do
  if !(← take t) then failure

/-- Gives an anchor its number: the number of different names before it. -/
def declare (name : String) : Reader Nat := do
  let p ← get
  let n := p.anchors.length
  set { p with anchors := (name, n) :: p.anchors.filter (·.1 ≠ name) }
  pure n

/-- The number of an anchor that an alias refers to. -/
def refer (name : String) : Reader Nat := do (← get).anchors.lookup name

/-- The full text of a tag. -/
def fullTag (handle : String) (rest : Bytes) : Reader Bytes := do
  if handle.isEmpty then pure rest
  else do
    let start ← (← get).handles.lookup handle
    pure (start ++ rest)

/-- An anchor, if one is next. -/
def anchor? : Reader (Option Nat) := do
  match ← peek with
  | some (.anchor name) =>
    drop
    some <$> declare name
  | _ => pure none

/-- A tag, if one is next. -/
def tag? : Reader (Option Bytes) := do
  match ← peek with
  | some (.tag handle rest) =>
    drop
    some <$> fullTag handle rest
  | _ => pure none

/-- An anchor and a tag, in either order. -/
def marks : Reader Marks := do
  match ← anchor? with
  | some a => pure ⟨some a, ← tag?⟩
  | none => do
    let tag ← tag?
    let anchor ← if tag.isSome then anchor? else pure none
    pure ⟨anchor, tag⟩

end Reader

/-! ## Nodes -/

open Reader

/-- Where a node stands: which collections may start there. -/
inductive Setting where
  | flow
  | block
  /-- A block sequence may start without being indented. -/
  | blockOrEntries

/-- The missing node after marks; without any something else was to stand there. -/
def missingNode (m : Marks) : Reader Tree :=
  if m.anchor.isSome || m.tag.isSome then pure (.scalar m "" true) else failure

mutual

/-- A node. -/
def node (setting : Setting) : Nat → Reader Tree
  | 0 => failure
  | fuel + 1 => do
    if let some (.alias name) ← peek then
      drop
      return .alias (← refer name)
    let m ← marks
    match setting, ← peek with
    | .blockOrEntries, some .blockEntry => .sequence m <$> entries fuel
    | _, some (.scalar text plain) =>
      drop
      pure (.scalar m text plain)
    | _, some .flowSequenceStart =>
      drop
      .sequence m <$> flowItems true fuel
    | _, some .flowMappingStart =>
      drop
      .mapping m <$> flowPairs true fuel
    | .flow, _ => missingNode m
    | _, some .blockSequenceStart =>
      drop
      .sequence m <$> blockItems fuel
    | _, some .blockMappingStart =>
      drop
      .mapping m <$> blockPairs fuel
    | _, _ => missingNode m

/-- A node, or the missing one if one of these tokens comes at once. -/
def nodeUnless (stops : List Token) (setting : Setting) : Nat → Reader Tree
  | 0 => failure
  | fuel + 1 => do
    if ← sees stops then pure .missing else node setting fuel

/-- The items of an indented block sequence. -/
def blockItems : Nat → Reader (List Tree)
  | 0 => failure
  | fuel + 1 => do
    if ← take .blockEntry then
      let item ← nodeUnless [.blockEntry, .blockEnd] .block fuel
      (item :: ·) <$> blockItems fuel
    else
      expect .blockEnd
      pure []

/-- The items of a block sequence that is not indented. -/
def entries : Nat → Reader (List Tree)
  | 0 => failure
  | fuel + 1 => do
    if ← take .blockEntry then
      let item ← nodeUnless [.blockEntry, .key, .value, .blockEnd] .block fuel
      (item :: ·) <$> entries fuel
    else pure []

/-- The entries of a block mapping. -/
def blockPairs : Nat → Reader (List Pair)
  | 0 => failure
  | fuel + 1 => do
    if ← take .key then
      let k ← nodeUnless [.key, .value, .blockEnd] .blockOrEntries fuel
      let v ←
        if ← take .value then nodeUnless [.key, .value, .blockEnd] .blockOrEntries fuel
        else pure .missing
      (Pair.mk k v :: ·) <$> blockPairs fuel
    else
      expect .blockEnd
      pure []

/-- The items of a flow sequence. A key makes a mapping of one entry; a key that is
    missing takes the token after it. -/
def flowItems (first : Bool) : Nat → Reader (List Tree)
  | 0 => failure
  | fuel + 1 => do
    if ← take .flowSequenceEnd then return []
    if !first then expect .flowEntry
    if ← take .flowSequenceEnd then return []
    let item : Tree ←
      if ← take .key then do
        let k : Tree ←
          if ← sees [.value, .flowEntry, .flowSequenceEnd] then do
            drop
            pure .missing
          else node .flow fuel
        let v : Tree ←
          if ← take .value then nodeUnless [.flowEntry, .flowSequenceEnd] .flow fuel
          else pure .missing
        pure (.mapping {} [.mk k v])
      else node .flow fuel
    (item :: ·) <$> flowItems false fuel

/-- The entries of a flow mapping. -/
def flowPairs (first : Bool) : Nat → Reader (List Pair)
  | 0 => failure
  | fuel + 1 => do
    if ← take .flowMappingEnd then return []
    if !first then expect .flowEntry
    if ← take .flowMappingEnd then return []
    let pair : Pair ←
      if ← take .key then do
        let k ← nodeUnless [.value, .flowEntry, .flowMappingEnd] .flow fuel
        let v : Tree ←
          if ← take .value then nodeUnless [.flowEntry, .flowMappingEnd] .flow fuel
          else pure .missing
        pure (.mk k v)
      else do
        let k ← node .flow fuel
        pure (.mk k .missing)
    (pair :: ·) <$> flowPairs false fuel

end

/-! ## Documents -/

/-- The directives before a document: at most one version, which must be known, and at
    most one for each handle. -/
def directives : Nat → Bool → List (String × Bytes) → Reader (List (String × Bytes))
  | 0, _, _ => failure
  | fuel + 1, versionSeen, handles => do
    match ← peek with
    | some (.version major minor) =>
      if versionSeen || major ≠ 1 || (minor ≠ 1 && minor ≠ 2) then failure
      drop
      directives fuel true handles
    | some (.tagDirective handle start) =>
      if handles.any (·.1 == handle) then failure
      drop
      directives fuel versionSeen ((handle, start) :: handles)
    | _ => pure handles

/-- The handles that need no directive. -/
def commonHandles : List (String × Bytes) :=
  [("!", Bytes.encode "!"), ("!!", Bytes.encode "tag:yaml.org,2002:")]

/-- Reads all tokens as one document; without any there is none. -/
def document (fuel : Nat) : Reader (Option Tree) := do
  match ← peek with
  | none => pure none
  | some t => do
    let explicit := match t with
      | .version .. | .tagDirective .. | .documentStart => true
      | _ => false
    let handles ← directives fuel false []
    modify ({ · with handles := handles ++ commonHandles })
    if explicit then expect .documentStart
    let ends : Bool := match ← peek with
      | none | some (.version ..) | some (.tagDirective ..) | some .documentStart
      | some .documentEnd => true
      | _ => false
    let root ← if explicit && ends then pure .missing else node .block fuel
    modify fun p => { p with tokens := p.tokens.dropWhile (· == .documentEnd) }
    if (← get).tokens.isEmpty then pure (some root) else failure

/-- The tree of the document that a list of tokens holds, or none for no document. Each
    call below a node moves over a token or is followed by one that does. -/
def Tree.ofTokens? (tokens : List Token) : Option (Option Tree) :=
  (document (3 * tokens.length + 8) { tokens }).map (·.1)

end Runbook.Yaml
