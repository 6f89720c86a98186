/-
  The tokens of a YAML text, and how tags, anchors and directives are read.

  Block collections are announced by tokens of their own: their start, their end, and
  the keys of block mappings have tokens that stand for no character of the text.

  A tag is a handle and a rest. The rest is a URI; an escape in it gives a byte of its
  text, and the tag ends before a null byte. A tag between angle brackets has the empty
  handle and stands for itself.
-/
import Runbook.Text.Bytes
import Runbook.Yaml.Cursor

namespace Runbook.Yaml

/-! ## Tokens -/

/-- A token. -/
inductive Token where
  | version (major minor : Nat)
  /-- A directive: tags with this handle start with these bytes. -/
  | tagDirective (handle : String) (start : Bytes)
  | documentStart
  | documentEnd
  | blockSequenceStart
  | blockMappingStart
  | blockEnd
  | flowSequenceStart
  | flowSequenceEnd
  | flowMappingStart
  | flowMappingEnd
  | blockEntry
  | flowEntry
  | key
  | value
  | alias (name : String)
  | anchor (name : String)
  | tag (handle : String) (rest : Bytes)
  | scalar (text : String) (plain : Bool)
  deriving DecidableEq, Repr

/-! ## Tags -/

/-- A character of a URI. In a tag with a handle the punctuation of flow collections
    is not part of it. -/
def isUriChar (verbatim : Bool) (c : Char) : Bool :=
  isNameChar c || ";/?:@&=+$.!~*'()%".contains c || (verbatim && ",[]".contains c)

/-- The number of bytes in a character whose first byte is given. -/
def utf8Width? (b : UInt8) : Option Nat :=
  if b < 0x80 then some 1
  else if b &&& 0xE0 == 0xC0 then some 2
  else if b &&& 0xF0 == 0xE0 then some 3
  else if b &&& 0xF8 == 0xF0 then some 4
  else none

/-- A byte written as a percent sign and two digits. -/
def scanUriByte : Scan UInt8 := do
  match (← get).rest with
  | '%' :: a :: b :: _ => do
    let hi ← Bytes.hexValue? a
    let lo ← Bytes.hexValue? b
    Scan.skip 3
    pure (UInt8.ofNat (hi * 16 + lo))
  | _ => failure

/-- The further bytes of a character, `n` of them. -/
def scanUriTail : Nat → Scan Bytes
  | 0 => pure []
  | n + 1 => do
    let b ← scanUriByte
    Scan.require (b &&& 0xC0 == 0x80)
    let bs ← scanUriTail n
    pure (b :: bs)

/-- The bytes of a URI. -/
def scanUri (verbatim : Bool) : Nat → Bytes → Scan Bytes
  | 0, _ => failure
  | fuel + 1, uri => do
    let c ← get
    if c.sees '%' then do
      let b ← scanUriByte
      let tail ← scanUriTail ((← utf8Width? b) - 1)
      scanUri verbatim fuel (uri ++ b :: tail)
    else if c.seesAny (isUriChar verbatim) then do
      let word ← Scan.takeWhile fun x => x != '%' && isUriChar verbatim x
      scanUri verbatim fuel (uri ++ Bytes.encode (String.ofList word))
    else pure uri

/-- The bytes before the first null byte. -/
def untilNull (bs : Bytes) : Bytes := bs.takeWhile (· != 0)

/-- A URI that stands alone; it is not empty. -/
def scanWholeUri (verbatim : Bool) : Scan Bytes := do
  let uri ← scanUri verbatim ((← get).rest.length + 1) []
  Scan.require !uri.isEmpty
  pure (untilNull uri)

/-- An exclamation mark, a name, and the second mark if there is one. -/
def scanHandle : Scan (List Char) := do
  Scan.require ((← get).sees '!')
  Scan.skip 1
  let name ← Scan.takeWhile isNameChar
  if (← get).sees '!' then do
    Scan.skip 1
    pure ('!' :: name ++ ['!'])
  else pure ('!' :: name)

/-- A tag. It ends at white space, or in a flow collection before a comma. -/
def scanTag (flow : Bool) : Scan Token := do
  let tag : Token ←
    if (← get).ahead 1 == some '<' then do
      Scan.skip 2
      let uri ← scanWholeUri true
      Scan.require ((← get).sees '>')
      Scan.skip 1
      pure (.tag "" uri)
    else do
      let handle ← scanHandle
      if handle.length > 1 && handle.getLast? == some '!' then do
        let uri ← scanWholeUri false
        pure (.tag (String.ofList handle) uri)
      else do
        let uri ← scanUri false ((← get).rest.length + 1) []
        let rest := Bytes.encode (String.ofList (handle.drop 1)) ++ untilNull uri
        pure (if rest.isEmpty then .tag "" (Bytes.encode "!") else .tag "!" rest)
  let c ← get
  Scan.require ((flow && c.sees ',') || c.wordEndsAt 0)
  pure tag

/-! ## Anchors and aliases -/

/-- The name of an anchor or an alias, after its mark. -/
def scanAnchorName : Scan String := do
  Scan.skip 1
  let name ← Scan.takeWhile isNameChar
  let c ← get
  Scan.require (!name.isEmpty && (c.wordEndsAt 0 || c.seesAny ("?:,]\x7d%@\x60".contains ·)))
  pure (String.ofList name)

/-! ## Directives -/

/-- One to nine digits. -/
def scanVersionPart : Scan Nat := do
  let ds ← Scan.takeWhile Char.isDigit
  Scan.require (1 ≤ ds.length && ds.length ≤ 9)
  pure (ds.foldl (fun n d => n * 10 + (d.toNat - 48)) 0)

/-- A directive, from its percent sign on. -/
def scanDirective : Scan Token := do
  Scan.skip 1
  let name ← Scan.takeWhile isNameChar
  Scan.require ((← get).wordEndsAt 0)
  Scan.skipBlanks
  let directive : Token ←
    if String.ofList name = "YAML" then do
      let major ← scanVersionPart
      Scan.require ((← get).sees '.')
      Scan.skip 1
      let minor ← scanVersionPart
      pure (.version major minor)
    else if String.ofList name = "TAG" then do
      let handle ← scanHandle
      Scan.require (handle.length == 1 || handle.getLast? == some '!')
      Scan.require ((← get).seesAny isBlank)
      Scan.skipBlanks
      let uri ← scanWholeUri true
      Scan.require ((← get).wordEndsAt 0)
      pure (.tagDirective (String.ofList handle) uri)
    else failure
  Scan.restOfLine
  pure directive

end Runbook.Yaml
