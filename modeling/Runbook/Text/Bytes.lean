/-
  Bytes and their reading as UTF-8 text.

  A byte string is cut into well-formed characters and ill-formed pieces (`Piece`),
  each ill-formed piece as long as the longest start of a character there.

  * `decode?` reads a byte string that is all well formed;
  * `decodeLossy` writes the replacement character for each ill-formed piece;
  * `encode` are the bytes of a text; `decodeLossy_encode`: they are read as that text;
  * `toUnits` is a text with one character for each byte, and `ofUnits` its bytes.
-/
import Runbook.Text.Blank

namespace Runbook

/-- A byte string. -/
abbrev Bytes := List UInt8

namespace Bytes

/-- What a byte string is made of when it is read as UTF-8. -/
inductive Piece where
  | char (c : Char)
  | illFormed
  deriving DecidableEq, Repr

/-- A byte that continues a character. -/
def continues (b : UInt8) : Bool := 0x80 ≤ b && b ≤ 0xBF

/-- The second bytes allowed after a first byte of a character of three or four bytes. -/
def followsFirst (first second : UInt8) : Bool :=
  if first == 0xE0 then 0xA0 ≤ second && second ≤ 0xBF
  else if first == 0xED then 0x80 ≤ second && second ≤ 0x9F
  else if first == 0xF0 then 0x90 ≤ second && second ≤ 0xBF
  else if first == 0xF4 then 0x80 ≤ second && second ≤ 0x8F
  else continues second

/-- The six low bits of a byte that continues a character. -/
def lowBits (b : UInt8) : Nat := b.toNat % 64

/-- The characters and ill-formed pieces of a byte string. -/
def pieces : Bytes → List Piece
  | [] => []
  | a :: as =>
    if a < 0x80 then .char (Char.ofNat a.toNat) :: pieces as
    else if 0xC2 ≤ a && a ≤ 0xDF then
      match as with
      | b :: bs =>
        if continues b then .char (Char.ofNat (a.toNat % 32 * 64 + lowBits b)) :: pieces bs
        else .illFormed :: pieces (b :: bs)
      | [] => [.illFormed]
    else if 0xE0 ≤ a && a ≤ 0xEF then
      match as with
      | b :: bs =>
        if followsFirst a b then
          match bs with
          | c :: cs =>
            if continues c then
              .char (Char.ofNat ((a.toNat % 16 * 64 + lowBits b) * 64 + lowBits c)) :: pieces cs
            else .illFormed :: pieces (c :: cs)
          | [] => [.illFormed]
        else .illFormed :: pieces (b :: bs)
      | [] => [.illFormed]
    else if 0xF0 ≤ a && a ≤ 0xF4 then
      match as with
      | b :: bs =>
        if followsFirst a b then
          match bs with
          | c :: cs =>
            if continues c then
              match cs with
              | d :: ds =>
                if continues d then
                  .char (Char.ofNat (((a.toNat % 8 * 64 + lowBits b) * 64 + lowBits c) * 64
                    + lowBits d)) :: pieces ds
                else .illFormed :: pieces (d :: ds)
              | [] => [.illFormed]
            else .illFormed :: pieces (c :: cs)
          | [] => [.illFormed]
        else .illFormed :: pieces (b :: bs)
      | [] => [.illFormed]
    else .illFormed :: pieces as

/-- The character that a piece shows in a lossy reading. -/
def Piece.shown : Piece → Char
  | .char c => c
  | .illFormed => Char.ofNat 0xFFFD

/-- The character of a well-formed piece. -/
def Piece.char? : Piece → Option Char
  | .char c => some c
  | .illFormed => none

/-- The text of a byte string, with the replacement character for what is ill formed. -/
def decodeLossy (bs : Bytes) : String := String.ofList ((pieces bs).map Piece.shown)

/-- The text of a byte string that is well formed. -/
def decode? (bs : Bytes) : Option String := ((pieces bs).mapM Piece.char?).map String.ofList

/-- The bytes of a text. -/
def encode (s : String) : Bytes := s.toUTF8.data.toList

/-! ## Reading what was written -/

theorem encode_eq (s : String) : encode s = s.toList.flatMap String.utf8EncodeChar := by
  have whole : s.toUTF8 = s.toList.utf8Encode := String.utf8Encode_toList.symm
  rw [encode, whole, List.utf8Encode, List.toList_data_toByteArray]

theorem toNat_ofNat {n : Nat} (h : n < 256) : (UInt8.ofNat n).toNat = n :=
  UInt8.toNat_ofNat_of_lt' h

theorem beq_ofNat {n : Nat} (h : n < 256) (k : UInt8) :
    (UInt8.ofNat n == k) = decide (n = k.toNat) := by
  rw [Bool.eq_iff_iff, beq_iff_eq, decide_eq_true_iff, ← UInt8.toNat_inj, toNat_ofNat h]

theorem continues_ofNat {n : Nat} (low : 128 ≤ n) (high : n ≤ 191) :
    continues (UInt8.ofNat n) = true := by
  simp [continues, UInt8.le_iff_toNat_le, toNat_ofNat (by omega : n < 256), low, high]

theorem lowBits_ofNat {n : Nat} (h : n < 256) : lowBits (UInt8.ofNat n) = n % 64 := by
  rw [lowBits, toNat_ofNat h]

theorem followsFirst_ofNat {m n : Nat} (hm : m < 256) (low : 128 ≤ n) (high : n ≤ 191)
    (h1 : m = 0xE0 → 0xA0 ≤ n) (h2 : m = 0xED → n ≤ 0x9F) (h3 : m = 0xF0 → 0x90 ≤ n)
    (h4 : m = 0xF4 → n ≤ 0x8F) : followsFirst (.ofNat m) (.ofNat n) = true := by
  have same : (UInt8.ofNat n).toNat = n := toNat_ofNat (by omega)
  have within : ∀ a b : UInt8, a.toNat ≤ n → n ≤ b.toNat →
      (decide (a ≤ UInt8.ofNat n) && decide (UInt8.ofNat n ≤ b)) = true := fun a b ha hb => by
    simp [UInt8.le_iff_toNat_le, same, ha, hb]
  simp only [followsFirst, beq_ofNat hm, decide_eq_true_iff]
  split
  · next e => exact within _ _ (h1 e) high
  · split
    · next e => exact within _ _ low (h2 e)
    · split
      · next e => exact within _ _ (h3 e) high
      · split
        · next e => exact within _ _ low (h4 e)
        · exact continues_ofNat low high

section

variable {a b c d : UInt8} {bs : Bytes}

theorem pieces_one (first : a < 0x80) :
    pieces (a :: bs) = .char (Char.ofNat a.toNat) :: pieces bs := by
  rw [pieces.eq_def]
  exact if_pos first

theorem pieces_two (first : 0xC2 ≤ a.toNat ∧ a.toNat ≤ 0xDF) (second : continues b = true) :
    pieces (a :: b :: bs) = .char (Char.ofNat (a.toNat % 32 * 64 + lowBits b)) :: pieces bs := by
  have one : ¬ a < 0x80 := by simp [UInt8.lt_iff_toNat_lt]; omega
  have two : (0xC2 ≤ a && a ≤ 0xDF) = true := by simp [UInt8.le_iff_toNat_le]; omega
  rw [pieces.eq_def]
  dsimp only
  rw [if_neg one, if_pos two, if_pos second]

theorem pieces_three (first : 0xE0 ≤ a.toNat ∧ a.toNat ≤ 0xEF) (second : followsFirst a b = true)
    (third : continues c = true) : pieces (a :: b :: c :: bs) =
      .char (Char.ofNat ((a.toNat % 16 * 64 + lowBits b) * 64 + lowBits c)) :: pieces bs := by
  have one : ¬ a < 0x80 := by simp [UInt8.lt_iff_toNat_lt]; omega
  have two : ¬ (0xC2 ≤ a && a ≤ 0xDF) = true := by simp [UInt8.le_iff_toNat_le]; omega
  have three : (0xE0 ≤ a && a ≤ 0xEF) = true := by simp [UInt8.le_iff_toNat_le]; omega
  rw [pieces.eq_def]
  dsimp only
  rw [if_neg one, if_neg two, if_pos three, if_pos second, if_pos third]

theorem pieces_four (first : 0xF0 ≤ a.toNat ∧ a.toNat ≤ 0xF4) (second : followsFirst a b = true)
    (third : continues c = true) (fourth : continues d = true) : pieces (a :: b :: c :: d :: bs) =
      .char (Char.ofNat (((a.toNat % 8 * 64 + lowBits b) * 64 + lowBits c) * 64 + lowBits d)) ::
        pieces bs := by
  have one : ¬ a < 0x80 := by simp [UInt8.lt_iff_toNat_lt]; omega
  have two : ¬ (0xC2 ≤ a && a ≤ 0xDF) = true := by simp [UInt8.le_iff_toNat_le]; omega
  have three : ¬ (0xE0 ≤ a && a ≤ 0xEF) = true := by simp [UInt8.le_iff_toNat_le]; omega
  have four : (0xF0 ≤ a && a ≤ 0xF4) = true := by simp [UInt8.le_iff_toNat_le]; omega
  rw [pieces.eq_def]
  dsimp only
  rw [if_neg one, if_neg two, if_neg three, if_pos four, if_pos second, if_pos third,
    if_pos fourth]

end

/-- **A character is read as it was written**, in one to four bytes. -/
theorem pieces_utf8 (c : Char) (bs : Bytes) :
    pieces (String.utf8EncodeChar c ++ bs) = .char c :: pieces bs := by
  have valid : c.val.toNat < 55296 ∨ 57343 < c.val.toNat ∧ c.val.toNat < 1114112 := c.valid
  have self : ∀ n, n = c.val.toNat →
      Piece.char (Char.ofNat n) :: pieces bs = .char c :: pieces bs := by
    rintro _ rfl
    exact congrArg (Piece.char · :: pieces bs) c.ofNat_toNat
  unfold String.utf8EncodeChar
  dsimp only
  generalize c.val.toNat = v at valid self ⊢
  split
  · next one =>
    have a : (UInt8.ofNat v).toNat = v := toNat_ofNat (by omega)
    refine (pieces_one ?_).trans (self _ a)
    rw [UInt8.lt_iff_toNat_lt, a]
    exact Nat.lt_succ_of_le one
  · split
    · next one two =>
      have a : (UInt8.ofNat (v / 64 % 32 + 192)).toNat = v / 64 % 32 + 192 := toNat_ofNat (by omega)
      refine (pieces_two (by omega) (continues_ofNat (by omega) (by omega))).trans (self _ ?_)
      rw [a, lowBits_ofNat (by omega)]
      omega
    · split
      · next one two three =>
        have a : (UInt8.ofNat (v / 4096 % 16 + 224)).toNat = v / 4096 % 16 + 224 :=
          toNat_ofNat (by omega)
        refine (pieces_three (by omega) (followsFirst_ofNat (by omega) (by omega) (by omega)
          (by omega) (by omega) (by omega) (by omega))
          (continues_ofNat (by omega) (by omega))).trans (self _ ?_)
        rw [a, lowBits_ofNat (by omega), lowBits_ofNat (by omega)]
        omega
      · next one two three =>
        have a : (UInt8.ofNat (v / 262144 % 8 + 240)).toNat = v / 262144 % 8 + 240 :=
          toNat_ofNat (by omega)
        refine (pieces_four (by omega) (followsFirst_ofNat (by omega) (by omega) (by omega)
          (by omega) (by omega) (by omega) (by omega)) (continues_ofNat (by omega) (by omega))
          (continues_ofNat (by omega) (by omega))).trans (self _ ?_)
        rw [a, lowBits_ofNat (by omega), lowBits_ofNat (by omega), lowBits_ofNat (by omega)]
        omega

theorem pieces_encode (cs : List Char) :
    pieces (cs.flatMap String.utf8EncodeChar) = cs.map .char := by
  induction cs with
  | nil => rfl
  | cons c cs ih => rw [List.flatMap_cons, pieces_utf8, ih, List.map_cons]

/-- **A text that was written is given back.** -/
theorem decodeLossy_encode (s : String) : decodeLossy (encode s) = s := by
  have shown : Piece.shown ∘ Piece.char = id := rfl
  rw [decodeLossy, encode_eq, pieces_encode, List.map_map, shown, List.map_id,
    String.ofList_toList]

/-- A character that breaks off is replaced, and the one behind it is read. -/
example : decodeLossy [0xE2, 0x82, 0x41] = "\uFFFDA" := by decide

/-! ## Texts of single bytes -/

/-- The text that has, for each byte, the character of that number. -/
def toUnits (bs : Bytes) : String := String.ofList (bs.map fun b => Char.ofNat b.toNat)

/-- The bytes of a text whose characters stand for one byte each. -/
def ofUnits (s : String) : Bytes := s.toList.map fun c => UInt8.ofNat c.toNat

/-- A text with one character for each of its bytes. -/
def units (s : String) : String := toUnits (encode s)

/-- The text that characters for single bytes spell. -/
def fromUnits (s : String) : String := decodeLossy (ofUnits s)

/-- The lower-case hexadecimal digit of a number below sixteen. -/
def hexDigit (n : Nat) : Char :=
  if n < 10 then Char.ofNat (48 + n) else Char.ofNat (87 + n)

/-- Two hexadecimal digits for each byte. -/
def toHex (bs : Bytes) : String :=
  String.ofList (bs.flatMap fun b => [hexDigit (b.toNat / 16), hexDigit (b.toNat % 16)])

/-- The value of a hexadecimal digit. -/
def hexValue? (c : Char) : Option Nat :=
  if '0' ≤ c ∧ c ≤ '9' then some (c.toNat - 48)
  else if 'a' ≤ c ∧ c ≤ 'f' then some (c.toNat - 87)
  else if 'A' ≤ c ∧ c ≤ 'F' then some (c.toNat - 55)
  else none

/-- The bytes written as pairs of hexadecimal digits. -/
def ofHex? : List Char → Option Bytes
  | [] => some []
  | [_] => none
  | a :: b :: rest => do
    let high ← hexValue? a
    let low ← hexValue? b
    let bytes ← ofHex? rest
    pure (UInt8.ofNat (high * 16 + low) :: bytes)

end Bytes

end Runbook
