import HttpConformance.Charset.Table.Jis0208
import HttpConformance.Charset.Table.EucKr
import HttpConformance.Charset.Table.Big5

/-!
# Encodings with up to two bytes to a character

In these encodings a byte is a character or the first of two. Where two bytes are no character, the
second one is read again if it is ASCII.

Main definitions: `Charset.DoubleByte`, with the values `shiftJis`, `eucKr` and `big5`, and
`DoubleByte.scan`.
-/

namespace HttpConformance.Charset

/-- What a byte is where a character may start. -/
inductive First where
  | character (c : Char)
  | lead
  | malformed

/-- An encoding with up to two bytes to a character: what a first byte is, and the characters that
two bytes stand for. -/
structure DoubleByte where
  first : UInt8 → First
  pair : UInt8 → UInt8 → Option Text

/-- The byte as a character, if it is ASCII. -/
def asciiChar? (b : UInt8) : Option Char :=
  if b < 0x80 then some (Char.ofNat b.toNat) else none

/-- The bytes as characters after a lead byte, with `none` for each malformed place. -/
def DoubleByte.scanFrom (encoding : DoubleByte) : Option UInt8 → Bytes → List (Option Char)
  | none, [] => []
  | some _, [] => [none]
  | none, b :: rest =>
    match encoding.first b with
    | .character c => some c :: encoding.scanFrom none rest
    | .lead => encoding.scanFrom (some b) rest
    | .malformed => none :: encoding.scanFrom none rest
  | some lead, b :: rest =>
    match encoding.pair lead b with
    | some characters => characters.map some ++ encoding.scanFrom none rest
    | none => none :: ((asciiChar? b).toList.map some ++ encoding.scanFrom none rest)

/-- The bytes as characters, with `none` for each malformed place. -/
def DoubleByte.scan (encoding : DoubleByte) (bytes : Bytes) : List (Option Char) :=
  encoding.scanFrom none bytes

/-- A first byte, when ASCII bytes are characters and those from 0x81 to 0xFE are lead bytes. -/
def firstOfTwo (b : UInt8) : First :=
  if b < 0x80 then .character (Char.ofNat b.toNat)
  else if 0x81 ≤ b ∧ b ≤ 0xFE then .lead
  else .malformed

/-! ## Shift_JIS -/

/-- A byte of half-width katakana, where 0xA1 is the first. -/
def katakana (b : UInt8) : Char :=
  Char.ofNat (0xFF61 + (b.toNat - 0xA1))

/-- The pointers of the user-defined area of Shift_JIS. -/
def isUserDefined (pointer : Nat) : Bool :=
  8836 ≤ pointer && pointer ≤ 10715

/-- The encoding Shift_JIS. -/
def shiftJis : DoubleByte where
  first b :=
    if b ≤ 0x80 then .character (Char.ofNat b.toNat)
    else if 0xA1 ≤ b ∧ b ≤ 0xDF then .character (katakana b)
    else if b = 0xA0 ∨ 0xFD ≤ b then .malformed
    else .lead
  pair lead b :=
    if (0x40 ≤ b ∧ b ≤ 0x7E) ∨ (0x80 ≤ b ∧ b ≤ 0xFC) then
      let row := lead.toNat - if lead < 0xA0 then 0x81 else 0xC1
      let pointer := row * 188 + (b.toNat - if b < 0x7F then 0x40 else 0x41)
      if isUserDefined pointer then some [Char.ofNat (0xE000 + (pointer - 8836))]
      else (jis0208.char? pointer).map ([·])
    else none

/-! ## EUC-KR -/

/-- The encoding EUC-KR with the unified Hangul code. -/
def eucKorean : DoubleByte where
  first := firstOfTwo
  pair lead b :=
    if 0x41 ≤ b ∧ b ≤ 0xFE then
      (eucKr.char? ((lead.toNat - 0x81) * 190 + (b.toNat - 0x41))).map ([·])
    else none

/-! ## Big5 -/

/-- The pairs of bytes that stand for a letter and an accent. -/
def accented : List (Nat × Text) :=
  [(1133, ['Ê', '\u0304']), (1135, ['Ê', '\u030c']), (1164, ['ê', '\u0304']),
    (1166, ['ê', '\u030c'])]

/-- The encoding Big5 with the Hong Kong supplement. -/
def bigFive : DoubleByte where
  first := firstOfTwo
  pair lead b :=
    if (0x40 ≤ b ∧ b ≤ 0x7E) ∨ (0xA1 ≤ b ∧ b ≤ 0xFE) then
      let pointer := (lead.toNat - 0x81) * 157 + (b.toNat - if b < 0x7F then 0x40 else 0x62)
      (accented.lookup pointer).or ((big5.char? pointer).map ([·]))
    else none

end HttpConformance.Charset
