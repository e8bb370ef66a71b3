import HttpConformance.Charset.DoubleByte
import HttpConformance.Charset.Table.Jis0212

/-!
# EUC-JP and ISO-2022-JP

Two more encodings of the characters of JIS X 0208. EUC-JP announces half-width katakana and the
supplementary characters of JIS X 0212 by a byte of their own before the others; ISO-2022-JP
switches between character sets by escape sequences.

Main definitions: `Charset.scanEucJp` and `Charset.scanIso2022Jp`.
-/

namespace HttpConformance.Charset

/-! ## EUC-JP -/

/-- What has been read of a character of EUC-JP. -/
inductive EucLead where
  | nothing
  | first (lead : UInt8)
  | supplementary (lead : UInt8)

/-- A byte of a character in a table of rows and cells. -/
def isRowByte (b : UInt8) : Bool :=
  0xA1 ≤ b && b ≤ 0xFE

/-- The character in the row and cell that two bytes give. -/
def inTable? (table : CodeTable) (base lead b : UInt8) : Option Char :=
  table.char? ((lead - base).toNat * 94 + (b - base).toNat)

/-- The bytes of EUC-JP as characters, with `none` for each malformed place, after what has been
read of a character. -/
def scanEucJpFrom : EucLead → Bytes → List (Option Char)
  | .nothing, [] => []
  | _, [] => [none]
  | .nothing, b :: rest =>
    if b < 0x80 then some (Char.ofNat b.toNat) :: scanEucJpFrom .nothing rest
    else if b = 0x8E ∨ b = 0x8F ∨ isRowByte b then scanEucJpFrom (.first b) rest
    else none :: scanEucJpFrom .nothing rest
  | .first lead, b :: rest =>
    if lead = 0x8E ∧ 0xA1 ≤ b ∧ b ≤ 0xDF then some (katakana b) :: scanEucJpFrom .nothing rest
    else if lead = 0x8F ∧ isRowByte b then scanEucJpFrom (.supplementary b) rest
    else if isRowByte lead ∧ isRowByte b ∧ (inTable? jis0208 0xA1 lead b).isSome then
      inTable? jis0208 0xA1 lead b :: scanEucJpFrom .nothing rest
    else none :: ((asciiChar? b).toList.map some ++ scanEucJpFrom .nothing rest)
  | .supplementary lead, b :: rest =>
    if isRowByte b ∧ (inTable? jis0212 0xA1 lead b).isSome then
      inTable? jis0212 0xA1 lead b :: scanEucJpFrom .nothing rest
    else none :: ((asciiChar? b).toList.map some ++ scanEucJpFrom .nothing rest)

/-- The bytes of EUC-JP as characters, with `none` for each malformed place. -/
def scanEucJp (bytes : Bytes) : List (Option Char) :=
  scanEucJpFrom .nothing bytes

/-! ## ISO-2022-JP -/

/-- The character sets of ISO-2022-JP. -/
inductive JisSet where
  | ascii
  | roman
  | katakana
  | double
  deriving DecidableEq

/-- The character set that an escape sequence switches to, and what follows the sequence. -/
def escape? : Bytes → Option (JisSet × Bytes)
  | 0x28 :: 0x42 :: rest => some (.ascii, rest)
  | 0x28 :: 0x4A :: rest => some (.roman, rest)
  | 0x28 :: 0x49 :: rest => some (.katakana, rest)
  | 0x24 :: 0x40 :: rest => some (.double, rest)
  | 0x24 :: 0x42 :: rest => some (.double, rest)
  | _ => none

/-- A byte that is a character in one of the single-byte sets. -/
def jisChar? (set : JisSet) (b : UInt8) : Option Char :=
  match set with
  | .double => none
  | .katakana =>
    if 0x21 ≤ b ∧ b ≤ 0x5F then some (Char.ofNat (0xFF61 + (b.toNat - 0x21))) else none
  | .ascii =>
    if 0x80 ≤ b ∨ b = 0x0E ∨ b = 0x0F then none else some (Char.ofNat b.toNat)
  | .roman =>
    if 0x80 ≤ b ∨ b = 0x0E ∨ b = 0x0F then none
    else if b = 0x5C then some '¥'
    else if b = 0x7E then some '‾'
    else some (Char.ofNat b.toNat)

/-- The bytes of ISO-2022-JP as characters in the given set, with `none` for each malformed place.
An escape sequence right after another one is malformed, and so is one that is unknown, whose bytes
after the first are read again. At most `fuel` bytes are looked at. -/
def scanIso2022JpFrom (fuel : Nat) (set : JisSet) (written : Bool) (bytes : Bytes) :
    List (Option Char) :=
  match fuel, bytes with
  | 0, _ => []
  | _, [] => []
  | fuel + 1, b :: rest =>
    if b = 0x1B then
      match escape? rest with
      | some (next, after) =>
        (if written then [] else [none]) ++ scanIso2022JpFrom fuel next false after
      | none => none :: scanIso2022JpFrom fuel set true rest
    else if set = .double ∧ 0x21 ≤ b ∧ b ≤ 0x7E then
      match rest with
      | [] => [none]
      | c :: after =>
        if c = 0x1B then none :: scanIso2022JpFrom fuel set true rest
        else if 0x21 ≤ c ∧ c ≤ 0x7E then
          inTable? jis0208 0x21 b c :: scanIso2022JpFrom fuel set true after
        else none :: scanIso2022JpFrom fuel set true after
    else jisChar? set b :: scanIso2022JpFrom fuel set true rest

/-- The bytes of ISO-2022-JP as characters, with `none` for each malformed place. -/
def scanIso2022Jp (bytes : Bytes) : List (Option Char) :=
  scanIso2022JpFrom bytes.length .ascii true bytes

end HttpConformance.Charset
