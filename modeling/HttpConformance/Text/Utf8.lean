import HttpConformance.Text.Basic

/-!
# UTF-8

Bytes are read by a machine that takes one byte at a time and keeps the character begun so far.
Where a byte cannot continue that character, the bytes read of it count as one malformed place and
the machine starts again at that byte, so every malformed place is as long as possible.

Main definitions:

- `Utf8.scan`: the characters and the malformed places of some bytes, in order.
- `Utf8.decode?`: the text, when no place is malformed.
- `Utf8.decodeLossy`: the text with U+FFFD for each malformed place.
- `Utf8.encode`: the bytes of a text.
-/

namespace HttpConformance.Utf8

/-! ## Decoding -/

/-- A character whose first bytes have been read: the number of bytes it still needs, the range of
the next one, and the value of the bits so far. -/
structure Pending where
  owed : Nat
  low : UInt8
  high : UInt8
  value : Nat
  deriving DecidableEq, Repr

/-- What a byte means where a character may start. -/
inductive Lead where
  | character (c : Char)
  | opens (pending : Pending)
  | malformed

/-- Reads the first byte of a character. -/
def lead (b : UInt8) : Lead :=
  if b < 0x80 then .character (Char.ofNat b.toNat)
  else if b < 0xC2 then .malformed
  else if b < 0xE0 then .opens ⟨1, 0x80, 0xBF, b.toNat - 0xC0⟩
  else if b = 0xE0 then .opens ⟨2, 0xA0, 0xBF, 0⟩
  else if b = 0xED then .opens ⟨2, 0x80, 0x9F, 0xD⟩
  else if b < 0xF0 then .opens ⟨2, 0x80, 0xBF, b.toNat - 0xE0⟩
  else if b = 0xF0 then .opens ⟨3, 0x90, 0xBF, 0⟩
  else if b < 0xF4 then .opens ⟨3, 0x80, 0xBF, b.toNat - 0xF0⟩
  else if b = 0xF4 then .opens ⟨3, 0x80, 0x8F, 4⟩
  else .malformed

/-- The character begun, with the six bits of one more byte. -/
def Pending.push (pending : Pending) (b : UInt8) : Pending :=
  ⟨pending.owed - 1, 0x80, 0xBF, pending.value * 64 + (b.toNat - 0x80)⟩

/-- The characters of the bytes, with `none` for each malformed place, when `pending` is the
character begun before them. -/
def scanFrom : Option Pending → Bytes → List (Option Char)
  | none, [] => []
  | some _, [] => [none]
  | none, b :: rest =>
    match lead b with
    | .character c => some c :: scanFrom none rest
    | .opens pending => scanFrom (some pending) rest
    | .malformed => none :: scanFrom none rest
  | some pending, b :: rest =>
    if pending.low ≤ b ∧ b ≤ pending.high then
      if pending.owed ≤ 1 then some (Char.ofNat (pending.push b).value) :: scanFrom none rest
      else scanFrom (some (pending.push b)) rest
    else
      match lead b with
      | .character c => none :: some c :: scanFrom none rest
      | .opens next => none :: scanFrom (some next) rest
      | .malformed => none :: none :: scanFrom none rest

/-- The characters of the bytes, with `none` for each malformed place. -/
def scan (bytes : Bytes) : List (Option Char) :=
  scanFrom none bytes

/-- The text that the bytes encode, if they are well formed throughout. -/
def decode? (bytes : Bytes) : Option Text :=
  if (scan bytes).all Option.isSome then some ((scan bytes).filterMap id) else none

/-- The character that stands for a malformed place. -/
def replacement : Char := '\ufffd'

/-- The text that the bytes encode, with `replacement` for each malformed place. -/
def decodeLossy (bytes : Bytes) : Text :=
  (scan bytes).map (·.getD replacement)

/-! ## Encoding -/

/-- The bytes of one character. -/
def encodeChar (c : Char) : Bytes :=
  let n := c.toNat
  if n < 0x80 then [n.toUInt8]
  else if n < 0x800 then [(0xC0 + n / 0x40).toUInt8, (0x80 + n % 0x40).toUInt8]
  else if n < 0x10000 then
    [(0xE0 + n / 0x1000).toUInt8, (0x80 + n / 0x40 % 0x40).toUInt8, (0x80 + n % 0x40).toUInt8]
  else
    [(0xF0 + n / 0x40000).toUInt8, (0x80 + n / 0x1000 % 0x40).toUInt8,
      (0x80 + n / 0x40 % 0x40).toUInt8, (0x80 + n % 0x40).toUInt8]

/-- The bytes of a text. -/
def encode (text : Text) : Bytes :=
  text.flatMap encodeChar

/-- One character of each length reads back. -/
example : decode? (encode ['a', 'é', '€', '😀']) = some ['a', 'é', '€', '😀'] := by decide +kernel

/-- A surrogate, an overlong form and a cut character are malformed at every one of their bytes
that no character can start with. -/
example : scan [0xED, 0xA0, 0x80, 0xC0, 0x41, 0xE2, 0x82] =
    [none, none, none, none, some 'A', none] := by decide +kernel

end HttpConformance.Utf8
