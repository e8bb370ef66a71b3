import HttpConformance.Text.Basic

/-!
# UTF-16

Two bytes make a unit, in one of two orders, and a unit is a character or half of a surrogate pair.
A half without its partner is malformed, and so is a byte left over at the end.

Main definition: `Charset.scanUtf16`.
-/

namespace HttpConformance.Charset

/-- The order of the two bytes of a unit. -/
inductive ByteOrder where
  | littleEndian
  | bigEndian
  deriving DecidableEq, Repr

/-- The unit that two bytes make. -/
def ByteOrder.unit (order : ByteOrder) (a b : UInt8) : Nat :=
  match order with
  | .littleEndian => b.toNat * 0x100 + a.toNat
  | .bigEndian => a.toNat * 0x100 + b.toNat

/-- The units of some bytes; `none` for a byte left over at the end. -/
def unitsOf (order : ByteOrder) : Bytes → List (Option Nat)
  | [] => []
  | [_] => [none]
  | a :: b :: rest => some (order.unit a b) :: unitsOf order rest

/-- The first half of a surrogate pair. -/
def isHighSurrogate (unit : Nat) : Bool :=
  0xD800 ≤ unit && unit < 0xDC00

/-- The second half of a surrogate pair. -/
def isLowSurrogate (unit : Nat) : Bool :=
  0xDC00 ≤ unit && unit < 0xE000

/-- The units as characters after a first half, if there was one just before them. -/
def scanUnits : Option Nat → List (Option Nat) → List (Option Char)
  | none, [] => []
  | some _, [] => [none]
  | _, none :: _ => [none]
  | none, some unit :: rest =>
    if isHighSurrogate unit then scanUnits (some unit) rest
    else if isLowSurrogate unit then none :: scanUnits none rest
    else some (Char.ofNat unit) :: scanUnits none rest
  | some high, some unit :: rest =>
    if isLowSurrogate unit then
      some (Char.ofNat (0x10000 + (high - 0xD800) * 0x400 + (unit - 0xDC00))) ::
        scanUnits none rest
    else if isHighSurrogate unit then none :: scanUnits (some unit) rest
    else none :: some (Char.ofNat unit) :: scanUnits none rest

/-- The bytes as characters, with `none` for each malformed place. -/
def scanUtf16 (order : ByteOrder) (bytes : Bytes) : List (Option Char) :=
  scanUnits none (unitsOf order bytes)

end HttpConformance.Charset
