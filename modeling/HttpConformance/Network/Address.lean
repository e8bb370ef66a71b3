import HttpConformance.Numeral

/-!
# Internet addresses

Reading and writing of IP addresses of both versions. In version 6 the longest run of at least two
zero groups is left out, the first of several of the same length, and an address of version 4 that
is mapped into version 6 shows its four numbers.

Main definitions: `IpAddress`, `IpAddress.parse?`, `IpAddress.render`.
-/

namespace HttpConformance

/-- An internet address. -/
inductive IpAddress where
  | v4 (octets : Vector UInt8 4)
  | v6 (groups : Vector UInt16 8)
  deriving DecidableEq, Repr

namespace IpAddress

/-- The address is of version 4. -/
def isV4 : IpAddress → Bool
  | v4 _ => true
  | v6 _ => false

/-! ## Reading -/

/-- Reads a number of version 4: at most three digits, and no zero before another digit. -/
def octet? (text : Text) : Option UInt8 :=
  if text.all Char.isDigit ∧ text.length ≤ 3 ∧ (text.head? = some '0' → text.length = 1) then
    (Numeral.readNat? 255 text).map Nat.toUInt8
  else none

/-- Reads the four numbers of an address of version 4. -/
def octets? (text : Text) : Option (List UInt8) :=
  ((text.splitOn '.').mapM octet?).filter (·.length = 4)

/-- Reads a group of version 6: one to four hexadecimal digits. -/
def group? (text : Text) : Option UInt16 :=
  if text ≠ [] ∧ text.length ≤ 4 then (Numeral.hexValue? 0 text).map Nat.toUInt16 else none

/-- Two octets as one group. -/
def groupOf (a b : UInt8) : UInt16 :=
  a.toUInt16 * 0x100 + b.toUInt16

/-- Reads the groups in the parts between colons, of which the last may be an address of version
4. -/
def groups? (v4Allowed : Bool) : List Text → Option (List UInt16)
  | [] => some []
  | [last] =>
    match group? last, octets? last with
    | some group, _ => some [group]
    | none, some [a, b, c, d] => if v4Allowed then some [groupOf a b, groupOf c d] else none
    | none, _ => none
  | part :: rest => do return (← group? part) :: (← groups? v4Allowed rest)

/-- Reads groups between colons, or no text at all. -/
def groupsOf? (v4Allowed : Bool) (text : Text) : Option (List UInt16) :=
  if text = [] then some [] else groups? v4Allowed (text.splitOn ':')

/-- Reads an address of version 6: eight groups, or fewer with two colons for the zeros left out. -/
def allGroups? (text : Text) : Option (List UInt16) :=
  match cutAtList [':', ':'] text with
  | none => groupsOf? true text
  | some (front, back) => do
    let front ← groupsOf? false front
    let back ← groupsOf? true back
    if front.length + back.length ≤ 7 then
      some (front ++ List.replicate (8 - front.length - back.length) 0 ++ back)
    else none

/-- Reads an address. -/
def parse? (text : Text) : Option IpAddress :=
  match octets? text with
  | some octets =>
    if h : octets.toArray.size = 4 then some (.v4 ⟨octets.toArray, h⟩) else none
  | none =>
    match allGroups? text with
    | some groups =>
      if h : groups.toArray.size = 8 then some (.v6 ⟨groups.toArray, h⟩) else none
    | none => none

/-! ## Writing -/

/-- The numbers of an address of version 4. -/
def renderOctets (octets : List UInt8) : Text :=
  Text.join ['.'] (octets.map fun octet => Numeral.write octet.toNat)

/-- Groups with colons between them. -/
def renderGroups (groups : List UInt16) : Text :=
  Text.join [':'] (groups.map fun group => Nat.toDigits 16 group.toNat)

/-- The number of zero groups at the front. -/
def zerosAtFront (groups : List UInt16) : Nat :=
  (groups.takeWhile (· = 0)).length

/-- The place and the length of the longest run of zero groups, the first of several. -/
def longestZeros : List UInt16 → Nat × Nat
  | [] => (0, 0)
  | group :: rest =>
    let (place, length) := longestZeros rest
    let here := zerosAtFront (group :: rest)
    if length ≤ here then (0, here) else (place + 1, length)

/-- The groups of an address of version 6. -/
def renderV6 (groups : List UInt16) : Text :=
  match groups with
  | [0, 0, 0, 0, 0, 0xFFFF, high, low] =>
    "::ffff:".toList ++ renderOctets
      [(high / 0x100).toUInt8, (high % 0x100).toUInt8, (low / 0x100).toUInt8, (low % 0x100).toUInt8]
  | groups =>
    let (place, length) := longestZeros groups
    if length ≤ 1 then renderGroups groups
    else
      renderGroups (groups.take place) ++ [':', ':'] ++ renderGroups (groups.drop (place + length))

/-- The address as a text. -/
def render : IpAddress → Text
  | v4 octets => renderOctets octets.toList
  | v6 groups => renderV6 groups.toList

end IpAddress

end HttpConformance
