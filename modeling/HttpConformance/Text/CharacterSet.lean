/-!
# Sets of characters

A property of characters is tabulated as its ranges of code points, in ascending order.

Main definition: `CharacterSet.contains`, membership of a character.
-/

namespace HttpConformance.Text

/-- A set of characters, as ranges of code points whose ends belong to the set. -/
structure CharacterSet where
  ranges : List (Nat × Nat)

/-- The character lies in one of the ranges. -/
def CharacterSet.contains (set : CharacterSet) (c : Char) : Bool :=
  set.ranges.any fun (low, high) => low ≤ c.toNat && c.toNat ≤ high

end HttpConformance.Text
