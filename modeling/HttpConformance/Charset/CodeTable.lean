import HttpConformance.Text.Basic

/-!
# Code tables

The characters of an encoding with many bytes to a character are numbered by pointers. A table holds
them in blocks of 48; a space takes the place of a pointer without character, and blocks without
characters are left out.

Main definition: `CodeTable.char?`.
-/

namespace HttpConformance.Charset

/-- The number of pointers in a block. -/
def blockSize : Nat := 48

/-- The characters of a character set, by block number. -/
structure CodeTable where
  blocks : List (Nat × String)

/-- The character of a pointer. -/
def CodeTable.char? (table : CodeTable) (pointer : Nat) : Option Char :=
  match table.blocks.lookup (pointer / blockSize) with
  | none => none
  | some block => (block.toList[pointer % blockSize]?).filter (· ≠ ' ')

end HttpConformance.Charset
