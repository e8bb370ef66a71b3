/-!
# Text and bytes

Text is a list of characters and a message on the wire is a list of bytes, so that every reader of
this library is a function on lists and hands back the part it has not read.

Main definitions:

- `Text.trim`, `Text.words`: the two readings of blanks, over the Unicode property White_Space.
- `cutAt`: the parts before and after the first separator.
- `cutAtList`, `contains`, `indexOf?`: occurrences of one list inside another.
- `Text.lowerAscii`, `Text.sameIgnoringCase`: letter case, of the ASCII letters alone.
-/

namespace HttpConformance

/-- A text, character by character. -/
abbrev Text := List Char

/-- A message as it travels, byte by byte. -/
abbrev Bytes := List UInt8

/-! ## Cutting lists -/

section Lists

variable {α : Type}

/-- What precedes and what follows the first `separator`, when there is one. -/
def cutAt [DecidableEq α] (separator : α) (items : List α) : Option (List α × List α) :=
  match items.dropWhile (· != separator) with
  | [] => none
  | _ :: rest => some (items.takeWhile (· != separator), rest)

/-- What follows a separator is shorter than the whole. -/
theorem length_lt_of_cutAt [DecidableEq α] {separator : α} {items front rest : List α}
    (h : cutAt separator items = some (front, rest)) : rest.length < items.length := by
  have hle := (items.dropWhile_sublist (· != separator)).length_le
  unfold cutAt at h
  split at h
  · exact absurd h (by simp)
  · rename_i hdrop
    rw [hdrop] at hle
    simp only [Option.some.injEq, Prod.mk.injEq] at h
    rw [← h.2]
    exact hle

/-- The list without the items at its end that `drops` picks. -/
def dropEndWhile (drops : α → Bool) (items : List α) : List α :=
  (items.reverse.dropWhile drops).reverse

/-- The list without `last`, if it ends in it. -/
def withoutLast [DecidableEq α] (last : α) (items : List α) : List α :=
  if items.getLast? = some last then items.dropLast else items

/-- What precedes and what follows the first occurrence of `needle`. -/
def cutAtList [DecidableEq α] (needle : List α) : List α → Option (List α × List α)
  | [] => (needle.isPrefixOf? []).map ([], ·)
  | a :: rest =>
    match needle.isPrefixOf? (a :: rest) with
    | some tail => some ([], tail)
    | none => (cutAtList needle rest).map fun (front, tail) => (a :: front, tail)

/-- Whether `needle` occurs in the list. -/
def contains [DecidableEq α] (needle items : List α) : Bool :=
  (cutAtList needle items).isSome

/-- Where a non-empty `needle` first occurs. -/
def indexOf? [DecidableEq α] (needle items : List α) : Option Nat :=
  if needle = [] then none else (cutAtList needle items).map (·.1.length)

end Lists

namespace Text

/-! ## Blanks -/

/-- The Unicode property White_Space. -/
def isBlank (c : Char) : Bool :=
  let n := c.toNat
  (0x9 ≤ n && n ≤ 0xD) || n == 0x20 || n == 0x85 || n == 0xA0 || n == 0x1680 ||
    (0x2000 ≤ n && n ≤ 0x200A) || n == 0x2028 || n == 0x2029 || n == 0x202F || n == 0x205F ||
    n == 0x3000

/-- The text without the blanks at its two ends. -/
def trim (text : Text) : Text :=
  dropEndWhile isBlank (text.dropWhile isBlank)

/-- The text has nothing but blanks. -/
def isAllBlank (text : Text) : Bool :=
  text.all isBlank

/-- The longest parts without blanks, in order. -/
def words (text : Text) : List Text :=
  (text.splitOnP isBlank).filter (· ≠ [])

/-! ## Case -/

/-- ASCII letters in lower case, all else unchanged. -/
def lowerAscii (text : Text) : Text :=
  text.map Char.toLower

/-- ASCII letters in upper case, all else unchanged. -/
def upperAscii (text : Text) : Text :=
  text.map Char.toUpper

/-- Equal but for the case of ASCII letters. -/
def sameIgnoringCase (a b : Text) : Bool :=
  lowerAscii a == lowerAscii b

/-! ## Joining and replacing -/

/-- The parts one after the other with `separator` between neighbours. -/
def join (separator : Text) (parts : List Text) : Text :=
  separator.intercalate parts

/-- Every `old` becomes `new`. -/
def replaceChar (old new : Char) (text : Text) : Text :=
  text.map fun c => if c = old then new else c

end Text

end HttpConformance
