import HttpConformance.Json.Basic
import HttpConformance.Numeral

/-!
# Writing JSON

Two layouts of a value: on one line without blanks, and one part a line with two blanks for each
level of nesting. Inside strings the quote, the backslash and the control characters are escaped,
and everything else is written as it is.

Main definitions: `Json.compact` and `Json.pretty`.
-/

namespace HttpConformance.Json

/-- One character inside a string. -/
def writeChar (c : Char) : Text :=
  match c with
  | '"' => ['\\', '"']
  | '\\' => ['\\', '\\']
  | '\x08' => ['\\', 'b']
  | '\x0c' => ['\\', 'f']
  | '\n' => ['\\', 'n']
  | '\r' => ['\\', 'r']
  | '\t' => ['\\', 't']
  | c =>
    if c.toNat < 0x10 then ['\\', 'u', '0', '0', '0'] ++ Nat.toDigits 16 c.toNat
    else if c.toNat < 0x20 then ['\\', 'u', '0', '0'] ++ Nat.toDigits 16 c.toNat
    else [c]

/-- A string with its quotes. -/
def writeString (value : Text) : Text :=
  '"' :: value.flatMap writeChar ++ ['"']

/-- A value without parts. The two kinds of value that are never written, a number that is no
integer and a string that is no text, take the place of `null`. -/
def writeAtom : Json → Text
  | .bool true => ['t', 'r', 'u', 'e']
  | .bool false => ['f', 'a', 'l', 's', 'e']
  | .int value => Numeral.writeInt value
  | .string value => writeString value
  | _ => ['n', 'u', 'l', 'l']

/-- The name of a member. -/
def writeName (name : Option Text) : Text :=
  writeString (name.getD [])

/-! ## On one line -/

mutual

/-- The value on one line. -/
def compact : Json → Text
  | .array items => '[' :: compactItems items ++ [']']
  | .object members => '\x7b' :: compactMembers members ++ ['\x7d']
  | atom => writeAtom atom

/-- Items with commas between them. -/
def compactItems : List Json → Text
  | [] => []
  | [item] => compact item
  | item :: rest => compact item ++ ',' :: compactItems rest

/-- Members with commas between them. -/
def compactMembers : List (Option Text × Json) → Text
  | [] => []
  | [(name, value)] => writeName name ++ ':' :: compact value
  | (name, value) :: rest => writeName name ++ ':' :: compact value ++ ',' :: compactMembers rest

end

/-! ## One part a line -/

/-- The start of a line at the given level. -/
def newline (level : Nat) : Text :=
  '\n' :: List.replicate (2 * level) ' '

mutual

/-- The value, of which the first line is begun at the given level. -/
def prettyAt (level : Nat) : Json → Text
  | .array [] => ['[', ']']
  | .array items => '[' :: prettyItems (level + 1) items ++ newline level ++ [']']
  | .object [] => ['\x7b', '\x7d']
  | .object members => '\x7b' :: prettyMembers (level + 1) members ++ newline level ++ ['\x7d']
  | atom => writeAtom atom

/-- Items on lines of their own. -/
def prettyItems (level : Nat) : List Json → Text
  | [] => []
  | [item] => newline level ++ prettyAt level item
  | item :: rest => newline level ++ prettyAt level item ++ ',' :: prettyItems level rest

/-- Members on lines of their own. -/
def prettyMembers (level : Nat) : List (Option Text × Json) → Text
  | [] => []
  | [(name, value)] => newline level ++ writeName name ++ ':' :: ' ' :: prettyAt level value
  | (name, value) :: rest =>
    newline level ++ writeName name ++ ':' :: ' ' :: prettyAt level value ++
      ',' :: prettyMembers level rest

end

/-- The value, one part a line. -/
def pretty (value : Json) : Text :=
  prettyAt 0 value

end HttpConformance.Json
