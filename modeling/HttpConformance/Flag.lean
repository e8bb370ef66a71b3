import HttpConformance.Text.Quoted

/-!
# Flags

A flag is a truth value, or a word for one, in any letter case and with blanks around it.

Main definitions: `Flag`, `Flag.parse` and `Flag.value`.
-/

namespace HttpConformance

/-- A truth value, or a text that should be a word for one. -/
inductive Flag where
  | bool (value : Bool)
  | text (word : Text)
  deriving DecidableEq, Repr

namespace Flag

/-- The words for true. -/
def trueWords : List Text :=
  ["true".toList, "1".toList, "yes".toList, "on".toList]

/-- The words for false; no word at all is one of them. -/
def falseWords : List Text :=
  ["false".toList, "0".toList, "no".toList, "off".toList, []]

/-- Why a text is not a flag: the word that is neither true nor false. -/
structure Error where
  word : Text
  deriving DecidableEq, Repr

/-- The wording of the error. -/
def Error.message (error : Error) : Text :=
  "Not a boolean flag: ".toList ++ Text.quoted error.word

/-- Reads a word. -/
def parse (text : Text) : Except Error Bool :=
  let word := Text.lowerAscii (Text.trim text)
  if word ∈ trueWords then .ok true
  else if word ∈ falseWords then .ok false
  else .error ⟨word⟩

/-- The truth value of a flag. -/
def value : Flag → Except Error Bool
  | .bool value => .ok value
  | .text word => parse word

end Flag

end HttpConformance
