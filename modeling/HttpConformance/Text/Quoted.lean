import HttpConformance.Text.Basic
import HttpConformance.Text.Printable
import HttpConformance.Text.GraphemeExtend

/-!
# Quoted text

How a text is shown inside a message: between double quotes, with everything that a reader could
not see or could misread written as an escape.

Main definitions: `Text.quoted` for one text, `Text.quotedList` for several.
-/

namespace HttpConformance.Text

/-- An escape that gives the code point in hexadecimal, as in `\u{a0}`. -/
def escapeByCode (c : Char) : Text :=
  ['\\', 'u', '\x7b'] ++ Nat.toDigits 16 c.toNat ++ ['\x7d']

/-- The half-width sound marks of Katakana. They take a place of their own, although Unicode counts
them among the characters that extend a grapheme. -/
def soundMarks : CharacterSet := ⟨[(0xFF9E, 0xFF9F)]⟩

/-- The character is a mark without a place of its own, shown on the character before it. -/
def isAttached (c : Char) : Bool :=
  graphemeExtend.contains c && !soundMarks.contains c

/-- One character between the quotes. A mark that would attach to the character before it is written
by its code. -/
def quotedChar (c : Char) : Text :=
  match c with
  | '\x00' => ['\\', '0']
  | '\t' => ['\\', 't']
  | '\r' => ['\\', 'r']
  | '\n' => ['\\', 'n']
  | '"' => ['\\', '"']
  | '\\' => ['\\', '\\']
  | c => if isPrintable c && !isAttached c then [c] else escapeByCode c

/-- The text between double quotes. -/
def quoted (text : Text) : Text :=
  '"' :: text.flatMap quotedChar ++ ['"']

/-- Several quoted texts in square brackets. -/
def quotedList (texts : List Text) : Text :=
  '[' :: join [',', ' '] (texts.map quoted) ++ [']']

end HttpConformance.Text
