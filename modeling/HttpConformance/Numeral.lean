import HttpConformance.Text.Basic

/-!
# Numerals

Reading and writing of whole numbers. A numeral is a run of at least one ASCII digit, after an
optional sign; a minus sign is read only where negative numbers are.

Main definitions:

- `Numeral.read`: the number, or why the text has none in range.
- `Numeral.readNat?`: a number without a minus sign, up to a bound.
- `Numeral.readHex?`: a number in hexadecimal digits, below a bound.
- `Numeral.write`: the decimal digits of a number.
-/

namespace HttpConformance.Numeral

/-- Why a text is not a number in range. -/
inductive ReadError where
  | empty
  | invalidDigit
  | tooLarge
  | tooSmall
  deriving DecidableEq, Repr

/-- The wording of a read error. -/
def ReadError.message : ReadError → Text
  | .empty => "cannot parse integer from empty string".toList
  | .invalidDigit => "invalid digit found in string".toList
  | .tooLarge => "number too large to fit in target type".toList
  | .tooSmall => "number too small to fit in target type".toList

/-- The sign of a numeral (`true` for minus) and the text after it. -/
def splitSign (signed : Bool) : Text → Bool × Text
  | '+' :: digits => (false, digits)
  | '-' :: digits => if signed then (true, digits) else (false, '-' :: digits)
  | digits => (false, digits)

/-- Reads a number from `low` to `high`. Digits are taken from the left, so a number that has left
the range already is refused for that, whatever follows. -/
def read (low high : Int) (text : Text) : Except ReadError Int :=
  if text = [] then .error .empty
  else
    let (negative, digits) := splitSign (low < 0) text
    let run := digits.takeWhile Char.isDigit
    let size : Int := Nat.ofDigitChars 10 run 0
    let number := if negative then -size else size
    if number < low then .error .tooSmall
    else if high < number then .error .tooLarge
    else if run = [] ∨ run ≠ digits then .error .invalidDigit
    else .ok number

/-- The smallest number of 64 bits with a sign. -/
def minInt64 : Int := -9223372036854775808

/-- The largest number of 64 bits with a sign. -/
def maxInt64 : Int := 9223372036854775807

/-- Reads a number from zero to `high`. -/
def readNat? (high : Nat) (text : Text) : Option Nat :=
  match read 0 high text with
  | .ok number => some number.toNat
  | .error _ => none

/-- Reads a number from `low` to `high`, if there is one. -/
def readInt? (low high : Int) (text : Text) : Option Int :=
  (read low high text).toOption

/-- Reads a port number. -/
def readPort? (text : Text) : Option UInt16 :=
  (readNat? 65535 text).map Nat.toUInt16

/-- The decimal digits of a number. -/
def write (n : Nat) : Text :=
  Nat.toDigits 10 n

/-- The decimal digits of a number after its sign, if it is negative. -/
def writeInt : Int → Text
  | .ofNat n => write n
  | .negSucc n => '-' :: write (n + 1)

/-! ## Hexadecimal -/

/-- The value of a hexadecimal digit. -/
def hexDigit? (c : Char) : Option Nat :=
  if c.isDigit then some (c.toNat - '0'.toNat)
  else if 'a' ≤ c ∧ c ≤ 'f' then some (c.toNat - 'a'.toNat + 10)
  else if 'A' ≤ c ∧ c ≤ 'F' then some (c.toNat - 'A'.toNat + 10)
  else none

/-- The value of hexadecimal digits that follow digits of value `n`. -/
def hexValue? (n : Nat) : Text → Option Nat
  | [] => some n
  | c :: rest => (hexDigit? c).bind fun d => hexValue? (16 * n + d) rest

/-- Reads a number below `bound` from at least one hexadecimal digit, after an optional `+`. -/
def readHex? (bound : Nat) (text : Text) : Option Nat :=
  let digits := (splitSign false text).2
  if digits = [] then none
  else (hexValue? 0 digits).filter (· < bound)

end HttpConformance.Numeral
