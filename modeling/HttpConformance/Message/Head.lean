import HttpConformance.Message.BlankLine
import HttpConformance.Text.Utf8
import HttpConformance.Numeral

/-!
# Response heads

Reading the head of a response far enough to know how the message is framed: its status code, its
header fields, and the interim responses that may precede it.

Main definitions:

- `HeaderField`, with the look-ups `HeaderField.first?` and `HeaderField.values`.
- `statusCodeOf?`: the status code of a status line.
- `fieldsOf`: the header fields of a head.
- `finalResponse?`: the message after all interim responses.
-/

namespace HttpConformance

/-! ## Lines -/

/-- The carriage return. -/
def cr : UInt8 := 0x0D

/-- The line feed. -/
def lf : UInt8 := 0x0A

/-- The colon after the name of a field. -/
def colon : UInt8 := 0x3A

/-- The message parted at its first blank line. -/
def partMessage? (message : Bytes) : Option (Parted UInt8) :=
  partAtBlankLine? cr lf message

/-- The lines of some bytes, each without the CR at its end. -/
def linesOf (bytes : Bytes) : List Bytes :=
  (bytes.splitOn lf).map (withoutLast cr)

/-- The bytes before the first line feed, or all of them, without the CR at the end. -/
def firstLine (bytes : Bytes) : Bytes :=
  withoutLast cr (bytes.takeWhile (· != lf))

/-- The text of some bytes without the blanks around it; malformed bytes are replaced. -/
def trimmedText (bytes : Bytes) : Text :=
  Text.trim (Utf8.decodeLossy bytes)

/-! ## Header fields -/

/-- A header field of a response. -/
structure HeaderField where
  name : Text
  value : Text
  deriving DecidableEq, Repr

namespace HeaderField

/-- The field has this name, in any letter case. -/
def isNamed (name : Text) (field : HeaderField) : Bool :=
  Text.sameIgnoringCase field.name name

/-- The value of the first field of this name. -/
def first? (name : Text) (fields : List HeaderField) : Option Text :=
  (fields.find? (·.isNamed name)).map (·.value)

/-- The values of all fields of this name, in order. -/
def values (name : Text) (fields : List HeaderField) : List Text :=
  (fields.filter (·.isNamed name)).map (·.value)

/-- A field gives one value to its own name, and none to another one. -/
theorem values_cons (name : Text) (field : HeaderField) (fields : List HeaderField) :
    values name (field :: fields) =
      if field.isNamed name then field.value :: values name fields else values name fields := by
  rw [values, List.filter_cons]
  split <;> rfl

/-- The values of a name are those of the fields that have it. -/
theorem mem_values_iff {name value : Text} {fields : List HeaderField} :
    value ∈ values name fields ↔
      ∃ field ∈ fields, field.isNamed name = true ∧ field.value = value := by
  simp [values, and_assoc]

/-- The field that a line writes, if the line has a colon. -/
def ofLine? (line : Bytes) : Option HeaderField :=
  (cutAt colon line).map fun (name, value) => ⟨trimmedText name, trimmedText value⟩

end HeaderField

/-- The header fields of a head, one for each line with a colon after the status line. -/
def fieldsOf (head : Bytes) : List HeaderField :=
  (linesOf head).tail.filterMap HeaderField.ofLine?

/-! ## Status codes -/

/-- What every version begins with. -/
def protocolName : Text := ['H', 'T', 'T', 'P', '/']

/-- The number written by exactly three ASCII digits. -/
def threeDigits? (text : Text) : Option Nat :=
  if text.length = 3 ∧ text.all Char.isDigit then some (Nat.ofDigitChars 10 text 0) else none

/-- The status code of a status line: its second word, when the first one begins like a version. A
line that is no text has none. -/
def statusCodeOf? (line : Bytes) : Option Nat :=
  match (Utf8.decode? line).map Text.words with
  | some (version :: code :: _) =>
    if protocolName.isPrefixOf version then threeDigits? code else none
  | _ => none

/-- The status code of an interim response: `1xx` other than 101, after which the connection speaks
another protocol. -/
def isInterim (code : Nat) : Bool :=
  100 ≤ code && code < 200 && code ≠ 101

/-! ## Interim responses -/

/-- The message without the interim responses before it, once its status line is complete. -/
def finalResponse? (message : Bytes) : Option Bytes :=
  match cutAt lf message with
  | none => none
  | some (line, _) =>
    if (statusCodeOf? (withoutLast cr line)).any isInterim then
      match h : partMessage? message with
      | none => none
      | some parted =>
        have := length_lt_of_partAtBlankLine? h
        finalResponse? parted.body
    else some message
termination_by message.length

end HttpConformance
