import HttpConformance.Charset.Encoding
import HttpConformance.ContentType

/-!
# Decoding bodies

The text of a body under the label of a charset. A few labels are read strictly: under the names of
ISO-8859-1 every byte is the character of the same value, and under the names of US-ASCII a byte
from 0x80 on is malformed. An unknown label means UTF-8. Without a label a body is UTF-8 if it is
well formed, and ISO-8859-1 otherwise.

Main definitions: `Charset.decode` and `Charset.remark?`.
-/

namespace HttpConformance.Charset

/-- Every byte as the character of the same value. -/
def decodeLatin1 (bytes : Bytes) : Text :=
  bytes.map fun b => Char.ofNat b.toNat

/-- How a label is understood. -/
inductive Meaning where
  | utf8
  | latin1
  | ascii
  | encoding (encoding : Encoding)
  | unknown

/-- The part of a label that counts: without blanks and quotes around it, in lower case. -/
def keyOf (label : Text) : Text :=
  Text.lowerAscii (ContentType.trimQuotes (Text.trim label))

/-- The labels of UTF-8 that are known without the table of encodings. -/
def utf8Labels : List Text :=
  ["utf-8".toList, "utf8".toList]

/-- The labels under which every byte is a character. -/
def latin1Labels : List Text :=
  ["iso-8859-1".toList, "iso8859-1".toList, "iso_8859-1".toList, "latin1".toList, "l1".toList]

/-- The labels under which only ASCII bytes are characters. -/
def asciiLabels : List Text :=
  ["us-ascii".toList, "ascii".toList]

/-- How a label is understood. -/
def Meaning.ofLabel (label : Text) : Meaning :=
  let key := keyOf label
  if utf8Labels.contains key then .utf8
  else if latin1Labels.contains key then .latin1
  else if asciiLabels.contains key then .ascii
  else
    match Encoding.ofLabel? key with
    | some found => .encoding found
    | none => .unknown

/-- The text of some characters and malformed places. -/
def textOfScan (scan : List (Option Char)) : Text :=
  scan.map (·.getD Utf8.replacement)

/-- The text of some bytes under a label, if there is one. -/
def decode (label : Option Text) (bytes : Bytes) : Text :=
  match label with
  | none => (Utf8.decode? bytes).getD (decodeLatin1 bytes)
  | some label =>
    match Meaning.ofLabel label with
    | .utf8 | .unknown => Utf8.decodeLossy bytes
    | .latin1 => decodeLatin1 bytes
    | .ascii => textOfScan (bytes.map asciiChar?)
    | .encoding found => textOfScan (found.scan bytes)

/-- What is remarkable about decoding some bytes under a label: that the label is unknown, or that
some bytes were malformed in the encoding it stands for. -/
def remark? (label : Option Text) (bytes : Bytes) : Option Text :=
  label.bind fun label =>
    match Meaning.ofLabel label with
    | .unknown =>
      some ("Unsupported charset '".toList ++ keyOf label ++ "', decoding body as UTF-8".toList)
    | .encoding found =>
      if (found.scan bytes).all Option.isSome then none
      else
        some ("Body is not valid ".toList ++ found.name.toList ++
          ", undecodable bytes were replaced".toList)
    | _ => none

end HttpConformance.Charset
