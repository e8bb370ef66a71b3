import HttpConformance.Message.Framing
import HttpConformance.Failure

/-!
# Responses

A response as its bytes say it: names of fields keep their letter case, repeated fields are kept,
and a chunked body is put together.

Main definitions:

- `StatusLine`, `StatusLine.parse?`.
- `foldedFields`: the header fields of some lines, where a line that starts with a blank continues
  the field before it.
- `Response`, `Response.parse`, `ResponseError`.
-/

namespace HttpConformance

/-! ## The status line -/

/-- The three parts of a status line. -/
structure StatusLine where
  version : Text
  code : Nat
  reason : Text
  deriving DecidableEq, Repr

/-- A run of at least one ASCII digit. -/
def isDigitRun (text : Text) : Bool :=
  text ≠ [] && text.all Char.isDigit

/-- A version, as in `HTTP/1.1`. -/
def isVersion (text : Text) : Bool :=
  match (protocolName.isPrefixOf? text).bind (cutAt '.') with
  | some (major, minor) => isDigitRun major && isDigitRun minor
  | none => false

/-- Reads a status line: the version, one space, three digits and, after one more space, a reason
whose blanks at both ends do not count. -/
def StatusLine.parse? (line : Text) : Option StatusLine :=
  match cutAt ' ' line with
  | none => none
  | some (version, rest) =>
    let (code, reason) := (cutAt ' ' rest).getD (rest, [])
    if isVersion version then (threeDigits? code).map (⟨version, ·, Text.trim reason⟩) else none

/-! ## Header fields -/

/-- The line continues the field before it. -/
def isContinuation (line : Bytes) : Bool :=
  line.head? = some 0x20 || line.head? = some 0x09

/-- The fields, last one first, with what one more line says. A continuation is joined to the value
before it by one space; any other line without a colon says nothing. -/
def addFieldLine (fields : List HeaderField) (line : Bytes) : List HeaderField :=
  match isContinuation line, fields with
  | true, field :: rest => { field with value := field.value ++ ' ' :: trimmedText line } :: rest
  | _, fields =>
    match HeaderField.ofLine? line with
    | some field => field :: fields
    | none => fields

/-- The header fields of the lines after a status line. -/
def foldedFields (lines : List Bytes) : List HeaderField :=
  (lines.foldl addFieldLine []).reverse

/-! ## The response -/

/-- A response, and the bytes it was read from. -/
structure Response where
  statusLine : Text
  version : Text
  code : Nat
  reason : Text
  fields : List HeaderField
  body : Bytes
  raw : Bytes
  deriving DecidableEq, Repr

/-- Why bytes are not a response. -/
inductive ResponseError where
  | empty
  | invalidStatusLine (line : Text)
  | chunksEndEarly
  | invalidChunks (error : ChunkedBody.Error)
  deriving DecidableEq, Repr

/-- How many characters of a wrong status line a message shows. -/
def shownOfStatusLine : Nat := 80

/-- The wording of an error. -/
def ResponseError.message : ResponseError → Text
  | .empty => "Server closed the connection without sending a response".toList
  | .invalidStatusLine line =>
    "No valid status line in response, got: ".toList ++ Text.quoted (line.take shownOfStatusLine)
  | .chunksEndEarly => "Chunked body ended before the last chunk".toList
  | .invalidChunks error => error.message

/-- The fault that an error is. -/
def ResponseError.fault : ResponseError → ResponseFault
  | .empty => .empty
  | .invalidStatusLine _ => .invalidStatusLine
  | .chunksEndEarly => .invalidChunkedBody
  | .invalidChunks _ => .invalidChunkedBody

/-- The failure that an error amounts to. -/
def ResponseError.toFailure (error : ResponseError) : Failure :=
  ⟨.malformedResponse error.fault, error.message⟩

namespace Response

/-- The body that the fields announce, among the bytes after the head. A body that is shorter than
announced is taken as it is. -/
def bodyOf (fields : List HeaderField) (bytes : Bytes) : Except ResponseError Bytes :=
  if isChunked fields then
    match ChunkedBody.read bytes with
    | .complete content _ => .ok content
    | .incomplete => .error .chunksEndEarly
    | .malformed error => .error (.invalidChunks error)
  else
    match contentLength? fields with
    | some length => .ok (bytes.take length)
    | none => .ok bytes

/-- The bytes of the final response among those received; all of them, when no final response has a
complete status line. -/
def selected (raw : Bytes) : Bytes :=
  (finalResponse? raw).getD raw

/-- The message parted at its blank line; without one, everything is head. -/
def partedOf (message : Bytes) : Parted UInt8 :=
  (partMessage? message).getD ⟨message, 0, []⟩

/-- Reads a response. -/
def parse (raw : Bytes) : Except ResponseError Response :=
  if raw = [] then .error .empty
  else
    let parted := partedOf (selected raw)
    let lines := linesOf parted.head
    let statusLine := Utf8.decodeLossy (lines.headD [])
    match StatusLine.parse? statusLine with
    | none => .error (.invalidStatusLine statusLine)
    | some status =>
      let fields := foldedFields lines.tail
      match bodyOf fields parted.body with
      | .error error => .error error
      | .ok body =>
        .ok ⟨statusLine, status.version, status.code, status.reason, fields, body, raw⟩

/-- The value of the first field of this name. -/
def header? (name : Text) (response : Response) : Option Text :=
  HeaderField.first? name response.fields

/-- The values of all fields of this name. -/
def headers (name : Text) (response : Response) : List Text :=
  HeaderField.values name response.fields

/-- The value of the first Content-Type field. -/
def contentType? (response : Response) : Option Text :=
  response.header? "Content-Type".toList

/-- The status code is `3xx`. -/
def isRedirect (response : Response) : Bool :=
  300 ≤ response.code && response.code < 400

end Response

end HttpConformance
