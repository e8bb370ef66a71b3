import HttpConformance.Message.Chunked

/-!
# Framing

Where the body of a response ends, as the header fields say it, and whether the bytes received so
far hold the whole response.

Main definitions: `isChunked`, `contentLength?`, `isComplete`.
-/

namespace HttpConformance

/-- The fields announce a chunked body. -/
def isChunked (fields : List HeaderField) : Bool :=
  fields.any fun field =>
    field.isNamed "Transfer-Encoding".toList &&
      contains "chunked".toList (Text.lowerAscii field.value)

/-- The largest number of bytes that a field can announce. -/
def maxContentLength : Nat := 18446744073709551615

/-- The number of bytes that the first Content-Length field announces. -/
def contentLength? (fields : List HeaderField) : Option Nat :=
  (HeaderField.first? "Content-Length".toList fields).bind fun value =>
    Numeral.readNat? maxContentLength (Text.trim value)

/-- The status codes of responses that never have a body. -/
def isBodiless (code : Nat) : Bool :=
  code = 204 || code = 304

/-- The body received so far is all that the fields announce. A malformed chunked body is as long as
it will get. -/
def isBodyComplete (fields : List HeaderField) (body : Bytes) : Bool :=
  if isChunked fields then ChunkedBody.read body ≠ .incomplete
  else (contentLength? fields).any (· ≤ body.length)

/-- The bytes hold a complete response, to a HEAD request or to another one. Without a length only
the end of the connection tells that a response is complete. -/
def isComplete (isHead : Bool) (received : Bytes) : Bool :=
  match (finalResponse? received).bind partMessage? with
  | none => false
  | some parted =>
    isHead || (statusCodeOf? (firstLine parted.head)).any isBodiless ||
      isBodyComplete (fieldsOf parted.head) parted.body

end HttpConformance
