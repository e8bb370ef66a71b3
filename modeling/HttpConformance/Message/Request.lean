import HttpConformance.Cookie.RequestHeader
import HttpConformance.Failure
import HttpConformance.Message.Head

/-!
# Requests

A request is sent as it is written: nothing is added to it and nothing is put in order, so that
malformed requests can be sent as well. A verbatim request is nothing but its bytes.

Main definitions:

- `RequestField`: a line of the head, with everything after the colon as written.
- `Request`, with `Request.parse`, `Request.verbatimOf` and `Request.wire`.
-/

namespace HttpConformance

/-! ## Fields -/

/-- A line of a request's head. The value is everything after the colon, blanks included; a line
without a colon has none. -/
structure RequestField where
  name : Text
  rawValue : Option Text
  deriving DecidableEq, Repr

namespace RequestField

/-- A field with one blank between the colon and the value. -/
def ofValue (name value : Text) : RequestField :=
  ⟨name, some (' ' :: value)⟩

/-- The field that a line writes. -/
def ofLine (line : Text) : RequestField :=
  match cutAt ':' line with
  | some (name, value) => ⟨name, some value⟩
  | none => ⟨line, none⟩

/-- The value without the blanks around it. -/
def value? (field : RequestField) : Option Text :=
  field.rawValue.map Text.trim

/-- The field as a line. -/
def render (field : RequestField) : Text :=
  match field.rawValue with
  | some value => field.name ++ ':' :: value
  | none => field.name

end RequestField

/-! ## Requests -/

/-- A request: its first line, the fields after it, and a body. A request with `verbatim` bytes is
sent as these bytes, and the other parts are only what can be read from them. -/
structure Request where
  line : Text
  fields : List RequestField
  body : Option Bytes
  verbatim : Option Bytes
  deriving DecidableEq, Repr

/-- Why a text is not a request. -/
inductive RequestError where
  | noRequestLine
  deriving DecidableEq, Repr

/-- The wording of an error. -/
def RequestError.message : RequestError → Text
  | .noRequestLine => "Request text has no request line".toList

/-- The failure that an error amounts to. -/
def RequestError.toFailure (error : RequestError) : Failure :=
  .configuration error.message

namespace Request

/-- The request with the given first line and nothing else. -/
def ofLine (line : Text) : Request :=
  ⟨line, [], none, none⟩

/-- The request with the given method, target and version; an empty version is left out. -/
def make (method target version : Text) : Request :=
  .ofLine (method ++ ' ' :: target ++ if version = [] then [] else ' ' :: version)

/-- A character of a line break. -/
def isBreak (c : Char) : Bool :=
  c == '\r' || c == '\n'

/-- The head of a request text and the body after its blank line. Without a blank line everything
is head, and the line breaks at its end do not count. -/
def partText (text : Text) : Text × Text :=
  match partAtBlankLine? '\r' '\n' text with
  | some parted => (parted.head, parted.body)
  | none => (dropEndWhile isBreak text, [])

/-- The lines of a head, each without the CR at its end. -/
def headLines (head : Text) : List Text :=
  (head.splitOn '\n').map (withoutLast '\r')

/-- Reads a request text. Empty lines of the head and an empty body count for nothing. -/
def parse (text : Text) : Except RequestError Request :=
  let (head, body) := partText text
  let lines := headLines head
  let line := lines.headD []
  if Text.isAllBlank line then .error .noRequestLine
  else
    .ok {
      line
      fields := (lines.tail.filter (· ≠ [])).map RequestField.ofLine
      body := if body = [] then none else some (Utf8.encode body)
      verbatim := none }

/-- The request that is sent as the given bytes. Its parts are read from the bytes as text. -/
def verbatimOf (bytes : Bytes) : Request :=
  let read := (parse (Utf8.decodeLossy bytes)).toOption.getD (.ofLine [])
  { read with verbatim := some bytes }

/-- The request with one more field. -/
def withField (name value : Text) (request : Request) : Request :=
  { request with fields := request.fields ++ [RequestField.ofValue name value] }

/-- The request with the given body. -/
def withBody (body : Bytes) (request : Request) : Request :=
  { request with body := some body }

/-- The request with a cookie sent back to the server. -/
def withCookie (cookie : Cookie) (request : Request) : Request :=
  request.withField "Cookie".toList cookie.render

/-- The word of the first line at the given place, empty if there are not so many. -/
def word (place : Nat) (request : Request) : Text :=
  ((Text.words request.line)[place]?).getD []

/-- The method, the first word of the first line. -/
def method (request : Request) : Text :=
  request.word 0

/-- The target, the second word of the first line. -/
def target (request : Request) : Text :=
  request.word 1

/-- The version, the third word of the first line. -/
def version (request : Request) : Text :=
  request.word 2

/-- The value of the first field of this name, in any letter case. -/
def header? (name : Text) (request : Request) : Option Text :=
  (request.fields.find? fun field => Text.sameIgnoringCase field.name name).bind (·.value?)

/-- The request asks for a head only, so its response has no body. -/
def isHead (request : Request) : Bool :=
  request.method = ['H', 'E', 'A', 'D']

/-- The request is sent as bytes given once for all. -/
def isVerbatim (request : Request) : Bool :=
  request.verbatim.isSome

/-- A line as it is sent. -/
def wireLine (line : Text) : Bytes :=
  Utf8.encode line ++ [cr, lf]

/-- The bytes that are sent. -/
def wire (request : Request) : Bytes :=
  match request.verbatim with
  | some bytes => bytes
  | none =>
    wireLine request.line ++ request.fields.flatMap (fun field => wireLine field.render) ++
      [cr, lf] ++ request.body.getD []

end Request

end HttpConformance
