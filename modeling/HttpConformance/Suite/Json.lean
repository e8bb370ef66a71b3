import HttpConformance.Configuration.Load
import HttpConformance.Suite.Basic

/-!
# Suites as JSON

A suite file is a JSON text. The name and the cases of a suite must be given; every field of a case
may be left out.

Main definitions:

- `Suite.ofJson?` and `Suite.toJson`.
- `Suite.ofText`: a suite that can be run, or why there is none.
- `Suite.ofFile`: the same for a file, given what reading the file has yielded.
-/

namespace HttpConformance

/-! ## Fields of a case -/

/-- Reads a flag: a truth value or a text. -/
def Flag.ofJson? : Json → Option Flag
  | .bool value => some (.bool value)
  | .string word => some (.text word)
  | _ => none

/-- A flag as it is written. -/
def Flag.toJson : Flag → Json
  | .bool value => .bool value
  | .text word => .string word

namespace CookieExpectation

/-- The names of the fields, in order. -/
def fieldNames : List Text :=
  ["name".toList, "value".toList]

/-- Reads an expected cookie. Of an object the value may be left out, of an array it may not. -/
def ofJson? (json : Json) : Option CookieExpectation :=
  match json, json.fields? fieldNames with
  | .array _, some [some name, some value] =>
    return { name := ← name.text?, value := ← value.nullable? Json.text? }
  | .object _, some [name, value] =>
    return {
      name := ← Json.required Json.text? name
      value := ← Json.field none (Json.nullable? Json.text?) value }
  | _, _ => none

/-- An expected cookie with all its fields. -/
def toJson (cookie : CookieExpectation) : Json :=
  .record [("name", .string cookie.name), ("value", .ofOption .string cookie.value)]

end CookieExpectation

/-! ## Cases -/

namespace Case

/-- The names of the fields, in order. -/
def fieldNames : List Text :=
  ["name".toList, "description".toList, "request".toList, "status".toList, "any_status".toList,
    "status_message".toList, "expect_headers".toList, "unexpected_headers".toList,
    "content_type".toList, "charset".toList, "golden".toList, "expect_lines".toList,
    "unexpected_lines".toList, "expect_empty_body".toList, "exact_match".toList,
    "cookies".toList, "follow_redirects".toList, "timeout_ms".toList]

/-- Reads a text that may be left out or `null`. -/
def text? (json : Option Json) : Option (Option Text) :=
  Json.field none (Json.nullable? Json.text?) json

/-- Reads a list of lines that may be left out. -/
def lines? (json : Option Json) : Option (List Text) :=
  Json.field [] (Json.list? Json.text?) json

/-- Reads a truth value that may be left out. -/
def switch? (json : Option Json) : Option Bool :=
  Json.field false Json.bool? json

/-- Reads a case. -/
def ofJson? (json : Json) : Option Case :=
  match json.fields? fieldNames with
  | some [name, description, request, status, anyStatus, statusMessage, expectedHeaders,
      unexpectedHeaders, contentType, charset, golden, expectedLines, unexpectedLines,
      expectsEmptyBody, exactMatch, cookies, followRedirects, timeoutMs] => do
    return {
      name := ← Json.field [] Json.text? name
      description := ← text? description
      request := ← Json.field [] Json.text? request
      status := ← Json.field none (Json.nullable? Json.port?) status
      anyStatus := ← switch? anyStatus
      statusMessage := ← text? statusMessage
      expectedHeaders := ← text? expectedHeaders
      unexpectedHeaders := ← text? unexpectedHeaders
      contentType := ← text? contentType
      charset := ← text? charset
      golden := ← text? golden
      expectedLines := ← lines? expectedLines
      unexpectedLines := ← lines? unexpectedLines
      expectsEmptyBody := ← switch? expectsEmptyBody
      exactMatch := ← Json.field none (Json.nullable? Flag.ofJson?) exactMatch
      cookies := ← Json.field [] (Json.list? CookieExpectation.ofJson?) cookies
      followRedirects := ← switch? followRedirects
      timeoutMs := ← Json.field none (Json.nullable? Json.milliseconds?) timeoutMs }
  | _ => none

/-- A case with all its fields. -/
def toJson (case : Case) : Json :=
  .record [
    ("name", .string case.name),
    ("description", .ofOption .string case.description),
    ("request", .string case.request),
    ("status", .ofOption (fun code => .nat code.toNat) case.status),
    ("any_status", .bool case.anyStatus),
    ("status_message", .ofOption .string case.statusMessage),
    ("expect_headers", .ofOption .string case.expectedHeaders),
    ("unexpected_headers", .ofOption .string case.unexpectedHeaders),
    ("content_type", .ofOption .string case.contentType),
    ("charset", .ofOption .string case.charset),
    ("golden", .ofOption .string case.golden),
    ("expect_lines", .ofList .string case.expectedLines),
    ("unexpected_lines", .ofList .string case.unexpectedLines),
    ("expect_empty_body", .bool case.expectsEmptyBody),
    ("exact_match", .ofOption Flag.toJson case.exactMatch),
    ("cookies", .ofList CookieExpectation.toJson case.cookies),
    ("follow_redirects", .bool case.followRedirects),
    ("timeout_ms", .ofOption (fun limit => .nat limit.toNat) case.timeoutMs)]

end Case

/-! ## Suites -/

namespace Suite

/-- The names of the fields, in order. -/
def fieldNames : List Text :=
  ["name".toList, "variables".toList, "cases".toList]

/-- Reads a suite. -/
def ofJson? (json : Json) : Option Suite :=
  match json.fields? fieldNames with
  | some [name, vars, cases] =>
    return {
      name := ← Json.required Json.text? name
      vars := ← Json.field .empty Variables.ofJson? vars
      cases := ← Json.required (Json.list? Case.ofJson?) cases }
  | _ => none

/-- A suite with all its fields. -/
def toJson (suite : Suite) : Json :=
  .record [
    ("name", .string suite.name),
    ("variables", suite.vars.toJson),
    ("cases", .ofList Case.toJson suite.cases)]

/-! ## Loading -/

/-- Why there is no suite to run. -/
inductive LoadError where
  | malformed
  | invalid (errors : List Error)
  | unreadable (path : Text) (error : SystemError)
  | inFile (path : Text) (error : LoadError)

/-- The wording of an error. -/
def LoadError.message : LoadError → Text
  | .malformed => "Failed to parse suite".toList
  | .invalid errors => Text.join "; ".toList (errors.map Error.message)
  | .unreadable path error =>
    "Failed to read suite file '".toList ++ path ++ "': ".toList ++ error.message
  | .inFile path error => "Suite file '".toList ++ path ++ "': ".toList ++ error.message

/-- The failure that an error amounts to. -/
def LoadError.toFailure (error : LoadError) : Failure :=
  match error with
  | .unreadable _ _ => ⟨.resourceNotFound, error.message⟩
  | _ => .configuration error.message

/-- The suite that a text writes. -/
def ofText (text : Text) : Except LoadError Suite :=
  match (Json.parse? text).bind ofJson? with
  | none => .error .malformed
  | some suite => if suite.errors = [] then .ok suite else .error (.invalid suite.errors)

/-- The suite in a file, given what reading the file has yielded. -/
def ofFile (path : Text) (content : Except SystemError Bytes) : Except LoadError Suite :=
  match textOfFile content with
  | .error error => .error (.unreadable path error)
  | .ok text => (ofText text).mapError (.inFile path)

end Suite

end HttpConformance
