import HttpConformance.Charset.Decode
import HttpConformance.Check.Golden
import HttpConformance.Expectation
import HttpConformance.Message.Response

/-!
# Checks of the body

What is wrong with the body of a response, one expectation after the other.

Main definitions: `Response.bodyText` and `Check.body`.
-/

namespace HttpConformance

/-- The charset under which a body is read: the one that overrides all others, or else the one that
the content type declares. -/
def Response.charset? (response : Response) (override : Option Text) : Option Text :=
  override.or (response.contentType?.bind ContentType.charset?)

/-- The body as a text. -/
def Response.bodyText (response : Response) (override : Option Text) : Text :=
  Charset.decode (response.charset? override) response.body

/-- The contents of golden resources by their paths. -/
abbrev Goldens := List (Text × Bytes)

namespace Check

/-- How many characters of a body a diagnostic shows. -/
def shownOfBody : Nat := 200

/-- The beginning of a body, as a diagnostic shows it. -/
def summarize (body : Text) : Text :=
  if body.length ≤ shownOfBody then Text.quoted body
  else Text.quoted (body.take shownOfBody) ++ "...".toList

/-- What is wrong with a body that should be as a golden resource says. -/
def golden (response : Response) (mode : MatchMode) (vars : Variables) (goldens : Goldens)
    (body path : Text) : List Diagnostic :=
  let path := vars.substitute path
  match goldens.lookup path with
  | none => [⟨.resourceNotFound, "golden resource ".toList ++ path, "not loaded".toList⟩]
  | some content =>
    match mode with
    | .exact => goldenExact vars path content response.body body
    | .substring => goldenLines vars path content body

/-- What is wrong with a body in which a line should occur. -/
def containedLine (vars : Variables) (body line : Text) : List Diagnostic :=
  let line := vars.substitute line
  if contains line body then []
  else [⟨.body, "body containing ".toList ++ Text.quoted line, summarize body⟩]

/-- What is wrong with a body in which a line should not occur. -/
def excludedLine (vars : Variables) (body line : Text) : List Diagnostic :=
  let line := vars.substitute line
  if contains line body then
    [⟨.body, "body without ".toList ++ Text.quoted line, summarize body⟩]
  else []

/-- What is wrong with a body that should be empty. -/
def emptyBody (response : Response) : List Diagnostic :=
  if response.body = [] then []
  else
    [⟨.body, "empty body".toList, Numeral.write response.body.length ++ " bytes".toList⟩]

/-- What is wrong with the body by one expectation, given the body as a text. -/
def bodyExpectation (response : Response) (mode : MatchMode) (vars : Variables)
    (goldens : Goldens) (body : Text) : BodyExpectation → List Diagnostic
  | .golden path => golden response mode vars goldens body path
  | .containsLines lines => lines.flatMap (containedLine vars body)
  | .excludesLines lines => lines.flatMap (excludedLine vars body)
  | .empty => emptyBody response

/-- What is wrong with the body. -/
def body (response : Response) (expectations : Expectations) (vars : Variables)
    (goldens : Goldens) : List Diagnostic :=
  let text := response.bodyText expectations.charsetOverride
  expectations.body.flatMap
    (bodyExpectation response expectations.matchMode vars goldens text)

end Check

end HttpConformance
