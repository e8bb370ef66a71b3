import HttpConformance.Expectation
import HttpConformance.Message.Response
import HttpConformance.Substitution
import HttpConformance.Text.Lowercase
import HttpConformance.Verdict

/-!
# Checks of the head

What is wrong with the status line, the header fields and the content type of a response.

Main definitions: `Check.status`, `Check.expectedHeaders`, `Check.unexpectedHeaders` and
`Check.contentType`, each of which lists the diagnostics of its part; `headerMatches`, which decides
whether a field satisfies a predicate.
-/

namespace HttpConformance

/-! ## Matching a field -/

/-- The value of a field is the expected one: up to blanks around it, or, in substring mode, by
containing the expected one in any letter case. -/
def valueMatches (mode : MatchMode) (value expected : Text) : Bool :=
  match mode with
  | .exact => Text.trim value = Text.trim expected
  | .substring => contains (Text.lowercase (Text.trim expected)) (Text.lowercase value)

/-- The field has the name of a predicate and, if one is given, the expected value. -/
def headerMatches (mode : MatchMode) (name : Text) (expected : Option Text) (field : HeaderField) :
    Bool :=
  field.isNamed (Text.trim name) && expected.all (valueMatches mode field.value)

namespace Check

/-! ## The status line -/

/-- The status code is as expected. -/
def statusMatches (code : Nat) : StatusExpectation → Bool
  | .exact expected => code = expected.toNat
  | .success => 200 ≤ code && code ≤ 399
  | .any => true

/-- An expectation of the status code, in words. -/
def describeStatus : StatusExpectation → Text
  | .exact expected => Numeral.write expected.toNat
  | .success => "200-399".toList
  | .any => "any".toList

/-- What is wrong with the status code and the reason after it. -/
def status (response : Response) (expectations : Expectations) : List Diagnostic :=
  (if statusMatches response.code expectations.status then []
    else [⟨.status, describeStatus expectations.status, Numeral.write response.code⟩]) ++
  match expectations.statusMessage with
  | some message =>
    if response.reason = message then [] else [⟨.statusMessage, message, response.reason⟩]
  | none => []

/-! ## Header fields -/

/-- A name and a value as they stand in a head. -/
def namedValue (name value : Text) : Text :=
  name ++ ':' :: ' ' :: value

/-- What a response has under a name instead of what was expected. -/
def describeReceived (response : Response) (name : Text) : Text :=
  match response.headers name with
  | [] => "no ".toList ++ name ++ " header".toList
  | values => Text.join ", ".toList (values.map (namedValue name))

/-- What is wrong because no field satisfies a predicate. -/
def expectedHeader (response : Response) (mode : MatchMode) (vars : Variables)
    (predicate : HeaderPredicate) : List Diagnostic :=
  let expected := predicate.value.map vars.substitute
  if response.fields.any (headerMatches mode predicate.name expected) then []
  else
    [⟨.headerPresent, (expected.map (namedValue predicate.name)).getD predicate.name,
      describeReceived response predicate.name⟩]

/-- What is wrong because expected fields are missing. -/
def expectedHeaders (response : Response) (expectations : Expectations) (vars : Variables) :
    List Diagnostic :=
  expectations.expectedHeaders.flatMap (expectedHeader response expectations.matchMode vars)

/-- What was expected instead of a field, in words. -/
def describeAbsence (name : Text) : Option Text → Text
  | some value => "no ".toList ++ namedValue name value
  | none => "no ".toList ++ name ++ " header".toList

/-- What is wrong because a field satisfies a predicate that none should. -/
def unexpectedHeader (response : Response) (mode : MatchMode) (vars : Variables)
    (predicate : HeaderPredicate) : List Diagnostic :=
  let unexpected := predicate.value.map vars.substitute
  match response.fields.find? (headerMatches mode predicate.name unexpected) with
  | some field =>
    [⟨.headerAbsent, describeAbsence predicate.name unexpected, namedValue field.name field.value⟩]
  | none => []

/-- What is wrong because unexpected fields are there. -/
def unexpectedHeaders (response : Response) (expectations : Expectations) (vars : Variables) :
    List Diagnostic :=
  expectations.unexpectedHeaders.flatMap
    (unexpectedHeader response expectations.matchMode vars)

/-! ## The content type -/

/-- A Content-Type value has the expected media type and, if one is given, the expected charset, in
any letter case. -/
def contentTypeMatches (mediaType : Text) (charset : Option Text) (actual : Text) : Bool :=
  ContentType.mediaType actual == Text.lowerAscii mediaType &&
    charset.all fun expected =>
      (ContentType.charset? actual).any (Text.sameIgnoringCase · expected)

/-- A content type as it stands in a head. -/
def describeContentType (mediaType : Text) : Option Text → Text
  | some charset => mediaType ++ "; charset=".toList ++ charset
  | none => mediaType

/-- What is wrong with the content type. -/
def contentType (response : Response) (expectations : Expectations) : List Diagnostic :=
  match expectations.contentType with
  | .any => []
  | .mediaType mediaType charset =>
    let expected := describeContentType mediaType charset
    match response.contentType? with
    | none => [⟨.contentType, expected, "no Content-Type header".toList⟩]
    | some actual =>
      if contentTypeMatches mediaType charset actual then []
      else [⟨.contentType, expected, actual⟩]

end Check

end HttpConformance
