import HttpConformance.Check.Evaluate
import HttpConformance.Proofs.ContentType

/-!
# What a test requires

The expectations of a test, one requirement after the other, and what it means that a response meets
each of them, said without the checks that look for it.

Main definitions: `Requirement`, `Expectations.requirements`, `Requirement.Holds`,
`Requirement.kind`.

Main results: `isOfContentType_iff` and `Requirement.holds_cookie_iff`, which say of a value and of
the fields of a response what is required of them.
-/

namespace HttpConformance

/-! ## Parts of a response -/

/-- A status code is as expected. -/
def StatusExpectation.Allows : StatusExpectation → Nat → Prop
  | .exact expected, code => code = expected.toNat
  | .success, code => 200 ≤ code ∧ code ≤ 399
  | .any, _ => True

instance (expectation : StatusExpectation) (code : Nat) : Decidable (expectation.Allows code) :=
  match expectation with
  | .exact expected => inferInstanceAs (Decidable (code = expected.toNat))
  | .success => inferInstanceAs (Decidable (200 ≤ code ∧ code ≤ 399))
  | .any => inferInstanceAs (Decidable True)

/-- A value is the expected one up to the blanks around both, or contains it in any letter case. -/
def MatchMode.Accepts : MatchMode → Text → Text → Prop
  | .exact, value, expected => Text.trim value = Text.trim expected
  | .substring, value, expected => Text.lowercase (Text.trim expected) <:+: Text.lowercase value

instance (mode : MatchMode) (value expected : Text) : Decidable (mode.Accepts value expected) :=
  match mode with
  | .exact => inferInstanceAs (Decidable (Text.trim value = Text.trim expected))
  | .substring =>
    inferInstanceAs (Decidable (Text.lowercase (Text.trim expected) <:+: Text.lowercase value))

/-- A field has the name of a predicate and, if one is given, its value, once the placeholders in it
are filled. -/
def HeaderPredicate.IsSatisfiedBy (mode : MatchMode) (vars : Variables)
    (predicate : HeaderPredicate) (field : HeaderField) : Prop :=
  field.isNamed (Text.trim predicate.name) = true ∧
    ∀ value ∈ predicate.value, mode.Accepts field.value (vars.substitute value)

instance (mode : MatchMode) (vars : Variables) (predicate : HeaderPredicate)
    (field : HeaderField) : Decidable (predicate.IsSatisfiedBy mode vars field) :=
  inferInstanceAs (Decidable (_ ∧ _))

/-- A Content-Type value has a media type and, if one is given, a charset, in any ASCII letter
case. -/
def IsOfContentType (mediaType : Text) (charset : Option Text) (actual : Text) : Prop :=
  ContentType.mediaType actual = Text.lowerAscii mediaType ∧
    ∀ expected ∈ charset, ∃ declared ∈ ContentType.charset? actual,
      Text.sameIgnoringCase declared expected = true

instance (mediaType : Text) (charset : Option Text) (actual : Text) :
    Decidable (IsOfContentType mediaType charset actual) :=
  inferInstanceAs (Decidable (_ ∧ _))

/-- What stands before the first semicolon of the value is the media type, up to the blanks around
it, and the charset that the value declares is the given one, both in any ASCII letter case. -/
theorem isOfContentType_iff {mediaType actual : Text} {charset : Option Text} :
    IsOfContentType mediaType charset actual ↔
      Text.sameIgnoringCase (Text.trim (actual.takeWhile (· != ';'))) mediaType = true ∧
        ∀ expected ∈ charset, ∃ declared, ContentType.Declares actual declared ∧
          Text.sameIgnoringCase declared expected = true := by
  simp only [IsOfContentType, ContentType.mediaType_eq_lowerAscii_iff, Option.mem_def,
    ContentType.charset?_eq_some_iff]

/-- A cookie has the expected name and, if one is given, the expected value, once the placeholders
in it are filled. -/
def CookieExpectation.IsSatisfiedBy (vars : Variables) (expectation : CookieExpectation)
    (cookie : Cookie) : Prop :=
  cookie.name = expectation.name ∧
    ∀ value ∈ expectation.value, cookie.value = vars.substitute value

instance (vars : Variables) (expectation : CookieExpectation) (cookie : Cookie) :
    Decidable (expectation.IsSatisfiedBy vars cookie) :=
  inferInstanceAs (Decidable (_ ∧ _))

/-! ## Golden resources -/

/-- A text with every line break written as one LF, and none at its end. -/
def normalText (text : Text) : Text :=
  dropEndWhile (· == '\n') (Check.unifyBreaks text)

/-- A body is the expected content: the same text up to the spelling of line breaks, or, when the
content is no text, the same bytes. -/
def IsContent (expected received : Bytes) (body : Text) : Prop :=
  (∀ text ∈ Utf8.decode? expected, normalText text = normalText body) ∧
    (Utf8.decode? expected = none → received = expected)

instance (expected received : Bytes) (body : Text) : Decidable (IsContent expected received body) :=
  inferInstanceAs (Decidable (_ ∧ _))

/-- A body contains every line of a text that is not blank, without the blanks around it. -/
def ContainsLinesOf (text body : Text) : Prop :=
  ∀ line ∈ text.splitOn '\n', Text.trim line ≠ [] → Text.trim line <:+: body

instance (text body : Text) : Decidable (ContainsLinesOf text body) :=
  inferInstanceAs (Decidable (∀ line ∈ text.splitOn '\n', _))

/-- A body is as the content of a golden resource says, once the placeholders in it are filled. -/
def AgreesWithGolden : MatchMode → Variables → Bytes → Bytes → Text → Prop
  | .exact, vars, content, received, body => IsContent (vars.substituteBytes content) received body
  | .substring, vars, content, _, body =>
    ContainsLinesOf (vars.substitute (Utf8.decodeLossy content)) body

instance (mode : MatchMode) (vars : Variables) (content received : Bytes) (body : Text) :
    Decidable (AgreesWithGolden mode vars content received body) :=
  match mode with
  | .exact => inferInstanceAs (Decidable (IsContent _ _ _))
  | .substring => inferInstanceAs (Decidable (ContainsLinesOf _ _))

/-! ## Requirements -/

/-- One thing that a test requires of a response. -/
inductive Requirement where
  | status (expectation : StatusExpectation)
  | statusMessage (message : Text)
  | headerPresent (predicate : HeaderPredicate)
  | headerAbsent (predicate : HeaderPredicate)
  | contentType (mediaType : Text) (charset : Option Text)
  | golden (path : Text)
  | containsLine (line : Text)
  | excludesLine (line : Text)
  | emptyBody
  | cookie (expectation : CookieExpectation)
  deriving DecidableEq, Repr

/-- What is required of the content type. -/
def ContentTypeExpectation.requirements : ContentTypeExpectation → List Requirement
  | .any => []
  | .mediaType expected charset => [.contentType expected charset]

/-- What one expectation of the body requires. -/
def BodyExpectation.requirements : BodyExpectation → List Requirement
  | .golden path => [.golden path]
  | .containsLines lines => lines.map .containsLine
  | .excludesLines lines => lines.map .excludesLine
  | .empty => [.emptyBody]

/-- Everything that a test requires, in the order of the checks. -/
def Expectations.requirements (expectations : Expectations) : List Requirement :=
  .status expectations.status :: expectations.statusMessage.toList.map .statusMessage ++
    expectations.expectedHeaders.map .headerPresent ++
    expectations.unexpectedHeaders.map .headerAbsent ++
    expectations.contentType.requirements ++
    expectations.body.flatMap BodyExpectation.requirements ++
    expectations.cookies.map .cookie

namespace Requirement

/-- The response meets the requirement.  The expectations say how values are compared and under
which charset the body is read. -/
def Holds (response : Response) (expectations : Expectations) (vars : Variables)
    (goldens : Goldens) : Requirement → Prop
  | status expectation => expectation.Allows response.code
  | statusMessage message => response.reason = message
  | headerPresent predicate =>
    ∃ field ∈ response.fields, predicate.IsSatisfiedBy expectations.matchMode vars field
  | headerAbsent predicate =>
    ∀ field ∈ response.fields, ¬ predicate.IsSatisfiedBy expectations.matchMode vars field
  | contentType mediaType charset =>
    ∃ actual ∈ response.contentType?, IsOfContentType mediaType charset actual
  | golden path =>
    ∃ content ∈ goldens.lookup (vars.substitute path),
      AgreesWithGolden expectations.matchMode vars content response.body
        (response.bodyText expectations.charsetOverride)
  | containsLine line =>
    vars.substitute line <:+: response.bodyText expectations.charsetOverride
  | excludesLine line =>
    ¬ vars.substitute line <:+: response.bodyText expectations.charsetOverride
  | emptyBody => response.body = []
  | cookie expectation =>
    ∃ cookie ∈ Cookie.ofFields response.fields, expectation.IsSatisfiedBy vars cookie

instance (response : Response) (expectations : Expectations) (vars : Variables)
    (goldens : Goldens) (requirement : Requirement) :
    Decidable (requirement.Holds response expectations vars goldens) :=
  match requirement with
  | status expectation => inferInstanceAs (Decidable (expectation.Allows response.code))
  | statusMessage message => inferInstanceAs (Decidable (response.reason = message))
  | headerPresent _ => inferInstanceAs (Decidable (∃ field ∈ response.fields, _))
  | headerAbsent _ => inferInstanceAs (Decidable (∀ field ∈ response.fields, _))
  | contentType _ _ => inferInstanceAs (Decidable (∃ actual ∈ response.contentType?, _))
  | golden path =>
    inferInstanceAs (Decidable (∃ content ∈ goldens.lookup (vars.substitute path), _))
  | containsLine line => inferInstanceAs (Decidable (vars.substitute line <:+: _))
  | excludesLine line => inferInstanceAs (Decidable (¬ vars.substitute line <:+: _))
  | emptyBody => inferInstanceAs (Decidable (response.body = []))
  | cookie _ => inferInstanceAs (Decidable (∃ cookie ∈ Cookie.ofFields response.fields, _))

/-- A cookie is required of the fields that hand out cookies. -/
theorem holds_cookie_iff {response : Response} {expectations : Expectations} {vars : Variables}
    {goldens : Goldens} {expectation : CookieExpectation} :
    (cookie expectation).Holds response expectations vars goldens ↔
      ∃ field ∈ response.fields, field.isNamed "Set-Cookie".toList = true ∧
        expectation.IsSatisfiedBy vars (Cookie.parseSetCookie field.value) := by
  simp only [Holds, Cookie.mem_ofFields_iff]
  constructor
  · rintro ⟨_, ⟨field, hfield, hnamed, rfl⟩, hsatisfied⟩
    exact ⟨field, hfield, hnamed, hsatisfied⟩
  · rintro ⟨field, hfield, hnamed, hsatisfied⟩
    exact ⟨_, ⟨field, hfield, hnamed, rfl⟩, hsatisfied⟩

/-- The kind of the diagnostic for a requirement that a response does not meet. -/
def kind (vars : Variables) (goldens : Goldens) : Requirement → CheckKind
  | status _ => .status
  | statusMessage _ => .statusMessage
  | headerPresent _ => .headerPresent
  | headerAbsent _ => .headerAbsent
  | contentType .. => .contentType
  | golden path =>
    match goldens.lookup (vars.substitute path) with
    | some _ => .body
    | none => .resourceNotFound
  | containsLine _ => .body
  | excludesLine _ => .body
  | emptyBody => .body
  | cookie _ => .cookie

end Requirement

end HttpConformance
