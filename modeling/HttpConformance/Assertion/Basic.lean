import HttpConformance.Configuration.Basic
import HttpConformance.Expectation
import HttpConformance.Flag
import HttpConformance.Message.Request

/-!
# Assertions

An assertion is one request and what is expected of the response to it. It is built step by step;
a step that is given a text it cannot read changes nothing and leaves an error behind.

Main definitions: `Assertion`, `SetupError`, and the steps, from `Assertion.describe` to
`Assertion.withExpectations`.
-/

namespace HttpConformance

/-- What a request is made of. -/
inductive RequestSource where
  /-- A text in which variables are substituted before it is read. -/
  | text (raw : Text)
  /-- A request that is sent as it is. -/
  | request (request : Request)
  deriving DecidableEq, Repr

/-- Why a step of building an assertion has changed nothing. -/
inductive SetupError where
  | header (error : HeaderPredicate.Error)
  | contentType (error : ContentTypeExpectation.Error)
  | exactMatch (error : Flag.Error)
  deriving DecidableEq, Repr

/-- The wording of an error. -/
def SetupError.message : SetupError → Text
  | .header error => error.message
  | .contentType error => error.message
  | .exactMatch error => "exactMatch: ".toList ++ error.message

/-- One request and what is expected of the response to it. -/
structure Assertion where
  id : Text
  configuration : Configuration
  description : Option Text := none
  source : Option RequestSource := none
  cookies : List Cookie := []
  expectations : Expectations := {}
  readLimitMs : Option UInt64 := none
  setupErrors : List SetupError := []
  deriving DecidableEq, Repr

namespace Assertion

/-! ## The request -/

/-- Names the assertion. -/
def describe (description : Text) (assertion : Assertion) : Assertion :=
  { assertion with description := some description }

/-- Sends the request that a text writes. -/
def sendText (raw : Text) (assertion : Assertion) : Assertion :=
  { assertion with source := some (.text raw) }

/-- Sends a request as it is. -/
def sendRequest (request : Request) (assertion : Assertion) : Assertion :=
  { assertion with source := some (.request request) }

/-- Sends a cookie back to the server. -/
def sendCookie (cookie : Cookie) (assertion : Assertion) : Assertion :=
  { assertion with cookies := assertion.cookies ++ [cookie] }

/-- Waits no longer than this for a response. -/
def waitAtMost (milliseconds : UInt64) (assertion : Assertion) : Assertion :=
  { assertion with readLimitMs := some milliseconds }

/-! ## The response -/

/-- Changes what is expected. -/
def expecting (change : Expectations → Expectations) (assertion : Assertion) : Assertion :=
  { assertion with expectations := change assertion.expectations }

/-- A step that changes what is expected, or leaves an error behind. -/
def attempt {α ε : Type} (read : Except ε α) (toError : ε → SetupError)
    (change : α → Expectations → Expectations) (assertion : Assertion) : Assertion :=
  match read with
  | .ok value => assertion.expecting (change value)
  | .error error =>
    { assertion with setupErrors := assertion.setupErrors ++ [toError error] }

/-- Expects a status code. -/
def expectStatus (code : UInt16) : Assertion → Assertion :=
  expecting ({ · with status := .exact code })

/-- Expects no particular status code. -/
def expectAnyStatus : Assertion → Assertion :=
  expecting ({ · with status := .any })

/-- Expects the reason after the status code. -/
def expectStatusMessage (message : Text) : Assertion → Assertion :=
  expecting ({ · with statusMessage := some message })

/-- The predicates in a text; a bar that belongs to a reference to a variable separates none. -/
def readPredicates (text : Text) (assertion : Assertion) :
    Except HeaderPredicate.Error (List HeaderPredicate) :=
  HeaderPredicate.parseListWith
    (fun name => (assertion.configuration.substitutor.find? name).isSome) text

/-- Expects fields that satisfy all the predicates in a text. -/
def expectHeaders (text : Text) (assertion : Assertion) : Assertion :=
  assertion.attempt (assertion.readPredicates text) .header fun predicates expectations =>
    { expectations with expectedHeaders := expectations.expectedHeaders ++ predicates }

/-- Expects no field that satisfies one of the predicates in a text. -/
def rejectHeaders (text : Text) (assertion : Assertion) : Assertion :=
  assertion.attempt (assertion.readPredicates text) .header fun predicates expectations =>
    { expectations with unexpectedHeaders := expectations.unexpectedHeaders ++ predicates }

/-- Expects a content type. -/
def expectContentType (text : Text) (assertion : Assertion) : Assertion :=
  assertion.attempt (ContentTypeExpectation.parse text) .contentType fun expected expectations =>
    { expectations with contentType := expected }

/-- Expects no particular content type. -/
def expectAnyContentType : Assertion → Assertion :=
  expecting ({ · with contentType := .any })

/-- Expects one more thing of the body. -/
def expectBody (expectation : BodyExpectation) : Assertion → Assertion :=
  expecting fun expectations => { expectations with body := expectations.body ++ [expectation] }

/-- Chooses how texts are compared. -/
def matchExactly (exact : Bool) : Assertion → Assertion :=
  expecting ({ · with matchMode := if exact then .exact else .substring })

/-- Chooses how texts are compared, by a word. -/
def matchExactlyFlag (word : Text) (assertion : Assertion) : Assertion :=
  assertion.attempt (Flag.parse word) .exactMatch fun exact expectations =>
    { expectations with matchMode := if exact then .exact else .substring }

/-- Expects a cookie. -/
def expectCookie (name : Text) (value : Option Text) : Assertion → Assertion :=
  expecting fun expectations =>
    { expectations with cookies := expectations.cookies ++ [⟨name, value⟩] }

/-- Reads the body under a charset of its own. -/
def readAs (charset : Text) : Assertion → Assertion :=
  expecting ({ · with charsetOverride := some charset })

/-- Chooses whether redirects are followed. -/
def followRedirects (follow : Bool) : Assertion → Assertion :=
  expecting ({ · with followRedirects := follow })

/-- Puts other expectations in the place of all those so far. -/
def withExpectations (expectations : Expectations) : Assertion → Assertion :=
  expecting fun _ => expectations

end Assertion

end HttpConformance
