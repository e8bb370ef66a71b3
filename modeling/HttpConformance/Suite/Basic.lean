import HttpConformance.Assertion.Basic

/-!
# Suites

A suite is a list of tests, each written as a case: the text of a request and, in the simple types
of a file, what is expected of the response.

Main definitions:

- `Case` and `Suite`.
- `Case.errors` and `Suite.errors`: what is wrong with them, in order.
- `Case.toAssertion`: the assertion that a case stands for.
-/

namespace HttpConformance

/-! ## Cases -/

/-- One test as it is written in a suite. -/
structure Case where
  name : Text := []
  description : Option Text := none
  request : Text := []
  status : Option UInt16 := none
  anyStatus : Bool := false
  statusMessage : Option Text := none
  expectedHeaders : Option Text := none
  unexpectedHeaders : Option Text := none
  contentType : Option Text := none
  charset : Option Text := none
  golden : Option Text := none
  expectedLines : List Text := []
  unexpectedLines : List Text := []
  expectsEmptyBody : Bool := false
  exactMatch : Option Flag := none
  cookies : List CookieExpectation := []
  followRedirects : Bool := false
  timeoutMs : Option UInt64 := none
  deriving DecidableEq, Repr

namespace Case

/-- What is wrong with a case, besides its name. -/
inductive Fault where
  | noRequest
  | invalidStatus (code : UInt16)
  | contradictoryStatus
  | exactMatch (error : Flag.Error)
  | zeroTimeout
  deriving DecidableEq, Repr

/-- What is wrong with a case. -/
inductive Error where
  | emptyName
  | inCase (name : Text) (fault : Fault)
  deriving DecidableEq, Repr

/-- The wording of a fault, after the name of the case. -/
def Fault.message : Fault → Text
  | .noRequest => " has no request".toList
  | .invalidStatus code => " expects an invalid status code ".toList ++ Numeral.write code.toNat
  | .contradictoryStatus => " sets both a status and any_status".toList
  | .exactMatch error => ": exact_match ".toList ++ error.message
  | .zeroTimeout => " has a zero timeout".toList

/-- The wording of an error. -/
def Error.message : Error → Text
  | .emptyName => "Test case name cannot be empty".toList
  | .inCase name fault => "Test case '".toList ++ name ++ ['\''] ++ fault.message

/-- What is wrong with the status that a case expects. -/
def statusFaults (case : Case) : List Fault :=
  match case.status with
  | none => []
  | some code =>
    (if 100 ≤ code ∧ code ≤ 599 then [] else [.invalidStatus code]) ++
    (if case.anyStatus then [.contradictoryStatus] else [])

/-- What is wrong with the way in which a case compares texts. -/
def exactMatchFaults (case : Case) : List Fault :=
  match case.exactMatch.map Flag.value with
  | some (.error error) => [.exactMatch error]
  | _ => []

/-- Everything that is wrong with a case, besides its name. -/
def faults (case : Case) : List Fault :=
  (if Text.isAllBlank case.request then [.noRequest] else []) ++ case.statusFaults ++
    case.exactMatchFaults ++ (if case.timeoutMs = some 0 then [.zeroTimeout] else [])

/-- Everything that is wrong with a case. -/
def errors (case : Case) : List Error :=
  (if Text.isAllBlank case.name then [.emptyName] else []) ++ case.faults.map (.inCase case.name)

/-! ## From a case to an assertion -/

/-- A step that is taken if there is a value for it. -/
def ifGiven {α : Type} (value : Option α) (step : α → Assertion → Assertion)
    (assertion : Assertion) : Assertion :=
  match value with
  | some a => step a assertion
  | none => assertion

/-- A step that is taken under a condition. -/
def ifSet (condition : Bool) (step : Assertion → Assertion) (assertion : Assertion) : Assertion :=
  if condition then step assertion else assertion

/-- The step that chooses how texts are compared. -/
def compareBy : Flag → Assertion → Assertion
  | .bool exact => Assertion.matchExactly exact
  | .text word => Assertion.matchExactlyFlag word

/-- The assertion that a case stands for. -/
def toAssertion (case : Case) (configuration : Configuration) (id : Text) : Assertion :=
  let assertion := { id, configuration : Assertion }
    |>.describe case.name
    |>.sendText case.request
    |> ifGiven case.status Assertion.expectStatus
    |> ifSet case.anyStatus Assertion.expectAnyStatus
    |> ifGiven case.statusMessage Assertion.expectStatusMessage
    |> ifGiven case.expectedHeaders Assertion.expectHeaders
    |> ifGiven case.unexpectedHeaders Assertion.rejectHeaders
    |> ifGiven case.contentType Assertion.expectContentType
    |> ifGiven case.charset Assertion.readAs
    |> ifGiven case.golden (Assertion.expectBody ∘ .golden)
    |> ifSet (case.expectedLines ≠ []) (Assertion.expectBody (.containsLines case.expectedLines))
    |> ifSet (case.unexpectedLines ≠ [])
      (Assertion.expectBody (.excludesLines case.unexpectedLines))
    |> ifSet case.expectsEmptyBody (Assertion.expectBody .empty)
    |> ifGiven case.exactMatch compareBy
  case.cookies.foldl (fun assertion cookie => assertion.expectCookie cookie.name cookie.value)
      assertion
    |> ifGiven case.timeoutMs Assertion.waitAtMost
    |> Assertion.followRedirects case.followRedirects

end Case

/-! ## Suites -/

/-- Named variables and the cases that may refer to them. -/
structure Suite where
  name : Text
  vars : Variables
  cases : List Case
  deriving DecidableEq, Repr

namespace Suite

/-- What is wrong with a suite. -/
inductive Error where
  | noCases (name : Text)
  | inCase (error : Case.Error)
  | duplicateName (name : Text)
  deriving DecidableEq, Repr

/-- The wording of an error. -/
def Error.message : Error → Text
  | .noCases name => "Suite '".toList ++ name ++ "' has no test cases".toList
  | .inCase error => error.message
  | .duplicateName name => "Duplicate test case name: ".toList ++ name

/-- The items that are equal to the one before them. -/
def repeats : List Text → List Text
  | a :: b :: rest => if a = b then b :: repeats (b :: rest) else repeats (b :: rest)
  | _ => []

/-- The names that occur before, in order; an empty name does not count. -/
def duplicateNames (names : List Text) : List Text :=
  (repeats (names.mergeSort fun a b => !decide (b < a))).filter (· ≠ [])

/-- Everything that is wrong with a suite. -/
def errors (suite : Suite) : List Error :=
  (if suite.cases = [] then [.noCases suite.name] else []) ++
    suite.cases.flatMap (fun case => case.errors.map .inCase) ++
    (duplicateNames (suite.cases.map (·.name))).map .duplicateName

end Suite

end HttpConformance
