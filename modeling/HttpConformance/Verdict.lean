import HttpConformance.Failure
import HttpConformance.Numeral

/-!
# Verdicts

The outcome of one test is the list of what was found wrong, in the order of the checks; a test
passes when the list is empty.

Main definitions: `CheckKind`, `Diagnostic`, `Verdict`, `Verdict.ofFailure` and `Verdict.report`.
-/

namespace HttpConformance

/-! ## Diagnostics -/

/-- What a diagnostic is about: one of the seven checks of a response, or one of the five ways in
which a test can fail to be carried out. -/
inductive CheckKind where
  | status
  | statusMessage
  | headerPresent
  | headerAbsent
  | contentType
  | body
  | cookie
  | connection
  | malformedResponse
  | resourceNotFound
  | configuration
  | redirect
  deriving DecidableEq, Repr

namespace CheckKind

/-- Every kind. -/
def all : List CheckKind :=
  [.status, .statusMessage, .headerPresent, .headerAbsent, .contentType, .body, .cookie,
    .connection, .malformedResponse, .resourceNotFound, .configuration, .redirect]

/-- The name of a kind in a report that is read by programs. -/
def name : CheckKind → Text
  | status => "Status".toList
  | statusMessage => "StatusMessage".toList
  | headerPresent => "HeaderPresent".toList
  | headerAbsent => "HeaderAbsent".toList
  | contentType => "ContentType".toList
  | body => "Body".toList
  | cookie => "Cookie".toList
  | connection => "Connection".toList
  | malformedResponse => "MalformedResponse".toList
  | resourceNotFound => "ResourceNotFound".toList
  | configuration => "Configuration".toList
  | redirect => "Redirect".toList

/-- The words for a kind in a report that is read by people. -/
def label : CheckKind → Text
  | status => "status code".toList
  | statusMessage => "status message".toList
  | headerPresent => "expected header".toList
  | headerAbsent => "unexpected header".toList
  | contentType => "content type".toList
  | body => "body".toList
  | cookie => "cookie".toList
  | connection => "connection".toList
  | malformedResponse => "malformed response".toList
  | resourceNotFound => "golden resource".toList
  | configuration => "configuration".toList
  | redirect => "redirect".toList

/-- The kind with the given name. -/
def ofName? (text : Text) : Option CheckKind :=
  all.find? (·.name = text)

/-- The kind of the diagnostic that a failure leaves behind. -/
def ofFailure : FailureKind → CheckKind
  | .connection _ => connection
  | .malformedResponse _ => malformedResponse
  | .resourceNotFound => resourceNotFound
  | .configuration => configuration
  | .redirect => redirect

end CheckKind

/-- One thing found wrong: what was expected, and what was there. -/
structure Diagnostic where
  kind : CheckKind
  expected : Text
  actual : Text
  deriving DecidableEq, Repr

/-- A diagnostic in one line. -/
def Diagnostic.describe (diagnostic : Diagnostic) : Text :=
  '[' :: diagnostic.kind.label ++ "] expected: ".toList ++ diagnostic.expected ++
    " | actual: ".toList ++ diagnostic.actual

/-! ## Verdicts -/

/-- What one test found wrong, in order. -/
structure Verdict where
  diagnostics : List Diagnostic
  deriving DecidableEq, Repr

namespace Verdict

/-- Nothing is wrong. -/
def pass : Verdict := ⟨[]⟩

/-- The verdict on a test that could not be carried out. -/
def ofFailure (failure : Failure) : Verdict :=
  ⟨[⟨.ofFailure failure.kind, "no error".toList, failure.describe⟩]⟩

/-- One more thing is wrong. -/
def add (verdict : Verdict) (diagnostic : Diagnostic) : Verdict :=
  ⟨verdict.diagnostics ++ [diagnostic]⟩

/-- Something is wrong. -/
def hasFailed (verdict : Verdict) : Bool :=
  verdict.diagnostics ≠ []

/-- How many diagnostics are about the given kind. -/
def count (kind : CheckKind) (verdict : Verdict) : Nat :=
  verdict.diagnostics.countP (·.kind = kind)

/-- The verdict for a reader: one line when the test passes, else a line for each diagnostic. -/
def report (verdict : Verdict) : Text :=
  match verdict.diagnostics with
  | [] => "PASS".toList
  | diagnostics =>
    "FAIL (".toList ++ Numeral.write diagnostics.length ++
      (if diagnostics.length = 1 then " problem)".toList else " problems)".toList) ++
      diagnostics.flatMap fun diagnostic => "\n  ".toList ++ diagnostic.describe

end Verdict

end HttpConformance
