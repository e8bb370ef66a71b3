import HttpConformance.Json.Basic
import HttpConformance.Timestamp
import HttpConformance.Verdict

/-!
# Suite reports

What a run of a suite has found, case by case, with the times it took.

Main definitions: `SuiteReport`, `SuiteReport.render` for people and `SuiteReport.toJson` for
programs.
-/

namespace HttpConformance

/-- The verdict on one case, and how long it took. -/
structure CaseResult where
  name : Text
  verdict : Verdict
  elapsedMs : Nat
  deriving DecidableEq, Repr

/-- The results of a run: when it began, in seconds from the beginning of 1970, and how long it
took. -/
structure SuiteReport where
  suite : Text
  startedAt : Int
  elapsedMs : Nat
  results : List CaseResult
  deriving DecidableEq, Repr

namespace SuiteReport

/-! ## Counting -/

/-- How many cases there are. -/
def total (report : SuiteReport) : Nat :=
  report.results.length

/-- How many cases have failed. -/
def failed (report : SuiteReport) : Nat :=
  report.results.countP (·.verdict.hasFailed)

/-- How many cases have passed. -/
def passed (report : SuiteReport) : Nat :=
  report.total - report.failed

/-- Some case has failed. -/
def hasFailed (report : SuiteReport) : Bool :=
  report.failed > 0

/-! ## For people -/

/-- The text with the lines after the first one moved to the right. -/
def indentRest (text : Text) : Text :=
  text.flatMap fun c => if c = '\n' then "\n    ".toList else [c]

/-- The lines of one case. -/
def renderCase (result : CaseResult) : Text :=
  result.name ++ " [".toList ++ Numeral.write result.elapsedMs ++ " ms] ".toList ++
    indentRest result.verdict.report ++ ['\n']

/-- The numbers of cases in one text. -/
def renderCounts (report : SuiteReport) : Text :=
  Numeral.write report.total ++ " total, ".toList ++ Numeral.write report.passed ++
    " passed, ".toList ++ Numeral.write report.failed ++ " failed in ".toList ++
    Numeral.write report.elapsedMs ++ " ms\n".toList

/-- The report as a text. -/
def render (report : SuiteReport) : Text :=
  "Suite ".toList ++ report.suite ++ " started ".toList ++ Timestamp.ofSeconds report.startedAt ++
    ['\n'] ++ report.results.flatMap renderCase ++ report.renderCounts

/-! ## For programs -/

/-- A diagnostic as JSON. -/
def diagnosticToJson (diagnostic : Diagnostic) : Json :=
  .record [
    ("kind", .string diagnostic.kind.name),
    ("expected", .string diagnostic.expected),
    ("actual", .string diagnostic.actual)]

/-- A verdict as JSON. -/
def verdictToJson (verdict : Verdict) : Json :=
  .record [("diagnostics", .ofList diagnosticToJson verdict.diagnostics)]

/-- A result as JSON. -/
def resultToJson (result : CaseResult) : Json :=
  .record [
    ("name", .string result.name),
    ("verdict", verdictToJson result.verdict),
    ("elapsed_ms", .nat result.elapsedMs)]

/-- The report as JSON. -/
def toJson (report : SuiteReport) : Json :=
  .record [
    ("suite", .string report.suite),
    ("started_at", .string (Timestamp.ofSeconds report.startedAt)),
    ("elapsed_ms", .nat report.elapsedMs),
    ("results", .ofList resultToJson report.results)]

end SuiteReport

end HttpConformance
