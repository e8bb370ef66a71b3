import HttpConformance.Assertion.Run
import HttpConformance.Report
import HttpConformance.Suite.Basic

/-!
# Running a suite

The cases of a suite are run one after the other, each as an assertion of its own. A case that fails
does not keep the next from being run.

Main definitions: `Runner`, `Suite.run`.
-/

namespace HttpConformance

/-- What the outside world does for a run of a suite: besides what it does for an assertion, it
gives each one a name in the log and says what time it is. -/
structure Runner (m : Type → Type) extends Client m where
  freshId : m Text
  clock : Clock m

namespace Suite

/-- The configuration under which the cases are run: its variables win over those of the suite. -/
def configure (suite : Suite) (configuration : Configuration) : Configuration :=
  { configuration with vars := configuration.vars.withDefaults suite.vars }

section

variable {m : Type → Type} [Monad m]

/-- What an action yields, and how many milliseconds it took. -/
def timed {α : Type} (clock : Clock m) (action : m α) : m (α × Nat) := do
  let started ← clock.milliseconds
  let result ← action
  return (result, (← clock.milliseconds) - started)

/-- The verdict on one case. A failure is logged. -/
def judgeCase (runner : Runner m) (configuration : Configuration) (case : Case) : m Verdict := do
  let (verdict, _) ← (case.toAssertion configuration (← runner.freshId)).run runner.toClient
  if verdict.hasFailed then
    runner.log .warn (case.name ++ " failed: ".toList ++ verdict.report)
  return verdict

/-- The result of one case. -/
def runCase (runner : Runner m) (configuration : Configuration) (case : Case) :
    m CaseResult := do
  let (verdict, elapsed) ← timed runner.clock (judgeCase runner configuration case)
  return ⟨case.name, verdict, elapsed⟩

/-- The results of all cases, and how long they took. -/
def runCases (runner : Runner m) (suite : Suite) (configuration : Configuration) :
    m (List CaseResult × Nat) :=
  timed runner.clock do
    runner.log .info ("Running suite ".toList ++ suite.name ++ " (".toList ++
      Numeral.write suite.cases.length ++ " cases) against ".toList ++
      configuration.targetAddress)
    suite.cases.mapM (runCase runner configuration)

/-- Runs all cases of a suite. -/
def run (runner : Runner m) (suite : Suite) (configuration : Configuration) : m SuiteReport := do
  let date ← runner.clock.date
  let (results, elapsed) ← runCases runner suite (suite.configure configuration)
  let report : SuiteReport := ⟨suite.name, date / 1000000, elapsed, results⟩
  runner.log .info ("Suite ".toList ++ report.suite ++ ": ".toList ++
    Numeral.write report.passed ++ " passed, ".toList ++ Numeral.write report.failed ++
    " failed".toList)
  return report

end

end Suite

end HttpConformance
