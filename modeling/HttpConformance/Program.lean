import HttpConformance.CommandLine.Message
import HttpConformance.Json.Printer
import HttpConformance.Machine
import HttpConformance.Suite.Json

/-!
# The program

The program reads its command line, puts a configuration together, loads a suite, runs it and prints
the report. Its exit code is 0 when every case has passed, 1 when one has failed, and 2 when the
suite could not be run.

Main definition: `Program.run`.
-/

namespace HttpConformance.Program

section

variable {m : Type → Type} [Monad m]

/-! ## Exit codes -/

/-- Nothing is wrong. -/
def success : UInt8 := 0

/-- Some case has failed. -/
def casesFailed : UInt8 := 1

/-- The suite could not be run. -/
def notRun : UInt8 := 2

/-! ## Stages -/

/-- The configuration of the run. -/
def configure (machine : Machine m) (invocation : Invocation) :
    m (Except (List Configuration.LoadError) Configuration) := do
  let file ← match invocation.config with
    | none => pure none
    | some path => do pure (some (Configuration.ofFile path (← machine.files.read path)))
  return Configuration.assemble file machine.environment invocation.overrides.apply

/-- Sets up the log as the configuration and the command line say. -/
def openLog (machine : Machine m) (invocation : Invocation) (configuration : Configuration) :
    Logged m (Except Machine.LogFileError Unit) := do
  let level := (Level.parse? configuration.logLevel).getD .warn
  machine.setLogLevel level
  Machine.setStdoutLevel level
  match invocation.logFile with
  | none => return .ok ()
  | some path => machine.openLog path

/-- The report as it is printed. -/
def render (invocation : Invocation) (report : SuiteReport) : Text :=
  if invocation.json then report.toJson.pretty ++ ['\n'] else report.render

/-- Runs a suite and prints the report. -/
def runSuite (machine : Machine m) (invocation : Invocation) (configuration : Configuration)
    (suite : Suite) : Logged m UInt8 := do
  let report ← suite.run machine.runner configuration
  machine.print (render invocation report)
  machine.flushLog
  return if report.hasFailed then casesFailed else success

/-- Loads the suite and runs it. -/
def loadSuite (machine : Machine m) (invocation : Invocation) (configuration : Configuration) :
    Logged m UInt8 := do
  machine.log .info ("Starting ".toList ++ CommandLine.versionLine)
  match Suite.ofFile invocation.suite (← machine.files.read invocation.suite) with
  | .error error =>
    machine.log .error error.toFailure.describe
    machine.flushLog
    return notRun
  | .ok suite => runSuite machine invocation configuration suite

/-- Does what the command line asks for. -/
def perform (machine : Machine m) (invocation : Invocation) : Logged m UInt8 := do
  match ← (configure machine invocation : m _) with
  | .error errors =>
    errors.forM fun error =>
      machine.log .error ("Configuration error: ".toList ++ error.message)
    machine.flushLog
    return notRun
  | .ok configuration =>
    match ← openLog machine invocation configuration with
    | .error error =>
      machine.log .error ("Failed to open log file: ".toList ++ error.message)
      return notRun
    | .ok _ => loadSuite machine invocation configuration

/-- Runs the program with the given arguments. -/
def run (machine : Machine m) (arguments : List Text) : m UInt8 := do
  match ← CommandLine.parse machine.files.kind arguments with
  | .ok invocation => (perform machine invocation).run' Logger.start
  | .error .helpWanted =>
    machine.print CommandLine.help
    return success
  | .error .versionWanted =>
    machine.print (CommandLine.versionLine ++ ['\n'])
    return success
  | .error error =>
    machine.complain error.render
    return notRun

end

end HttpConformance.Program
