import HttpConformance.CommandLine.Basic
import HttpConformance.Log.Logger
import HttpConformance.Network.Exchange
import HttpConformance.Suite.Run

/-!
# The machine of a program

Everything that the program asks of the machine it runs on, in any monad, and the log that it keeps
there.

Main definitions: `Machine`, `Logged`, `Machine.log`, `Machine.flushLog`, `Machine.openLog`.
-/

namespace HttpConformance

/-- What can be done with files. -/
structure Files (m : Type → Type) where
  kind : Text → m FileKind
  read : Text → m (Except SystemError Bytes)
  /-- Makes an empty file, in place of any that is there, and the directories that lead to it. -/
  create : Text → m (Except SystemError Unit)
  /-- Adds bytes at the end of a file. -/
  append : Text → Bytes → m (Except SystemError Unit)

/-- What a machine does for a program. -/
structure Machine (m : Type → Type) where
  files : Files m
  network : Network m
  environment : Configuration.Environment
  freshId : m Text
  print : Text → m Unit
  complain : Text → m Unit

/-- An action that may add to the log. -/
abbrev Logged (m : Type → Type) := StateT Logger m

namespace Machine

section

variable {m : Type → Type} [Monad m]

/-! ## The log -/

/-- Writes entries to the log file. A failure is shown and changes nothing else. -/
def write (machine : Machine m) (id : Text) (appending : Appending) : m Unit := do
  match ← machine.files.append appending.path (Utf8.encode appending.content) with
  | .ok _ => return
  | .error error =>
    machine.complain ("Failed to write log ".toList ++ id ++ " to ".toList ++ appending.path ++
      ": ".toList ++ error.message ++ ['\n'])

/-- Does what a logger wants done. -/
def carryOut (machine : Machine m) (id : Text) (output : LogOutput) : m Unit := do
  if let some line := output.line then
    machine.print (line ++ ['\n'])
  if let some appending := output.appending then
    machine.write id appending

/-- Takes the logger a step further and does what it wants done. -/
def step (machine : Machine m) (change : Logger → Logger × LogOutput) : Logged m Unit := do
  let (logger, output) := change (← get)
  set logger
  machine.carryOut logger.journal.id output

/-- Logs a message. -/
def log (machine : Machine m) (level : Level) (message : Text) : Logged m Unit := do
  let date ← machine.network.clock.date
  machine.step (·.add (Timestamp.ofMicroseconds date) level message)

/-- Writes the entries that wait. -/
def flushLog (machine : Machine m) : Logged m Unit :=
  machine.step fun logger => (logger.flush.1, { appending := logger.flush.2 })

/-- Changes the level of the log file. -/
def setLogLevel (machine : Machine m) (level : Level) : Logged m Unit :=
  machine.step fun logger => ((logger.setLevel level).1, { appending := (logger.setLevel level).2 })

/-- Changes the level of the standard output. -/
def setStdoutLevel (level : Level) : Logged m Unit :=
  modify (·.setStdoutLevel level)

/-- Why there is no log file. -/
structure LogFileError where
  path : Text
  error : SystemError

/-- The wording of the error. -/
def LogFileError.message (error : LogFileError) : Text :=
  "Failed to create log file '".toList ++ error.path ++ "': ".toList ++ error.error.message

/-- Makes a file for the log. -/
def openLog (machine : Machine m) (path : Text) : Logged m (Except LogFileError Unit) := do
  match ← machine.files.create path with
  | .ok _ =>
    modify (·.openFile path)
    return .ok ()
  | .error error => return .error ⟨path, error⟩

/-! ## Running suites -/

/-- The network, for actions that may log. -/
def loggedNetwork (machine : Machine m) : Network (Logged m) where
  lookUp host limit := machine.network.lookUp host limit
  attempt attempt := machine.network.attempt attempt
  clock := ⟨machine.network.clock.date, machine.network.clock.milliseconds⟩

/-- What the machine does for a run of a suite. -/
def runner (machine : Machine m) : Runner (Logged m) where
  send := Exchange.send machine.loggedNetwork machine.log
  readFile path := machine.files.read path
  log := machine.log
  freshId := machine.freshId
  clock := machine.loggedNetwork.clock

end

end Machine

end HttpConformance
