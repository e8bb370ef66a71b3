import HttpConformance.Log.Journal
import HttpConformance.Log.Level

/-!
# The logger

A logger sends an entry to the standard output and to a journal, each with a level of its own.

Main definitions: `Logger`, `Logger.add`, `Logger.setLevel`.
-/

namespace HttpConformance

/-- A journal and the levels of the journal and of the standard output. -/
structure Logger where
  journal : Journal
  level : Level
  stdoutLevel : Level
  deriving DecidableEq, Repr

/-- What a logger wants done with an entry. -/
structure LogOutput where
  line : Option Text := none
  appending : Option Appending := none
  deriving DecidableEq, Repr

namespace Logger

/-- The logger of a program that has read no configuration yet. -/
def start : Logger :=
  ⟨{ id := "syslog".toList }, .info, .warn⟩

/-- An entry as it is written. -/
def writeEntry (stamp : Text) (level : Level) (message : Text) : Text :=
  stamp ++ " - [".toList ++ level.name ++ "] ".toList ++ message

/-- Logs a message at the given time. -/
def add (stamp : Text) (level : Level) (message : Text) (logger : Logger) : Logger × LogOutput :=
  let entry := writeEntry stamp level message
  let line := if logger.stdoutLevel.lets level then some entry else none
  if logger.level.lets level then
    let (journal, appending) := logger.journal.add entry
    ({ logger with journal }, ⟨line, appending⟩)
  else (logger, ⟨line, none⟩)

/-- Writes the entries that wait. -/
def flush (logger : Logger) : Logger × Option Appending :=
  let (journal, appending) := logger.journal.flush true
  ({ logger with journal }, appending)

/-- Changes the level of the journal, after writing the entries that wait. -/
def setLevel (level : Level) (logger : Logger) : Logger × Option Appending :=
  let (logger, appending) := logger.flush
  ({ logger with level }, appending)

/-- Changes the level of the standard output. -/
def setStdoutLevel (level : Level) (logger : Logger) : Logger :=
  { logger with stdoutLevel := level }

/-- The logger after a new file has been made for its journal. -/
def openFile (path : Text) (logger : Logger) : Logger :=
  { logger with journal := logger.journal.openFile path }

end Logger

end HttpConformance
