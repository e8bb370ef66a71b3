import HttpConformance.CommandLine.Argument
import HttpConformance.Configuration.Load

/-!
# The command line

The arguments are read from the left, and the first error counts. A value in an argument of its own
is checked only when the next setting or switch is read, or at the end.

Main definitions: `Invocation`, `CommandLine.Error` and `CommandLine.parse`.
-/

namespace HttpConformance

/-- What is found under a path. -/
inductive FileKind where
  | missing
  | file
  | other
  deriving DecidableEq, Repr

/-- What a command line asks for. -/
structure Invocation where
  suite : Text
  config : Option Text := none
  logFile : Option Text := none
  json : Bool := false
  overrides : Configuration.Overrides := {}
  deriving DecidableEq, Repr

namespace CommandLine

/-! ## Errors -/

/-- What is wrong with a value. -/
inductive ValueFault where
  | noPath
  | notFile
  | notNumber (error : Numeral.ReadError)
  | outOfRange (number : Int)
  | unknownLevel
  deriving DecidableEq, Repr

/-- Why a command line asks for no run. -/
inductive Error where
  | unknownArgument (argument : Argument)
  | missingValue (setting : Setting)
  | emptyPath (setting : Setting)
  | repeatedSetting (setting : Setting)
  | repeatedSwitch (switch : Switch)
  | unexpectedValue (switch : Switch) (value : Text)
  | invalidValue (setting : Setting) (value : Text) (fault : ValueFault)
  | missingSuite
  | helpWanted
  | versionWanted
  deriving DecidableEq, Repr

/-! ## Values -/

/-- What a command line has given so far. -/
structure Given where
  suite : Option Text := none
  config : Option Text := none
  logFile : Option Text := none
  json : Bool := false
  overrides : Configuration.Overrides := {}
  deriving DecidableEq, Repr

/-- The setting has a value already. -/
def Given.has (given : Given) : Setting → Bool
  | .suite => given.suite.isSome
  | .config => given.config.isSome
  | .host => given.overrides.host.isSome
  | .port => given.overrides.port.isSome
  | .resources => given.overrides.resourceRoot.isSome
  | .logLevel => given.overrides.logLevel.isSome
  | .logFile => given.logFile.isSome

/-- Checks that a path leads to a file. -/
def checkFile (setting : Setting) (path : Text) : FileKind → Except Error Text
  | .file => .ok path
  | .missing => .error (.invalidValue setting path .noPath)
  | .other => .error (.invalidValue setting path .notFile)

/-- Checks that a path is not empty. -/
def checkPath (setting : Setting) (path : Text) : Except Error Text :=
  if path = [] then .error (.emptyPath setting) else .ok path

/-- Reads a port, which is not zero. -/
def readPort (value : Text) : Except Error UInt16 :=
  match Numeral.read Numeral.minInt64 Numeral.maxInt64 value with
  | .error error => .error (.invalidValue .port value (.notNumber error))
  | .ok number =>
    if 1 ≤ number ∧ number ≤ 65535 then .ok number.toNat.toUInt16
    else .error (.invalidValue .port value (.outOfRange number))

/-- Reads a log level, which is written by its name from here on. -/
def readLevel (value : Text) : Except Error Text :=
  match Level.parse? value with
  | some level => .ok level.name
  | none => .error (.invalidValue .logLevel value .unknownLevel)

/-! ## Reading -/

section

variable {m : Type → Type} [Monad m]

/-- Checks the value of a setting and adds it. -/
def Given.put (fileKind : Text → m FileKind) (given : Given) (setting : Setting) (value : Text) :
    ExceptT Error m Given := do
  let overrides := given.overrides
  match setting with
  | .suite => return { given with suite := some (← checkFile setting value (← fileKind value)) }
  | .config => return { given with config := some (← checkFile setting value (← fileKind value)) }
  | .logFile => return { given with logFile := some (← checkPath setting value) }
  | .host => return { given with overrides := { overrides with host := some value } }
  | .port => return { given with overrides := { overrides with port := some (← readPort value) } }
  | .resources =>
    return { given with
      overrides := { overrides with resourceRoot := some (← checkPath setting value) } }
  | .logLevel =>
    return { given with overrides := { overrides with logLevel := some (← readLevel value) } }

/-- Adds a setting, whose value may be missing. -/
def Given.add (fileKind : Text → m FileKind) (given : Given) (setting : Setting)
    (value : Option Text) : ExceptT Error m Given :=
  match value with
  | none => throw (.missingValue setting)
  | some value =>
    if given.has setting then throw (.repeatedSetting setting)
    else given.put fileKind setting value

/-- What has been read of a command line: what it has given, the last setting if that is not added
yet, and whether names are read no longer. -/
structure Progress where
  given : Given := {}
  pending : Option (Setting × Option Text) := none
  escaped : Bool := false
  deriving DecidableEq, Repr

/-- What has been given once the last setting is added. -/
def Progress.settle (fileKind : Text → m FileKind) (progress : Progress) :
    ExceptT Error m Given :=
  match progress.pending with
  | none => return progress.given
  | some (setting, value) => progress.given.add fileKind setting value

/-- Turns a switch on. -/
def Given.turnOn (given : Given) : Switch → Except Error Given
  | .json => if given.json then .error (.repeatedSwitch .json) else .ok { given with json := true }
  | .help => .error .helpWanted
  | .version => .error .versionWanted

/-- Reads one more argument. -/
def Progress.step (fileKind : Text → m FileKind) (progress : Progress) (text : Text) :
    ExceptT Error m Progress := do
  if progress.escaped then throw (.unknownArgument (.plain text))
  match Argument.ofText text with
  | .escape => return { progress with escaped := true }
  | .unknown text => throw (.unknownArgument (.unknown text))
  | .plain text =>
    match progress.pending with
    | some (setting, none) => return { progress with pending := some (setting, some text) }
    | _ => throw (.unknownArgument (.plain text))
  | .sets setting none =>
    return { given := ← progress.settle fileKind, pending := some (setting, none) }
  | .sets setting (some value) =>
    return { given := ← (← progress.settle fileKind).add fileKind setting (some value) }
  | .turns switch (some value) => throw (.unexpectedValue switch value)
  | .turns switch none => return { given := ← (← progress.settle fileKind).turnOn switch }

/-- What is asked for once everything has been read. -/
def Given.finish (given : Given) : Except Error Invocation :=
  match given.suite with
  | none => .error .missingSuite
  | some suite =>
    .ok ⟨suite, given.config, given.logFile, given.json, given.overrides⟩

/-- Reads a command line. Whether a path leads to a file is asked of `fileKind`. -/
def parse (fileKind : Text → m FileKind) (arguments : List Text) :
    m (Except Error Invocation) :=
  ExceptT.run do
    let progress ← arguments.foldlM (Progress.step fileKind) {}
    (← progress.settle fileKind).finish

end

end CommandLine

end HttpConformance
