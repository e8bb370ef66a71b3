import HttpConformance.Configuration.Json
import HttpConformance.Json.Reader
import HttpConformance.Resource.TextFile

/-!
# Loading a configuration

A configuration is put together from a file, from variables of the environment and from the command
line, each of which wins over those before it, and is then put in order and checked.

Main definitions:

- `Configuration.ofFile`: the configuration in a file, given what reading the file has yielded.
- `Configuration.applyEnvironment`, `Configuration.Overrides.apply`.
- `Configuration.assemble`: all of it together.
-/

namespace HttpConformance.Configuration

/-! ## Errors -/

/-- Why there is no configuration for a run. -/
inductive LoadError where
  | unreadable (path : Text) (error : SystemError)
  | malformed (path : Text)
  | invalidPort (name value : Text)
  | invalid (error : Error)
  deriving DecidableEq, Repr

/-- The wording of an error. -/
def LoadError.message : LoadError → Text
  | .unreadable path error =>
    "Failed to read configuration file '".toList ++ path ++ "': ".toList ++ error.message
  | .malformed path => "Failed to parse configuration file '".toList ++ path ++ "'".toList
  | .invalidPort name value => name ++ " is not a valid port: ".toList ++ value
  | .invalid error => error.message

/-! ## Files -/

/-- The configuration in a file, given what reading the file has yielded. -/
def ofFile (path : Text) (content : Except SystemError Bytes) : Except LoadError Configuration :=
  match textOfFile content with
  | .error error => .error (.unreadable path error)
  | .ok text =>
    match (Json.parse? text).bind ofJson? with
    | some configuration => .ok configuration
    | none => .error (.malformed path)

/-! ## The environment -/

/-- The values that the environment gives to some names. -/
abbrev Environment := Text → Option Text

/-- The variable that gives the host. -/
def hostVariable : Text := "HTTP_ASSERT_HOST".toList

/-- The variable that gives the port. -/
def portVariable : Text := "HTTP_ASSERT_PORT".toList

/-- The variable that gives the resource root. -/
def resourcesVariable : Text := "HTTP_ASSERT_RESOURCES".toList

/-- The variable that gives the address of the client. -/
def clientIpVariable : Text := "HTTP_ASSERT_CLIENT_IP".toList

/-- The variable that gives the host name of the client. -/
def clientHostVariable : Text := "HTTP_ASSERT_CLIENT_HOST".toList

/-- Every variable that is read. -/
def environmentVariables : List Text :=
  [hostVariable, portVariable, resourcesVariable, clientIpVariable, clientHostVariable]

/-- The port that the environment gives, if it gives one that can be read. -/
def environmentPort? (environment : Environment) : Option UInt16 :=
  (environment portVariable).bind fun value => Numeral.readPort? (Text.trim value)

/-- What is wrong with the environment: a port that is given and cannot be read. -/
def environmentErrors (environment : Environment) : List LoadError :=
  match environment portVariable with
  | none => []
  | some value =>
    if (Numeral.readPort? (Text.trim value)).isSome then [] else [.invalidPort portVariable value]

/-- The configuration with what the environment gives. -/
def applyEnvironment (environment : Environment) (configuration : Configuration) :
    Configuration :=
  { configuration with
    host := (environment hostVariable).getD configuration.host
    port := (environmentPort? environment).getD configuration.port
    resourceRoot := (environment resourcesVariable).getD configuration.resourceRoot
    clientIp := (environment clientIpVariable).getD configuration.clientIp
    clientHost := (environment clientHostVariable).getD configuration.clientHost }

/-! ## The command line -/

/-- What a command line may give of a configuration. -/
structure Overrides where
  host : Option Text := none
  port : Option UInt16 := none
  resourceRoot : Option Text := none
  logLevel : Option Text := none
  deriving DecidableEq, Repr

/-- The configuration with what a command line gives. -/
def Overrides.apply (overrides : Overrides) (configuration : Configuration) : Configuration :=
  { configuration with
    host := overrides.host.getD configuration.host
    port := overrides.port.getD configuration.port
    resourceRoot := overrides.resourceRoot.getD configuration.resourceRoot
    logLevel := overrides.logLevel.getD configuration.logLevel }

/-! ## All together -/

/-- The configuration of a run: from a file, if there is one, then from the environment, then from
the caller, put in order and checked. Errors of one stage keep the next from being reached. -/
def assemble (file : Option (Except LoadError Configuration)) (environment : Environment)
    (override : Configuration → Configuration) : Except (List LoadError) Configuration :=
  match file.getD (.ok {}) with
  | .error error => .error [error]
  | .ok base =>
    match environmentErrors environment with
    | [] =>
      let configuration := (override (base.applyEnvironment environment)).sanitize
      match configuration.errors with
      | [] => .ok configuration
      | errors => .error (errors.map .invalid)
    | errors => .error errors

end HttpConformance.Configuration
