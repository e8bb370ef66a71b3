import HttpConformance.Log.Level
import HttpConformance.Network.Address
import HttpConformance.Resource.Path
import HttpConformance.Substitution

/-!
# Configurations

What every test of a run has to know: where the server is, from which address to speak to it, and
where golden resources are kept.

Main definitions:

- `Configuration`, with the default values of its fields.
- `Configuration.sanitize` and `Configuration.errors`.
- `Configuration.substitutor`: the variables that texts of a run may refer to.
-/

namespace HttpConformance

/-- The configuration of a run. -/
structure Configuration where
  host : Text := "localhost".toList
  port : UInt16 := 8080
  clientIp : Text := "127.0.0.1".toList
  clientHost : Text := "localhost".toList
  bindClientAddress : Bool := false
  connectTimeoutMs : UInt64 := 5000
  readTimeoutMs : UInt64 := 30000
  resourceRoot : Text := ".".toList
  maxRedirects : UInt8 := 5
  logLevel : Text := "WARN".toList
  vars : Variables := .empty
  deriving DecidableEq, Repr

/-- A host and a port in one text. -/
def joinAuthority (host : Text) (port : UInt16) : Text :=
  host ++ ':' :: Numeral.write port.toNat

namespace Configuration

/-- The server and its port in one text. -/
def targetAddress (configuration : Configuration) : Text :=
  joinAuthority configuration.host configuration.port

/-! ## Putting in order -/

/-- The variables under names without blanks around them. -/
def trimNames (vars : Variables) : Variables :=
  .ofList (vars.entries.map fun (name, value) => (Text.trim name, value))

/-- The configuration without blanks where none belong, with slashes alone in the resource root and
the log level in upper case. -/
def sanitize (configuration : Configuration) : Configuration :=
  { configuration with
    host := Text.trim configuration.host
    clientIp := Text.trim configuration.clientIp
    clientHost := Text.trim configuration.clientHost
    resourceRoot := normalizeRoot configuration.resourceRoot
    logLevel := Text.upperAscii (Text.trim configuration.logLevel)
    vars := trimNames configuration.vars }

/-! ## Checking -/

/-- What is wrong with a configuration. -/
inductive Error where
  | emptyHost
  | invalidHost (host : Text)
  | zeroPort
  | invalidClientIp (address : Text)
  | zeroConnectTimeout
  | zeroReadTimeout
  | emptyResourceRoot
  | zeroRedirects
  | unknownLogLevel (level : Text)
  | emptyVariableName
  | markInVariableName (name : Text)
  deriving DecidableEq, Repr

/-- The wording of an error. -/
def Error.message : Error → Text
  | .emptyHost => "Host cannot be empty".toList
  | .invalidHost host => "Invalid host: ".toList ++ host
  | .zeroPort => "Port cannot be 0".toList
  | .invalidClientIp address =>
    "Client IP must be a valid IP address when binding is enabled: ".toList ++ address
  | .zeroConnectTimeout => "Connect timeout must be greater than 0".toList
  | .zeroReadTimeout => "Read timeout must be greater than 0".toList
  | .emptyResourceRoot => "Resource root cannot be empty".toList
  | .zeroRedirects => "Max redirects must be at least 1".toList
  | .unknownLogLevel level => "Unknown log level: ".toList ++ level
  | .emptyVariableName => "Variable names cannot be empty".toList
  | .markInVariableName name => "Variable name contains placeholder characters: ".toList ++ name

/-- What is wrong with a host. -/
def hostErrors (host : Text) : List Error :=
  if host = [] then [.emptyHost]
  else if host.any Text.isBlank ∨ '/' ∈ host then [.invalidHost host]
  else []

/-- A character that marks a reference to a variable. -/
def isMark (c : Char) : Bool :=
  c == '$' || c == '\x7b' || c == '\x7d' || c == '|'

/-- What is wrong with the name of a variable. -/
def variableNameErrors (name : Text) : List Error :=
  if name = [] then [.emptyVariableName]
  else if name.any isMark then [.markInVariableName name]
  else []

/-- Everything that is wrong with a configuration, in the order of its fields. -/
def errors (configuration : Configuration) : List Error :=
  hostErrors configuration.host ++
    (if configuration.port = 0 then [.zeroPort] else []) ++
    (if configuration.bindClientAddress ∧ (IpAddress.parse? configuration.clientIp).isNone then
      [.invalidClientIp configuration.clientIp] else []) ++
    (if configuration.connectTimeoutMs = 0 then [.zeroConnectTimeout] else []) ++
    (if configuration.readTimeoutMs = 0 then [.zeroReadTimeout] else []) ++
    (if configuration.resourceRoot = [] then [.emptyResourceRoot] else []) ++
    (if configuration.maxRedirects = 0 then [.zeroRedirects] else []) ++
    (if (Level.parse? configuration.logLevel).isNone then
      [.unknownLogLevel configuration.logLevel] else []) ++
    configuration.vars.names.flatMap variableNameErrors

/-! ## Variables of a run -/

/-- The variables that every run has. -/
def builtInVariables (configuration : Configuration) : List (Text × Text) :=
  [("host".toList, configuration.host), ("port".toList, Numeral.write configuration.port.toNat),
    ("client.ip".toList, configuration.clientIp),
    ("client.host".toList, configuration.clientHost)]

/-- The variables that texts of a run may refer to; those that every run has win over those of the
configuration. -/
def substitutor (configuration : Configuration) : Variables :=
  configuration.builtInVariables.foldl (fun vars entry => vars.insert entry.1 entry.2)
    configuration.vars

/-- The address that connections are bound to, if they are bound. -/
def boundAddress? (configuration : Configuration) : Option IpAddress :=
  if configuration.bindClientAddress then IpAddress.parse? configuration.clientIp else none

end Configuration

end HttpConformance
