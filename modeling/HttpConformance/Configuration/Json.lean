import HttpConformance.Configuration.Basic
import HttpConformance.Json.Basic

/-!
# Configurations as JSON

Every field of a configuration may be left out, and then has its default value.

Main definitions: `Configuration.ofJson?` and `Configuration.toJson`.
-/

namespace HttpConformance

/-- Reads a table of variables, of which a later entry wins over an earlier one. -/
def Variables.ofJson? (json : Json) : Option Variables :=
  (json.members? Json.text?).map Variables.ofList

/-- A table of variables as an object. -/
def Variables.toJson (vars : Variables) : Json :=
  .object (vars.entries.map fun (name, value) => (some name, .string value))

/-- Reads a port. -/
def Json.port? (json : Json) : Option UInt16 :=
  (json.nat? 65535).map Nat.toUInt16

/-- Reads a number of milliseconds, of at most 64 bits. -/
def Json.milliseconds? (json : Json) : Option UInt64 :=
  (json.nat? 18446744073709551615).map Nat.toUInt64

namespace Configuration

/-- The names of the fields, in order. -/
def fieldNames : List Text :=
  ["host".toList, "port".toList, "client_ip".toList, "client_host".toList,
    "bind_client_address".toList, "connect_timeout_ms".toList, "read_timeout_ms".toList,
    "resource_root".toList, "max_redirects".toList, "log_level".toList, "variables".toList]

/-- Reads a configuration; a field that is not given is taken from `base`. -/
def ofJsonOver? (base : Configuration) (json : Json) : Option Configuration :=
  match json.fields? fieldNames with
  | some [host, port, clientIp, clientHost, bindClientAddress, connectTimeoutMs, readTimeoutMs,
      resourceRoot, maxRedirects, logLevel, vars] => do
    return {
      host := ← Json.field base.host Json.text? host
      port := ← Json.field base.port Json.port? port
      clientIp := ← Json.field base.clientIp Json.text? clientIp
      clientHost := ← Json.field base.clientHost Json.text? clientHost
      bindClientAddress := ← Json.field base.bindClientAddress Json.bool? bindClientAddress
      connectTimeoutMs := ← Json.field base.connectTimeoutMs Json.milliseconds? connectTimeoutMs
      readTimeoutMs := ← Json.field base.readTimeoutMs Json.milliseconds? readTimeoutMs
      resourceRoot := ← Json.field base.resourceRoot Json.text? resourceRoot
      maxRedirects := ←
        Json.field base.maxRedirects (fun json => (json.nat? 255).map Nat.toUInt8) maxRedirects
      logLevel := ← Json.field base.logLevel Json.text? logLevel
      vars := ← Json.field base.vars Variables.ofJson? vars }
  | _ => none

/-- Reads a configuration. -/
def ofJson? (json : Json) : Option Configuration :=
  ofJsonOver? {} json

/-- A configuration with all its fields. -/
def toJson (configuration : Configuration) : Json :=
  .record [
    ("host", .string configuration.host),
    ("port", .nat configuration.port.toNat),
    ("client_ip", .string configuration.clientIp),
    ("client_host", .string configuration.clientHost),
    ("bind_client_address", .bool configuration.bindClientAddress),
    ("connect_timeout_ms", .nat configuration.connectTimeoutMs.toNat),
    ("read_timeout_ms", .nat configuration.readTimeoutMs.toNat),
    ("resource_root", .string configuration.resourceRoot),
    ("max_redirects", .nat configuration.maxRedirects.toNat),
    ("log_level", .string configuration.logLevel),
    ("variables", configuration.vars.toJson)]

end Configuration

end HttpConformance
