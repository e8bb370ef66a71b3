import HttpConformance.Text.Basic

/-!
# Arguments of a command line

An argument names a setting, which takes a value, or a switch, which takes none. A setting is given
its value after an equals sign, directly after its letter, or in the next argument.

Main definitions: `Setting`, `Switch`, `Argument.ofText`.
-/

namespace HttpConformance.CommandLine

/-! ## Settings and switches -/

/-- What takes a value. -/
inductive Setting where
  | suite
  | config
  | host
  | port
  | resources
  | logLevel
  | logFile
  deriving DecidableEq, Repr

/-- What takes no value. -/
inductive Switch where
  | json
  | help
  | version
  deriving DecidableEq, Repr

/-- The name of a setting. -/
def Setting.name : Setting → Text
  | suite => "suite".toList
  | config => "config".toList
  | host => "host".toList
  | port => "port".toList
  | resources => "resources".toList
  | logLevel => "log-level".toList
  | logFile => "log-file".toList

/-- The letter of a setting. -/
def Setting.letter? : Setting → Option Char
  | suite => some 's'
  | config => some 'c'
  | port => some 'p'
  | resources => some 'r'
  | logLevel => some 'l'
  | host | logFile => none

/-- The name of a switch. -/
def Switch.name : Switch → Text
  | json => "json".toList
  | help => "help".toList
  | version => "version".toList

/-- The letter of a switch. -/
def Switch.letter? : Switch → Option Char
  | json => none
  | help => some 'h'
  | version => some 'V'

/-- Every setting. -/
def settings : List Setting :=
  [.suite, .config, .host, .port, .resources, .logLevel, .logFile]

/-- Every switch. -/
def switches : List Switch :=
  [.json, .help, .version]

/-! ## Arguments -/

/-- One argument as it is meant. -/
inductive Argument where
  /-- A setting, with its value if that is in the same argument. -/
  | sets (setting : Setting) (value : Option Text)
  /-- A switch, with the value that it should not have. -/
  | turns (switch : Switch) (value : Option Text)
  /-- Two hyphens, after which no argument names anything. -/
  | escape
  /-- A text that names nothing, and so may be a value. -/
  | plain (text : Text)
  | unknown (text : Text)
  deriving DecidableEq, Repr

namespace Argument

/-- What a name and a value after it mean. -/
def ofName (name : Text) (value : Option Text) : Argument :=
  match settings.find? (·.name = name), switches.find? (·.name = name) with
  | some setting, _ => .sets setting value
  | none, some switch => .turns switch value
  | none, none => .unknown ('-' :: '-' :: name)

/-- The value directly after a letter, with or without an equals sign. -/
def attachedValue? : Text → Option Text
  | [] => none
  | '=' :: value => some value
  | value => some value

/-- What a letter and the text after it mean. After the letter of a switch the text does not
matter, for a switch with a letter ends the reading. -/
def ofLetter (letter : Char) (rest : Text) : Argument :=
  match settings.find? (·.letter? = some letter), switches.find? (·.letter? = some letter) with
  | some setting, _ => .sets setting (attachedValue? rest)
  | none, some switch => .turns switch none
  | none, none => .unknown ['-', letter]

/-- What an argument means. -/
def ofText : Text → Argument
  | ['-', '-'] => .escape
  | '-' :: '-' :: long =>
    match cutAt '=' long with
    | some (name, value) => ofName name (some value)
    | none => ofName long none
  | '-' :: letter :: rest => ofLetter letter rest
  | text => .plain text

end Argument

end HttpConformance.CommandLine
