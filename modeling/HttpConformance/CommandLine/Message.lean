import HttpConformance.CommandLine.Basic
import HttpConformance.Text.Terminal

/-!
# Messages about the command line

What is shown to somebody who asks for help, or whose command line cannot be read.

A message quotes arguments as they were given, but it is shown without the commands to a terminal
that they may contain. Where a word is set off from the text around it, a change of style ends
whatever sequence is open.

Main definitions: `CommandLine.help`, `CommandLine.versionLine` and `CommandLine.Error.render`.
-/

namespace HttpConformance.CommandLine

/-! ## Help -/

/-- The name of the program. -/
def programName : Text := "http-assert".toList

/-- The version of the program. -/
def programVersion : Text := "0.1.0".toList

/-- The name and the version of the program. -/
def versionLine : Text :=
  programName ++ ' ' :: programVersion

/-- What a setting is for. -/
def Setting.purpose : Setting → Text
  | suite => "Suite file (JSON) with the test cases to run".toList
  | config => "Run configuration file (JSON)".toList
  | host => "Target host, overrides configuration and environment".toList
  | port => "Target port, overrides configuration and environment".toList
  | resources => "Root directory of the golden resources".toList
  | logLevel => "Log level (OFF, ERROR, WARN, INFO, DEBUG, TRACE or 0-5, any case)".toList
  | logFile => "Also write log lines to this file".toList

/-- What a switch is for. -/
def Switch.purpose : Switch → Text
  | json => "Print the suite report as JSON".toList
  | help => "Print help".toList
  | version => "Print version".toList

/-- A setting with a place for its value. -/
def Setting.usage (setting : Setting) : Text :=
  '-' :: '-' :: setting.name ++ " <".toList ++ setting.name ++ ['>']

/-- A switch as it is given. -/
def Switch.usage (switch : Switch) : Text :=
  '-' :: '-' :: switch.name

/-- The width of the names in the help text. -/
def nameWidth : Nat := 25

/-- A line of the help text. -/
def helpLine (letter : Option Char) (usage purpose : Text) : Text :=
  (match letter with
    | some letter => [' ', ' ', '-', letter, ',', ' ']
    | none => List.replicate 6 ' ') ++
  usage ++ List.replicate (nameWidth - usage.length) ' ' ++ purpose ++ ['\n']

/-- How the program is called. -/
def usageLine : Text :=
  "Usage: ".toList ++ programName ++ " [OPTIONS] ".toList ++ Setting.suite.usage

/-- The help text. -/
def help : Text :=
  "Run a suite of raw HTTP assertions against a server\n\n".toList ++ usageLine ++
    "\n\nOptions:\n".toList ++
    settings.flatMap (fun setting => helpLine setting.letter? setting.usage setting.purpose) ++
    switches.flatMap fun switch => helpLine switch.letter? switch.usage switch.purpose

/-! ## Errors -/

/-- The wording of what is wrong with a value. -/
def ValueFault.message (value : Text) : ValueFault → Text
  | .noPath => "Path does not exist: ".toList ++ value
  | .notFile => "Path is not a file: ".toList ++ value
  | .notNumber error => error.message
  | .outOfRange number => Numeral.writeInt number ++ " is not in 1..=65535".toList
  | .unknownLevel => "Unknown log level: ".toList ++ value

/-- An argument as it was given. -/
def Argument.describe : Argument → Text
  | .sets setting _ => setting.usage
  | .turns switch _ => switch.usage
  | .escape => "--".toList
  | .plain text => text
  | .unknown text => text

/-- A part of a message. -/
inductive Span where
  | plain (text : Text)
  /-- A part that is set off by its style, so that no sequence is open at its ends. -/
  | marked (text : Text)
  deriving DecidableEq, Repr

/-- What a terminal in the given state shows of the spans. -/
def Span.showFrom (state : Terminal.State) : List Span → Text
  | [] => []
  | .plain text :: rest =>
    let (shown, next) := Terminal.scan state text
    shown ++ showFrom next rest
  | .marked text :: rest => Terminal.visible text ++ showFrom .text rest

/-- Words of the program's own. -/
def said (words : String) : List Span :=
  [.plain words.toList]

/-- A marked text in single quotes. -/
def inQuotes (text : Text) : List Span :=
  [.plain ['\''], .marked text, .plain ['\'']]

/-- What an error says. -/
def Error.message : Error → List Span
  | .unknownArgument argument =>
    said "unexpected argument " ++ inQuotes argument.describe ++ said " found"
  | .missingValue setting | .emptyPath setting =>
    said "a value is required for " ++ inQuotes setting.usage ++ said " but none was supplied"
  | .repeatedSetting setting =>
    said "the argument " ++ inQuotes setting.usage ++ said " cannot be used multiple times"
  | .repeatedSwitch switch =>
    said "the argument " ++ inQuotes switch.usage ++ said " cannot be used multiple times"
  | .unexpectedValue switch value =>
    said "unexpected value " ++ inQuotes value ++ said " for " ++ inQuotes switch.usage ++
      said " found; no more were expected"
  | .invalidValue setting value fault =>
    said "invalid value " ++ inQuotes value ++ said " for " ++ inQuotes setting.usage ++
      said ": " ++ [.plain (fault.message value)]
  | .missingSuite =>
    said "the following required arguments were not provided:\n  " ++ [.marked Setting.suite.usage]
  | .helpWanted => said "help is wanted"
  | .versionWanted => said "the version is wanted"

/-- The error concerns the arguments as a whole, so that it helps to see how the program is called,
and not the value of one setting. -/
def Error.concernsUsage : Error → Bool
  | .missingValue _ | .emptyPath _ | .invalidValue _ _ _ => false
  | _ => true

/-- What follows the message of an error: how the program is called, and where to read more. -/
def Error.advice (error : Error) : List Span :=
  (if error.concernsUsage then said "\n\n" ++ [.marked usageLine] else []) ++
    said "\n\nFor more information, try " ++ inQuotes Switch.help.usage ++ said ".\n"

/-- An error as it is shown. -/
def Error.render (error : Error) : Text :=
  Span.showFrom .text
    ([.marked "error:".toList] ++ said " " ++ error.message ++ error.advice)

end HttpConformance.CommandLine
