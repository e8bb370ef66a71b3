import HttpConformance.Text.Basic

/-!
# Log levels

How much is logged, from nothing to every detail. A level lets through the entries of its own level
and of those below it.

Main definitions: `Level`, `Level.parse?`, `Level.lets`.
-/

namespace HttpConformance

/-- A level of a log, or of an entry in it. -/
inductive Level where
  | off
  | error
  | warn
  | info
  | debug
  | trace
  deriving DecidableEq, Repr

namespace Level

/-- The levels, in ascending order. -/
def all : List Level :=
  [off, error, warn, info, debug, trace]

/-- The number of a level. -/
def number : Level → Nat
  | off => 0
  | error => 1
  | warn => 2
  | info => 3
  | debug => 4
  | trace => 5

/-- The name of a level. -/
def name : Level → Text
  | off => "OFF".toList
  | error => "ERROR".toList
  | warn => "WARN".toList
  | info => "INFO".toList
  | debug => "DEBUG".toList
  | trace => "TRACE".toList

/-- Reads a level, by its name in any letter case or by its number. -/
def parse? (text : Text) : Option Level :=
  let word := Text.upperAscii (Text.trim text)
  all.find? fun level => word = level.name ∨ word = Nat.toDigits 10 level.number

/-- A log at this level keeps an entry of the given level. An entry of level `off` is kept by
none. -/
def lets (level entry : Level) : Bool :=
  entry ≠ off && entry.number ≤ level.number

end Level

end HttpConformance
