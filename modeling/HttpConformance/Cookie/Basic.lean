import HttpConformance.Text.Basic

/-!
# Cookies

A cookie as a server hands it out, and the two ways of writing a value: bare, or between double
quotes with a backslash before a quote or a backslash.

Main definitions: `Cookie`, `Cookie.quoteIfNeeded`, `Cookie.unquote`, `Cookie.splitOutsideQuotes`.
-/

namespace HttpConformance

/-- A cookie. Version 0 is a plain pair of name and value; later versions carry attributes back to
the server. -/
structure Cookie where
  name : Text
  value : Text
  domain : Option Text := none
  path : Option Text := none
  maxAge : Option Int := none
  secure : Bool := false
  httpOnly : Bool := false
  version : UInt8 := 0
  comment : Option Text := none
  expires : Option Text := none
  deriving DecidableEq, Repr

namespace Cookie

/-! ## Quoting -/

/-- The value cannot stand bare: it has a blank, a separator, a quote or a backslash. -/
def needsQuotes (value : Text) : Bool :=
  value.any fun c => Text.isBlank c || c == ';' || c == ',' || c == '"' || c == '\\'

/-- One character between quotes. -/
def escapeInQuotes (c : Char) : Text :=
  if c = '"' ∨ c = '\\' then ['\\', c] else [c]

/-- The value, between quotes if it cannot stand bare. -/
def quoteIfNeeded (value : Text) : Text :=
  if needsQuotes value then '"' :: value.flatMap escapeInQuotes ++ ['"'] else value

/-- The characters between quotes without their escapes; a backslash at the end stands for
nothing. -/
def unescape : Text → Text
  | [] => []
  | ['\\'] => []
  | '\\' :: c :: rest => c :: unescape rest
  | c :: rest => c :: unescape rest

/-- The value that a text writes, bare or between quotes. -/
def unquote (text : Text) : Text :=
  if 2 ≤ text.length ∧ text.head? = some '"' ∧ text.getLast? = some '"' then
    unescape text.tail.dropLast
  else text

/-! ## Splitting -/

/-- Where a character stands with respect to quotes. -/
inductive Position where
  | outside
  | inside
  | escaped
  deriving DecidableEq, Repr

/-- The position after a character. -/
def Position.after (c : Char) : Position → Position
  | outside => if c = '"' then inside else outside
  | inside => if c = '\\' then escaped else if c = '"' then outside else inside
  | escaped => inside

/-- The parts of a text between the separators that stand outside quotes, when the text starts at
the given position. -/
def splitFrom (isSeparator : Char → Bool) (position : Position) : Text → List Text
  | [] => [[]]
  | c :: rest =>
    if position = .outside ∧ isSeparator c then [] :: splitFrom isSeparator .outside rest
    else (splitFrom isSeparator (position.after c) rest).modifyHead (c :: ·)

/-- The parts of a text between the separators that stand outside quotes. -/
def splitOutsideQuotes (isSeparator : Char → Bool) (text : Text) : List Text :=
  splitFrom isSeparator .outside text

end Cookie

end HttpConformance
