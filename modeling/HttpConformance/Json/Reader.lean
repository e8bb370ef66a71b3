import HttpConformance.Json.Basic
import HttpConformance.Numeral

/-!
# Reading JSON

A text is cut into tokens, and the tokens drive a machine whose stack holds the arrays and objects
that are still open. The machine takes one token at a time, so the depth of a value is bounded by
nothing but the length of its text.

The grammar is the strict one: no comment, no trailing comma, no control character inside a string,
and nothing but blanks after the value.

Main definition: `Json.parse?`.
-/

namespace HttpConformance.Json

/-! ## Tokens -/

/-- What a JSON text is made of. -/
inductive Token where
  | openArray
  | closeArray
  | openObject
  | closeObject
  | comma
  | colon
  | string (value : Option Text)
  | atom (value : Json)

/-- A unit of a string: a character, or half of a surrogate pair written as an escape. -/
inductive StringUnit where
  | char (c : Char)
  | surrogate (code : Nat)

/-- The text of some units; a high surrogate and a low one right after it are one character, and
any other surrogate leaves no text. -/
def textOfUnits : List StringUnit → Option Text
  | [] => some []
  | .char c :: rest => (textOfUnits rest).map (c :: ·)
  | .surrogate high :: .surrogate low :: rest =>
    if high < 0xDC00 ∧ 0xDC00 ≤ low then
      (textOfUnits rest).map
        (Char.ofNat (0x10000 + (high - 0xD800) * 0x400 + (low - 0xDC00)) :: ·)
    else none
  | .surrogate _ :: _ => none

/-- The unit with the given code. -/
def unitOfCode (code : Nat) : StringUnit :=
  if 0xD800 ≤ code ∧ code ≤ 0xDFFF then .surrogate code else .char (Char.ofNat code)

/-- The character that a one-letter escape stands for. -/
def escaped? : Char → Option Char
  | '"' => some '"'
  | '\\' => some '\\'
  | '/' => some '/'
  | 'b' => some '\x08'
  | 'f' => some '\x0c'
  | 'n' => some '\n'
  | 'r' => some '\r'
  | 't' => some '\t'
  | _ => none

/-- Reads a string after its opening quote: its units, and what follows the closing quote. -/
def stringUnits? : Text → Option (List StringUnit × Text)
  | [] => none
  | '"' :: rest => some ([], rest)
  | '\\' :: 'u' :: a :: b :: c :: d :: rest => do
    let code ← Numeral.hexValue? 0 [a, b, c, d]
    let (units, after) ← stringUnits? rest
    return (unitOfCode code :: units, after)
  | '\\' :: e :: rest => do
    let c ← escaped? e
    let (units, after) ← stringUnits? rest
    return (.char c :: units, after)
  | c :: rest =>
    if c.toNat < 0x20 ∨ c = '\\' then none
    else do
      let (units, after) ← stringUnits? rest
      return (.char c :: units, after)

/-- Reads a run of at least one digit: the run, and what follows it. -/
def digits? (text : Text) : Option (Text × Text) :=
  match text.takeWhile Char.isDigit with
  | [] => none
  | run => some (run, text.dropWhile Char.isDigit)

/-- What follows the fraction of a number, if it has a well-formed one or none. -/
def afterFraction? : Text → Option Text
  | '.' :: rest => (digits? rest).map (·.2)
  | text => some text

/-- What follows the exponent of a number, if it has a well-formed one or none. -/
def afterExponent? : Text → Option Text
  | 'e' :: rest | 'E' :: rest =>
    match rest with
    | '+' :: rest | '-' :: rest => (digits? rest).map (·.2)
    | _ => (digits? rest).map (·.2)
  | text => some text

/-- Reads a number without its sign. A run of digits starts with zero only if it is zero, and minus
zero is no integer. -/
def unsignedNumber? (negative : Bool) (text : Text) : Option (Json × Text) := do
  let (run, rest) ← digits? text
  if run.head? = some '0' ∧ run ≠ ['0'] then none
  let rest' ← afterFraction? rest
  let rest'' ← afterExponent? rest'
  let size := Nat.ofDigitChars 10 run 0
  let value :=
    if rest''.length < rest.length ∨ (negative ∧ size = 0) then Json.fraction
    else .int (if negative then -size else size)
  return (value, rest'')

/-- Reads a number. -/
def number? : Text → Option (Json × Text)
  | '-' :: rest => unsignedNumber? true rest
  | text => unsignedNumber? false text

/-- Reads one token that starts with the given character. -/
def token? (c : Char) (rest : Text) : Option (Token × Text) :=
  match c with
  | '[' => some (.openArray, rest)
  | ']' => some (.closeArray, rest)
  | '\x7b' => some (.openObject, rest)
  | '\x7d' => some (.closeObject, rest)
  | ',' => some (.comma, rest)
  | ':' => some (.colon, rest)
  | '"' => (stringUnits? rest).map fun (units, rest) => (.string (textOfUnits units), rest)
  | 'n' => (['u', 'l', 'l'].isPrefixOf? rest).map (.atom .null, ·)
  | 't' => (['r', 'u', 'e'].isPrefixOf? rest).map (.atom (.bool true), ·)
  | 'f' => (['a', 'l', 's', 'e'].isPrefixOf? rest).map (.atom (.bool false), ·)
  | c => (number? (c :: rest)).map fun (value, rest) => (.atom value, rest)

/-- The blanks between tokens. -/
def isGap (c : Char) : Bool :=
  c == ' ' || c == '\n' || c == '\t' || c == '\r'

/-- The tokens of a text, of which at most `fuel` characters are looked at. -/
def tokensWithin? : Nat → Text → Option (List Token)
  | _, [] => some []
  | 0, _ :: _ => none
  | fuel + 1, c :: rest =>
    if isGap c then tokensWithin? fuel rest
    else do
      let (token, rest) ← token? c rest
      return token :: (← tokensWithin? fuel rest)

/-- The tokens of a text. Every token has a character of its own, so the length of the text is fuel
enough. -/
def tokens? (text : Text) : Option (List Token) :=
  tokensWithin? text.length text

/-! ## The machine -/

/-- An array or object that is still open, with its completed parts, last one first. -/
inductive Frame where
  | array (items : List Json)
  | object (members : List (Option Text × Json)) (name : Option Text)

/-- What the machine has read and what it needs next. -/
inductive State where
  /-- A value. -/
  | awaitValue (stack : List Frame)
  /-- A value, or the end of the array just opened. -/
  | awaitFirstItem (stack : List Frame)
  /-- A name, or the end of the object just opened. -/
  | awaitFirstName (stack : List Frame)
  /-- A name, after a comma. -/
  | awaitName (members : List (Option Text × Json)) (stack : List Frame)
  /-- The colon after a name. -/
  | awaitColon (members : List (Option Text × Json)) (name : Option Text) (stack : List Frame)
  /-- A comma, or the end of what is open, after a complete value. -/
  | complete (value : Json) (stack : List Frame)

/-- Takes the first token of a value. -/
def State.startValue (stack : List Frame) : Token → Option State
  | .openArray => some (.awaitFirstItem stack)
  | .openObject => some (.awaitFirstName stack)
  | .string (some value) => some (.complete (.string value) stack)
  | .string none => some (.complete .brokenString stack)
  | .atom value => some (.complete value stack)
  | _ => none

/-- Takes one token. -/
def State.step (state : State) (token : Token) : Option State :=
  match state, token with
  | .awaitValue stack, token => State.startValue stack token
  | .awaitFirstItem stack, .closeArray => some (.complete (.array []) stack)
  | .awaitFirstItem stack, token => State.startValue (.array [] :: stack) token
  | .awaitFirstName stack, .closeObject => some (.complete (.object []) stack)
  | .awaitFirstName stack, .string name => some (.awaitColon [] name stack)
  | .awaitName members stack, .string name => some (.awaitColon members name stack)
  | .awaitColon members name stack, .colon => some (.awaitValue (.object members name :: stack))
  | .complete value (.array items :: stack), .comma =>
    some (.awaitValue (.array (value :: items) :: stack))
  | .complete value (.array items :: stack), .closeArray =>
    some (.complete (.array (value :: items).reverse) stack)
  | .complete value (.object members name :: stack), .comma =>
    some (.awaitName ((name, value) :: members) stack)
  | .complete value (.object members name :: stack), .closeObject =>
    some (.complete (.object ((name, value) :: members).reverse) stack)
  | _, _ => none

/-- The value read, once nothing is open. -/
def State.finished? : State → Option Json
  | .complete value [] => some value
  | _ => none

/-- The value that a text writes, if the text is JSON. -/
def parse? (text : Text) : Option Json := do
  let tokens ← tokens? text
  let state ← tokens.foldlM State.step (.awaitValue [])
  state.finished?

end HttpConformance.Json
