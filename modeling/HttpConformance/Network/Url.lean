import HttpConformance.Numeral
import HttpConformance.Text.Utf8

/-!
# URLs

The part of a URL after its scheme: an authority, a path and a query. A fragment is dropped.

URLs are read by a library that the program relies on, not by the program itself. This module stands
for that library and follows its documented rules: how long a URL may be, which characters may stand
in each part, and which error is found first.

Main definitions: `Url`, `Url.parse`, `Url.host`, `Url.port?`.
-/

namespace HttpConformance

/-- A URL without its scheme. -/
structure Url where
  authority : Text
  path : Text
  query : Option Text
  deriving DecidableEq, Repr

namespace Url

/-- Why a text is not a URL. -/
inductive Error where
  | tooLong
  | empty
  | invalidCharacter
  | invalidAuthority
  | invalidFormat
  deriving DecidableEq, Repr

/-- The wording of an error. -/
def Error.message : Error → Text
  | .tooLong => "uri too long".toList
  | .empty => "empty string".toList
  | .invalidCharacter => "invalid uri character".toList
  | .invalidAuthority => "invalid authority".toList
  | .invalidFormat => "invalid format".toList

/-! ## The authority -/

/-- The characters that may stand in an authority without a meaning of their own there. -/
def isPlainInAuthority (c : Char) : Bool :=
  c.isAlphanum || "!$&'()*+,-.;=_~".toList.contains c

/-- The largest number of colons in a part of an authority. -/
def maxColons : Nat := 8

/-- What has been seen of an authority: the colons and a percent sign since the last bracket or at
sign, the two brackets, and whether an at sign was last. -/
structure Authority where
  colons : Nat
  percent : Bool
  opened : Bool
  closed : Bool
  atLast : Bool
  deriving DecidableEq, Repr

/-- One more character of an authority. -/
def Authority.step (seen : Authority) (c : Char) : Except Error Authority :=
  let seen := { seen with atLast := false }
  if c = ':' then
    if maxColons ≤ seen.colons then .error .invalidAuthority
    else .ok { seen with colons := seen.colons + 1 }
  else if c = '[' then
    if seen.percent ∨ seen.opened then .error .invalidAuthority
    else .ok { seen with opened := true }
  else if c = ']' then
    if !seen.opened ∨ seen.closed then .error .invalidAuthority
    else .ok { seen with closed := true, colons := 0, percent := false }
  else if c = '@' then .ok { seen with colons := 0, percent := false, atLast := true }
  else if c = '%' then .ok { seen with percent := true }
  else if isPlainInAuthority c then .ok seen
  else .error .invalidCharacter

/-- Whether an authority may end after what has been seen. -/
def Authority.mayEnd (seen : Authority) : Bool :=
  seen.opened == seen.closed && seen.colons ≤ 1 && !seen.atLast && !seen.percent

/-- Checks an authority from the left; the first error counts. -/
def checkAuthority (text : Text) : Except Error Unit :=
  match text.foldlM Authority.step ⟨0, false, false, false, false⟩ with
  | .error error => .error error
  | .ok seen =>
    if !seen.mayEnd then .error .invalidAuthority
    else if text = [] then .error .invalidFormat
    else .ok ()

/-! ## The path and the query -/

/-- A character that ends an authority. -/
def endsAuthority (c : Char) : Bool :=
  c == '/' || c == '?' || c == '#'

/-- A character that ends a path. -/
def endsPath (c : Char) : Bool :=
  c == '?' || c == '#'

/-- The characters that may stand in a path. -/
def isPathChar (c : Char) : Bool :=
  let n := c.toNat
  n == 0x21 || n == 0x22 || (0x24 ≤ n && n ≤ 0x3B) || n == 0x3D || (0x40 ≤ n && n ≤ 0x5F) ||
    (0x61 ≤ n && n ≤ 0x7E) || 0x80 ≤ n

/-- The characters that may stand in a query. -/
def isQueryChar (c : Char) : Bool :=
  let n := c.toNat
  n == 0x21 || (0x24 ≤ n && n ≤ 0x3B) || n == 0x3D || (0x3F ≤ n && n ≤ 0x7E) || 0x80 ≤ n

/-- The query at the front of what follows a path, if there is one. -/
def queryOf? : Text → Option Text
  | '?' :: rest => some (rest.takeWhile (· != '#'))
  | _ => none

/-! ## The URL -/

/-- The largest number of bytes after the scheme. -/
def maxLength : Nat := 65534

/-- Reads what follows the scheme and the two slashes. -/
def parse (text : Text) : Except Error Url := do
  if maxLength < (Utf8.encode text).length then .error .tooLong
  else if text = [] then .error .empty
  else
    let authority := text.takeWhile (!endsAuthority ·)
    checkAuthority authority
    let rest := text.dropWhile (!endsAuthority ·)
    let path := rest.takeWhile (!endsPath ·)
    let query := queryOf? (rest.dropWhile (!endsPath ·))
    if path.all isPathChar ∧ query.all (·.all isQueryChar) then
      .ok ⟨authority, if path = [] then ['/'] else path, query⟩
    else .error .invalidCharacter

/-- The text after the last of the given characters, or all of it. -/
def afterLast (c : Char) (text : Text) : Text :=
  (text.reverse.takeWhile (· != c)).reverse

/-- The host: what follows the last at sign, up to a closing bracket if it begins with a bracket,
and up to the first colon otherwise. -/
def host (url : Url) : Text :=
  let place := afterLast '@' url.authority
  if place.head? = some '[' then place.takeWhile (· != ']') ++ [']']
  else place.takeWhile (· != ':')

/-- The port: what follows the last colon, if it is a port number. -/
def port? (url : Url) : Option UInt16 :=
  if ':' ∈ url.authority then Numeral.readPort? (afterLast ':' url.authority) else none

/-- The path with the query. -/
def target (url : Url) : Text :=
  url.path ++
    match url.query with
    | some query => '?' :: query
    | none => []

end Url

end HttpConformance
