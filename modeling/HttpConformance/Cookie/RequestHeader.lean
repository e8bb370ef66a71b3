import HttpConformance.Cookie.Basic
import HttpConformance.Numeral

/-!
# The Cookie field

How a cookie is sent back to the server, and how such a field is read.

Main definitions: `Cookie.render` and `Cookie.parseHeader`.
-/

namespace HttpConformance.Cookie

/-- An attribute that is sent back with a cookie. -/
def renderAttribute (name : String) : Option Text → Text
  | some value => ';' :: ' ' :: '$' :: name.toList ++ '=' :: quoteIfNeeded value
  | none => []

/-- The cookie as the value of a `Cookie` field. From version 1 on, the version comes before the
pair and the path and the domain after it. -/
def render (cookie : Cookie) : Text :=
  let pair := cookie.name ++ '=' :: quoteIfNeeded cookie.value
  if cookie.version = 0 then pair
  else
    "$Version=".toList ++ Numeral.write cookie.version.toNat ++ ';' :: ' ' :: pair ++
      renderAttribute "Path" cookie.path ++ renderAttribute "Domain" cookie.domain

/-- The characters between the pairs of a `Cookie` value. -/
def isPairEnd (c : Char) : Bool :=
  c == ';' || c == ','

/-- The name and the value of a part of a `Cookie` value. A part without a name is none, and neither
is an attribute, whose name begins with a dollar sign. -/
def readPair? (part : Text) : Option (Text × Text) :=
  match cutAt '=' (Text.trim part) with
  | none => none
  | some (name, value) =>
    let name := Text.trim name
    if name = [] ∨ name.head? = some '$' then none else some (name, unquote (Text.trim value))

/-- The names and values in a `Cookie` value, in order. -/
def parseHeader (value : Text) : List (Text × Text) :=
  (splitOutsideQuotes isPairEnd value).filterMap readPair?

end HttpConformance.Cookie
