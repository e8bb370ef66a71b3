import HttpConformance.Text.Basic

/-!
# Content types

A `Content-Type` value names a media type and, behind semicolons, parameters, of which the charset
is read.

Main definitions: `ContentType.mediaType` and `ContentType.charset?`.
-/

namespace HttpConformance.ContentType

/-- The text without the double quotes at its two ends. -/
def trimQuotes (text : Text) : Text :=
  dropEndWhile (· == '"') (text.dropWhile (· == '"'))

/-- The media type, in lower case and without the parameters. -/
def mediaType (value : Text) : Text :=
  Text.lowerAscii (Text.trim (value.takeWhile (· != ';')))

/-- The charset that a parameter names, if it is a charset parameter. -/
def charsetOf? (parameter : Text) : Option Text :=
  match cutAt '=' parameter with
  | some (name, value) =>
    if Text.sameIgnoringCase (Text.trim name) "charset".toList then
      some (trimQuotes (Text.trim value))
    else none
  | none => none

/-- The charset that the first charset parameter names. -/
def charset? (value : Text) : Option Text :=
  (value.splitOn ';').tail.findSome? charsetOf?

end HttpConformance.ContentType
