import HttpConformance.Cookie.Basic
import HttpConformance.Message.Head
import HttpConformance.Text.Quoted

/-!
# The Set-Cookie field

A `Set-Cookie` value is a name and a value, followed by attributes behind semicolons. Attributes
are known by name in any letter case; an unknown one says nothing, and of a repeated one the last
counts.

Main definitions: `Cookie.parseSetCookie`, `Cookie.ofFields`.
-/

namespace HttpConformance.Cookie

/-- What an attribute is about. -/
inductive Attribute where
  | path
  | domain
  | maxAge
  | secure
  | httpOnly
  | version
  | comment
  | expires
  deriving DecidableEq, Repr

/-- The attributes by name, in lower case. -/
def attributeNames : List (Text × Attribute) :=
  [("path".toList, .path), ("domain".toList, .domain), ("max-age".toList, .maxAge),
    ("secure".toList, .secure), ("httponly".toList, .httpOnly), ("version".toList, .version),
    ("comment".toList, .comment), ("expires".toList, .expires)]

/-- A name and the value after its equals sign. -/
def splitPair (text : Text) : Text × Text :=
  match cutAt '=' text with
  | some (name, value) => (Text.trim name, unquote (Text.trim value))
  | none => (text, [])

/-- The number of seconds that a Max-Age attribute gives. -/
def readMaxAge? (value : Text) : Option Int :=
  Numeral.readInt? Numeral.minInt64 Numeral.maxInt64 value

/-- The version that a Version attribute gives, 0 if it gives none. -/
def readVersion (value : Text) : UInt8 :=
  ((Numeral.readNat? 255 value).getD 0).toUInt8

/-- The cookie with one attribute set. -/
def setAttribute (cookie : Cookie) (value : Text) : Attribute → Cookie
  | .path => { cookie with path := some value }
  | .domain => { cookie with domain := some value }
  | .maxAge =>
    match readMaxAge? value with
    | some seconds => { cookie with maxAge := some seconds }
    | none => cookie
  | .secure => { cookie with secure := true }
  | .httpOnly => { cookie with httpOnly := true }
  | .version => { cookie with version := readVersion value }
  | .comment => { cookie with comment := some value }
  | .expires => { cookie with expires := some value }

/-- The attribute that a segment names. -/
def attributeOf? (segment : Text) : Option Attribute :=
  attributeNames.lookup (Text.lowerAscii (splitPair (Text.trim segment)).1)

/-- The cookie with what one segment says. -/
def addSegment (cookie : Cookie) (segment : Text) : Cookie :=
  match attributeOf? segment with
  | some kind => cookie.setAttribute (splitPair (Text.trim segment)).2 kind
  | none => cookie

/-- The character between the segments of a `Set-Cookie` value. -/
def isSegmentEnd (c : Char) : Bool :=
  c == ';'

/-- The cookie that a `Set-Cookie` value hands out. -/
def parseSetCookie (value : Text) : Cookie :=
  match splitOutsideQuotes isSegmentEnd value with
  | [] => { name := [], value := [] }
  | first :: segments =>
    let (name, value) := splitPair (Text.trim first)
    segments.foldl addSegment { name, value }

/-- The cookies that the fields of a response hand out, in order. -/
def ofFields (fields : List HeaderField) : List Cookie :=
  (HeaderField.values "Set-Cookie".toList fields).map parseSetCookie

/-- A field of the name `Set-Cookie` hands out one cookie, and a field of another name none. -/
theorem ofFields_cons (field : HeaderField) (fields : List HeaderField) :
    ofFields (field :: fields) =
      if field.isNamed "Set-Cookie".toList then parseSetCookie field.value :: ofFields fields
      else ofFields fields := by
  rw [ofFields, HeaderField.values_cons]
  split
  · rw [List.map_cons, ofFields]
  · rw [ofFields]

/-- Every cookie is handed out by a field of the name `Set-Cookie`. -/
theorem mem_ofFields_iff {cookie : Cookie} {fields : List HeaderField} :
    cookie ∈ ofFields fields ↔
      ∃ field ∈ fields, field.isNamed "Set-Cookie".toList = true ∧
        parseSetCookie field.value = cookie := by
  rw [ofFields, List.mem_map]
  constructor
  · rintro ⟨value, hvalue, rfl⟩
    obtain ⟨field, hfield, hnamed, rfl⟩ := HeaderField.mem_values_iff.1 hvalue
    exact ⟨field, hfield, hnamed, rfl⟩
  · rintro ⟨field, hfield, hnamed, rfl⟩
    exact ⟨field.value, HeaderField.mem_values_iff.2 ⟨field, hfield, hnamed, rfl⟩, rfl⟩

/-- There are as many cookies as fields of the name `Set-Cookie`. -/
theorem length_ofFields (fields : List HeaderField) :
    (ofFields fields).length = fields.countP (·.isNamed "Set-Cookie".toList) := by
  rw [ofFields, HeaderField.values, List.length_map, List.length_map, List.countP_eq_length_filter]

/-! ## What is passed over -/

/-- What a segment of a cookie says that is passed over. -/
def remarkOnSegment? (name : Text) (segment : Text) : Option Text :=
  let (given, value) := splitPair (Text.trim segment)
  match attributeOf? segment with
  | some .maxAge =>
    if (readMaxAge? value).isSome then none
    else
      some ("Ignoring invalid Max-Age ".toList ++ Text.quoted value ++ " on cookie ".toList ++ name)
  | some _ => none
  | none =>
    if Text.trim segment = [] then none
    else
      some ("Ignoring unknown cookie attribute ".toList ++
        Text.quoted (Text.lowerAscii given) ++ " on cookie ".toList ++ name)

/-- What a `Set-Cookie` value says that is passed over. -/
def remarks (value : Text) : List Text :=
  (splitOutsideQuotes isSegmentEnd value).tail.filterMap
    (remarkOnSegment? (parseSetCookie value).name)

end HttpConformance.Cookie
