import HttpConformance.ContentType
import HttpConformance.Text.Quoted

/-!
# Expectations

What a test expects of a response. Every part but the status expects nothing by default; the status
is expected to be a success.

Main definitions:

- `Expectations` and the parts it is made of.
- `HeaderPredicate.parse` and `HeaderPredicate.parseList`.
- `ContentTypeExpectation.parse`.
-/

namespace HttpConformance

/-! ## The parts -/

/-- What is expected of the status code. -/
inductive StatusExpectation where
  | exact (code : UInt16)
  /-- A code from 200 to 399. -/
  | success
  | any
  deriving DecidableEq, Repr

/-- How texts are compared. -/
inductive MatchMode where
  | exact
  | substring
  deriving DecidableEq, Repr

/-- A header field by name and, if there is one, by value. -/
structure HeaderPredicate where
  name : Text
  value : Option Text
  deriving DecidableEq, Repr

/-- What is expected of the content type. -/
inductive ContentTypeExpectation where
  | any
  | mediaType (mediaType : Text) (charset : Option Text)
  deriving DecidableEq, Repr

/-- What is expected of the body. -/
inductive BodyExpectation where
  /-- The content of a golden resource, as the match mode compares it. -/
  | golden (path : Text)
  | containsLines (lines : List Text)
  | excludesLines (lines : List Text)
  | empty
  deriving DecidableEq, Repr

/-- A cookie by name and, if there is one, by value. -/
structure CookieExpectation where
  name : Text
  value : Option Text
  deriving DecidableEq, Repr

/-- Everything that a test expects of a response. -/
structure Expectations where
  status : StatusExpectation := .success
  statusMessage : Option Text := none
  expectedHeaders : List HeaderPredicate := []
  unexpectedHeaders : List HeaderPredicate := []
  contentType : ContentTypeExpectation := .any
  body : List BodyExpectation := []
  matchMode : MatchMode := .exact
  cookies : List CookieExpectation := []
  charsetOverride : Option Text := none
  followRedirects : Bool := false
  deriving DecidableEq, Repr

/-! ## Header predicates -/

namespace HeaderPredicate

/-- Why a text is not a header predicate: it has no name. -/
structure Error where
  predicate : Text
  deriving DecidableEq, Repr

/-- The wording of the error. -/
def Error.message (error : Error) : Text :=
  "Header predicate ".toList ++ Text.quoted error.predicate ++ " has no header name".toList

/-- Reads a predicate: a name, and a value after the first colon. -/
def parse (text : Text) : Except Error HeaderPredicate :=
  let (name, value) :=
    match cutAt ':' text with
    | some (name, value) => (Text.trim name, some (Text.trim value))
    | none => (Text.trim text, none)
  if name = [] then .error ⟨text⟩ else .ok ⟨name, value⟩

/-- The predicate as it is written. -/
def describe (predicate : HeaderPredicate) : Text :=
  match predicate.value with
  | some value => predicate.name ++ ':' :: ' ' :: value
  | none => predicate.name

/-- The text between a bar and the next one, and what follows that one. -/
def barred? (text : Text) : Option (Text × Text) :=
  match text with
  | '|' :: rest => cutAt '|' rest
  | _ => none

/-- The reference between two bars at the front of a text, and what follows it. -/
def reference? (isPlaceholder : Text → Bool) (text : Text) : Option (Text × Text) :=
  (barred? text).filter fun (name, _) => name ≠ [] && isPlaceholder name

/-- What stands behind a reference is shorter than the whole. -/
theorem length_lt_of_reference? {isPlaceholder : Text → Bool} {text name rest : Text}
    (h : reference? isPlaceholder text = some (name, rest)) : rest.length < text.length := by
  obtain ⟨hbarred, _⟩ := Option.filter_eq_some_iff.1 h
  unfold barred? at hbarred
  split at hbarred
  · exact Nat.lt_succ_of_lt (length_lt_of_cutAt hbarred)
  · exact absurd hbarred (by simp)

/-- The parts of a text between the bars. A reference between two bars, from the left, stays inside
its part. -/
def splitList (isPlaceholder : Text → Bool) : Text → List Text
  | [] => [[]]
  | c :: rest =>
    match h : reference? isPlaceholder (c :: rest) with
    | some (name, after) =>
      have := length_lt_of_reference? h
      (splitList isPlaceholder after).modifyHead (('|' :: name ++ ['|']) ++ ·)
    | none =>
      if c = '|' then [] :: splitList isPlaceholder rest
      else (splitList isPlaceholder rest).modifyHead (c :: ·)
termination_by text => text.length
decreasing_by
  · assumption
  · exact Nat.lt_succ_self rest.length
  · exact Nat.lt_succ_self rest.length

/-- Reads a list of predicates between bars, of which blank ones count for nothing. The first error
is the error of the list. -/
def parseListWith (isPlaceholder : Text → Bool) (text : Text) :
    Except Error (List HeaderPredicate) :=
  ((splitList isPlaceholder text).filter (!Text.isAllBlank ·)).mapM parse

/-- Reads a list of predicates in which no bar belongs to a reference. -/
def parseList (text : Text) : Except Error (List HeaderPredicate) :=
  parseListWith (fun _ => false) text

end HeaderPredicate

/-! ## Content types -/

namespace ContentTypeExpectation

/-- Why a text is not a content type: its media type has no slash. -/
structure Error where
  contentType : Text
  deriving DecidableEq, Repr

/-- The wording of the error. -/
def Error.message (error : Error) : Text :=
  "Invalid content type: ".toList ++ Text.quoted error.contentType

/-- Reads what is expected of the content type. -/
def parse (text : Text) : Except Error ContentTypeExpectation :=
  if '/' ∈ ContentType.mediaType text then
    .ok (.mediaType (ContentType.mediaType text) (ContentType.charset? text))
  else .error ⟨text⟩

end ContentTypeExpectation

end HttpConformance
