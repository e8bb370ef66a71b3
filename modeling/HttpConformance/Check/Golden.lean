import HttpConformance.Substitution
import HttpConformance.Text.Quoted
import HttpConformance.Verdict

/-!
# Comparing with a golden resource

The expected content of a body may be kept in a golden resource. In exact mode the lines of the two
texts must be the same, where every kind of line break counts alike and line breaks at the end do
not count; a resource that is no text is compared byte by byte. In substring mode every line of the
resource that is not blank must occur somewhere in the body.

Main definitions: `Check.goldenExact` and `Check.goldenLines`.
-/

namespace HttpConformance.Check

/-! ## Lines -/

/-- The text with every line break written as one LF. -/
def unifyBreaks : Text → Text
  | [] => []
  | '\r' :: '\n' :: rest => '\n' :: unifyBreaks rest
  | '\r' :: rest => '\n' :: unifyBreaks rest
  | c :: rest => c :: unifyBreaks rest

/-- The lines of a text; those at the end that are empty do not count. -/
def normalLines (text : Text) : List Text :=
  (dropEndWhile (· == '\n') (unifyBreaks text)).splitOn '\n'

/-- Where two lists of lines first differ, counted from zero, and the lines there; a list that has
ended has no line. -/
def firstDifference : List Text → List Text → Option (Nat × Option Text × Option Text)
  | [], [] => none
  | [], b :: _ => some (0, none, some b)
  | a :: _, [] => some (0, some a, none)
  | a :: as, b :: bs =>
    if a = b then (firstDifference as bs).map fun (index, lines) => (index + 1, lines)
    else some (0, some a, some b)

/-! ## The comparisons -/

/-- A line where two texts differ, in words. -/
def describeLine (number : Nat) (line : Option Text) (ended : String) : Text :=
  "line ".toList ++ Numeral.write number ++ ':' :: ' ' :: Text.quoted (line.getD ended.toList)

/-- What is wrong with the lines of a body that should be those of a golden text. -/
def goldenText (path golden body : Text) : List Diagnostic :=
  match firstDifference (normalLines golden) (normalLines body) with
  | none => []
  | some (index, expected, actual) =>
    [⟨.body, path ++ ' ' :: describeLine (index + 1) expected "<end of content>",
      describeLine (index + 1) actual "<end of body>"⟩]

/-- What is wrong with a body that should be equal to a golden content, given as received and as
text. -/
def goldenExact (vars : Variables) (path : Text) (golden received : Bytes) (body : Text) :
    List Diagnostic :=
  let expected := vars.substituteBytes golden
  match Utf8.decode? expected with
  | some text => goldenText path text body
  | none =>
    if received = expected then []
    else
      [⟨.body, Numeral.write expected.length ++ " bytes of ".toList ++ path,
        Numeral.write received.length ++ " bytes that differ".toList⟩]

/-- The lines of a golden content that a body must contain: without blanks around them, and not
blank themselves. -/
def requiredLines (vars : Variables) (golden : Bytes) : List Text :=
  (((vars.substitute (Utf8.decodeLossy golden)).splitOn '\n').map Text.trim).filter (· ≠ [])

/-- What is wrong with a body that should contain the lines of a golden content. -/
def goldenLines (vars : Variables) (path : Text) (golden : Bytes) (body : Text) :
    List Diagnostic :=
  match (requiredLines vars golden).filter (!contains · body) with
  | [] => []
  | missing =>
    [⟨.body, "every line of ".toList ++ path ++ " somewhere in the body".toList,
      "missing ".toList ++ Numeral.write missing.length ++ " line(s): ".toList ++
        Text.quotedList missing⟩]

end HttpConformance.Check
