import HttpConformance.Check.Body
import HttpConformance.Check.Cookie
import HttpConformance.Check.Header

/-!
# Evaluating a response

All checks of a response, in their order. No check stops another.

Main definition: `evaluate`.
-/

namespace HttpConformance

/-- The verdict on a response, when the golden resources have been loaded under their substituted
paths. -/
def evaluate (response : Response) (expectations : Expectations) (vars : Variables)
    (goldens : Goldens) : Verdict :=
  ⟨Check.status response expectations ++
    Check.expectedHeaders response expectations vars ++
    Check.unexpectedHeaders response expectations vars ++
    Check.contentType response expectations ++
    Check.body response expectations vars goldens ++
    Check.cookies response expectations vars⟩

end HttpConformance
