import HttpConformance.Cookie.SetCookie
import HttpConformance.Expectation
import HttpConformance.Message.Response
import HttpConformance.Substitution
import HttpConformance.Verdict

/-!
# Checks of the cookies

What is wrong with the cookies that a response hands out.

Main definition: `Check.cookies`.
-/

namespace HttpConformance.Check

/-- A cookie as a diagnostic shows it. -/
def describeCookie (name value : Text) : Text :=
  name ++ '=' :: value

/-- What a response hands out instead of an expected cookie. -/
def describeCandidates (name : Text) (cookies candidates : List Cookie) : Text :=
  match candidates with
  | [] =>
    "no cookie ".toList ++ name ++ " among [".toList ++
      Text.join ", ".toList (cookies.map (·.name)) ++ [']']
  | _ =>
    Text.join ", ".toList (candidates.map fun cookie => describeCookie cookie.name cookie.value)

/-- What is wrong because a cookie is missing or has another value. -/
def cookie (cookies : List Cookie) (vars : Variables) (expectation : CookieExpectation) :
    List Diagnostic :=
  let value := expectation.value.map vars.substitute
  let candidates := cookies.filter (·.name = expectation.name)
  if candidates.any fun candidate => value.all (candidate.value = ·) then []
  else
    [⟨.cookie,
      "cookie ".toList ++ (value.map (describeCookie expectation.name)).getD expectation.name,
      describeCandidates expectation.name cookies candidates⟩]

/-- What is wrong with the cookies. -/
def cookies (response : Response) (expectations : Expectations) (vars : Variables) :
    List Diagnostic :=
  expectations.cookies.flatMap (cookie (Cookie.ofFields response.fields) vars)

end HttpConformance.Check
