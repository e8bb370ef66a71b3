import HttpConformance.Assertion.Basic
import HttpConformance.Check.Evaluate
import HttpConformance.Message.Remarks
import HttpConformance.Network.Exchange
import HttpConformance.Redirect
import HttpConformance.Resource.Golden

/-!
# Running an assertion

An assertion is run in three stages. It is first prepared, which needs nothing but the assertion
itself; then its request is sent and redirects are followed; then the response is judged. A failure
of one stage ends the run and is the verdict.

What the outside world does is a parameter: `Client m` says how a request is answered, what is in a
file and where log entries go, in any monad.

Main definitions:

- `Assertion.prepare`: the request that is sent.
- `Assertion.follow`: the response at the end of a chain of redirects.
- `Assertion.run`: the verdict, and the response if there is one.
-/

namespace HttpConformance

/-- What the outside world does for an assertion. -/
structure Client (m : Type → Type) where
  send : Text → UInt16 → Request → Exchange.Options → m (Except Failure Bytes)
  readFile : Text → m (Except SystemError Bytes)
  log : Level → Text → m Unit

/-- Logs some messages, each at its level. -/
def Client.logAll {m : Type → Type} [Monad m] (client : Client m)
    (messages : List (Level × Text)) : m Unit :=
  messages.forM fun (level, message) => client.log level message

namespace Assertion

/-! ## Preparing -/

/-- Several messages in one. -/
def joinMessages (messages : List Text) : Text :=
  Text.join "; ".toList messages

/-- The request that the source of an assertion gives. -/
def sourceRequest (assertion : Assertion) : Except Failure Request :=
  match assertion.source with
  | none => .error (.configuration "No request was configured".toList)
  | some (.request request) => .ok request
  | some (.text raw) =>
    (Request.parse (assertion.configuration.substitutor.substitute raw)).mapError
      RequestError.toFailure

/-- The failure of adding cookies to a verbatim request. -/
def cookiesOnVerbatim (count : Nat) : Failure :=
  .configuration (Numeral.write count ++
    " cookie(s) cannot be added to a verbatim request; put the Cookie header in the request bytes".toList)

/-- The request that is sent first. -/
def prepare (assertion : Assertion) : Except Failure Request :=
  if assertion.setupErrors ≠ [] then
    .error (.configuration (joinMessages (assertion.setupErrors.map SetupError.message)))
  else if assertion.configuration.errors ≠ [] then
    .error (.configuration
      (joinMessages (assertion.configuration.errors.map Configuration.Error.message)))
  else
    match assertion.sourceRequest with
    | .error failure => .error failure
    | .ok request =>
      if request.isVerbatim ∧ assertion.cookies ≠ [] then
        .error (cookiesOnVerbatim assertion.cookies.length)
      else .ok (assertion.cookies.foldl (fun request cookie => request.withCookie cookie) request)

/-- How the requests are sent. -/
def options (assertion : Assertion) : Exchange.Options :=
  let options := Exchange.Options.ofConfiguration assertion.configuration
  { options with readLimitMs := assertion.readLimitMs.getD options.readLimitMs }

section

variable {m : Type → Type} [Monad m]

/-! ## Sending -/

/-- Sends a request and reads the response. -/
def exchange (client : Client m) (options : Exchange.Options) (host : Text) (port : UInt16)
    (request : Request) : m (Except Failure Response) := do
  match ← client.send host port request options with
  | .error failure => return .error failure
  | .ok raw =>
    client.logAll (Response.remarks raw)
    return (Response.parse raw).mapError ResponseError.toFailure

/-- A place that a redirect leads to, in words. -/
def describeTarget (target : RedirectTarget) : Text :=
  joinAuthority target.host target.port ++ target.request.target

/-- The failure of a chain of redirects that does not end. -/
def gaveUp (hops : Nat) (target : RedirectTarget) : Failure :=
  ⟨.redirect, "Gave up after ".toList ++ Numeral.write hops ++
    " redirects, last Location led to ".toList ++ describeTarget target⟩

/-- The response at the end of a chain of redirects, of which `hops` have been followed and at most
`left` more may be. -/
def follow (client : Client m) (options : Exchange.Options) (hops left : Nat) (host : Text)
    (port : UInt16) (request : Request) (response : Response) : m (Except Failure Response) := do
  match nextRequest? host port request response with
  | none => return .ok response
  | some (.error error) => return .error error.toFailure
  | some (.ok target) =>
    match left with
    | 0 => return .error (gaveUp hops target)
    | left + 1 =>
      client.log .debug ("Following redirect ".toList ++ Numeral.write (hops + 1) ++
        " to ".toList ++ describeTarget target)
      match ← exchange client options target.host target.port target.request with
      | .error failure => return .error failure
      | .ok next =>
        follow client options (hops + 1) left target.host target.port target.request next

/-- The response that is judged. -/
def finalResponse (client : Client m) (assertion : Assertion) (request : Request) :
    m (Except Failure Response) := do
  let configuration := assertion.configuration
  match ← exchange client assertion.options configuration.host configuration.port request with
  | .error failure => return .error failure
  | .ok response =>
    if assertion.expectations.followRedirects then
      follow client assertion.options 0 configuration.maxRedirects.toNat configuration.host
        configuration.port request response
    else return .ok response

/-! ## Judging -/

/-- What is passed over in evaluating a response. -/
def remarks (response : Response) (expectations : Expectations) : List (Level × Text) :=
  (if expectations.body = [] then []
    else
      (Charset.remark? (response.charset? expectations.charsetOverride) response.body).toList.map
        (.debug, ·)) ++
  (if expectations.cookies = [] then []
    else ((response.headers "Set-Cookie".toList).flatMap Cookie.remarks).map (.trace, ·))

/-- The verdict on a response. A golden resource that cannot be loaded is the verdict alone. -/
def judge (client : Client m) (root : Text) (expectations : Expectations) (vars : Variables)
    (response : Response) : m Verdict := do
  match ← Golden.loadAll client.readFile client.log root vars expectations.body with
  | .error failure => return .ofFailure failure
  | .ok goldens =>
    let verdict := evaluate response expectations vars goldens
    client.logAll (remarks response expectations)
    client.log .trace ("Evaluated response ".toList ++ Numeral.write response.code ++
      " with ".toList ++ Numeral.write verdict.diagnostics.length ++ " diagnostic(s)".toList)
    return verdict

/-! ## The run -/

/-- The verdict of an assertion and the response it is about, or why there is no response. -/
def execute (client : Client m) (assertion : Assertion) : m (Except Failure (Verdict × Response)) :=
  match assertion.prepare with
  | .error failure => return .error failure
  | .ok request => do
    match ← assertion.finalResponse client request with
    | .error failure => return .error failure
    | .ok response =>
      let verdict ← judge client assertion.configuration.resourceRoot assertion.expectations
        assertion.configuration.substitutor response
      return .ok (verdict, response)

/-- The name of an assertion in the log. -/
def label (assertion : Assertion) : Text :=
  match assertion.description with
  | some description => assertion.id ++ " (".toList ++ description ++ [')']
  | none => assertion.id

/-- Runs an assertion: the verdict, and the response if one was received. -/
def run (client : Client m) (assertion : Assertion) : m (Verdict × Option Response) := do
  let outcome ← match ← assertion.execute client with
    | .ok (verdict, response) => pure (verdict, some response)
    | .error failure => do
      client.log .debug ("Assertion ".toList ++ assertion.label ++ " stopped: ".toList ++
        failure.describe)
      pure (Verdict.ofFailure failure, none)
  let (verdict, _) := outcome
  if verdict.hasFailed then
    client.log .info ("Assertion ".toList ++ assertion.label ++ ": ".toList ++ verdict.report)
  else client.log .trace ("Assertion ".toList ++ assertion.label ++ ": PASS".toList)
  return outcome

end

end Assertion

end HttpConformance
