import HttpConformance.Assertion.Run

/-!
# Assertions in a world that is a value

A run of an assertion in a world where the server may do anything: what it answers, or how the
connection fails, is any function of all requests that were sent so far.  An exchange fails in no
other way, so that every network is such a world; `Surroundings.run_over` runs an assertion in it.
Files have contents, and the requests that are sent are recorded.  Every stage of a run is computed
here once, so that what a run does can be said without actions.

Main definitions:

- `Sent`, `Surroundings`, `Surroundings.client`.
- `Surroundings.received`, `Surroundings.resource`, `Surroundings.goldens` and
  `Surroundings.verdictOn`: what the stages of a run yield.

Main results:

- `Surroundings.run_exchange`, `Surroundings.run_follow`: one exchange, and one turn of following
  redirects.
- `Surroundings.run_loadAll`, `Surroundings.run_judge`: loading golden resources, and judging.
-/

namespace HttpConformance

/-- A request that is sent, and where to. -/
structure Sent where
  host : Text
  port : UInt16
  request : Request
  options : Exchange.Options
  deriving DecidableEq, Repr

/-- The request for a place is sent there. -/
def Sent.of (options : Exchange.Options) (place : RedirectTarget) : Sent :=
  ⟨place.host, place.port, place.request, options⟩

/-- The world around a run: how the connection fails or what is received when the last of some
requests is sent, and what is in a file. -/
structure Surroundings where
  answer : List Sent → Except (ConnectionFault × Text) Bytes
  file : Text → Except SystemError Bytes

/-- An action in which the requests that are sent are recorded. -/
abbrev Recorded := StateM (List Sent)

/-- The failure of a connection. -/
def connectionFailure (failure : ConnectionFault × Text) : Failure :=
  ⟨.connection failure.1, failure.2⟩

namespace Surroundings

/-- What the world does for an assertion. -/
def client (world : Surroundings) : Client Recorded where
  send host port request options := do
    let sent := (← get) ++ [⟨host, port, request, options⟩]
    set sent
    return (world.answer sent).mapError connectionFailure
  readFile path := return world.file path
  log _ _ := return

/-! ## What the stages yield -/

/-- The response to the last of some requests. -/
def received (world : Surroundings) (sent : List Sent) : Except Failure Response :=
  match world.answer sent with
  | .error failure => .error (connectionFailure failure)
  | .ok raw => (Response.parse raw).mapError ResponseError.toFailure

/-- The content of the resource that a path names. -/
def resource (world : Surroundings) (root path : Text) : Except Failure Bytes :=
  match ResourcePath.make root path with
  | .error error => .error (Golden.notFound error.message)
  | .ok resource => (world.file resource.fullPath).mapError (Golden.unreadable path resource)

end Surroundings

/-- The paths of the golden resources that some body expectations name, with their variables
substituted, in order. -/
def goldenPaths (vars : Variables) (expectations : List BodyExpectation) : List Text :=
  expectations.filterMap fun
    | .golden path => some (vars.substitute path)
    | _ => none

namespace Surroundings

/-- The contents of some resources; the first one that cannot be loaded is the failure of all. -/
def goldens (world : Surroundings) (root : Text) (paths : List Text) : Except Failure Goldens :=
  paths.mapM fun path => (world.resource root path).map fun content => (path, content)

/-- The verdict on a response. -/
def verdictOn (world : Surroundings) (root : Text) (expectations : Expectations) (vars : Variables)
    (response : Response) : Verdict :=
  match world.goldens root (goldenPaths vars expectations.body) with
  | .error failure => .ofFailure failure
  | .ok goldens => evaluate response expectations vars goldens

variable (world : Surroundings)

/-! ## Single actions -/

theorem run_bind {α β : Type} (action : Recorded α) (next : α → Recorded β) (sent : List Sent) :
    (action >>= next).run sent = (next (action.run sent).1).run (action.run sent).2 :=
  rfl

theorem run_pure {α : Type} (value : α) (sent : List Sent) :
    (pure value : Recorded α).run sent = (value, sent) :=
  rfl

/-- Sending records the request and yields the answer to all requests so far. -/
theorem run_send (host : Text) (port : UInt16) (request : Request) (options : Exchange.Options)
    (sent : List Sent) :
    (world.client.send host port request options).run sent =
      ((world.answer (sent ++ [⟨host, port, request, options⟩])).mapError connectionFailure,
        sent ++ [⟨host, port, request, options⟩]) :=
  rfl

theorem run_readFile (path : Text) (sent : List Sent) :
    (world.client.readFile path).run sent = (world.file path, sent) :=
  rfl

theorem run_log (level : Level) (message : Text) (sent : List Sent) :
    (world.client.log level message).run sent = ((), sent) :=
  rfl

/-- Logging leaves the record of requests alone. -/
theorem run_logAll (messages : List (Level × Text)) (sent : List Sent) :
    (world.client.logAll messages).run sent = ((), sent) := by
  induction messages with
  | nil => rfl
  | cons message messages ih => exact ih

/-! ## Exchanges -/

/-- An exchange records its request and yields the response to it. -/
theorem run_exchange (options : Exchange.Options) (place : RedirectTarget) (sent : List Sent) :
    (Assertion.exchange world.client options place.host place.port place.request).run sent =
      (world.received (sent ++ [.of options place]), sent ++ [.of options place]) := by
  rw [Assertion.exchange, run_bind, run_send, ← Sent.of, received]
  cases world.answer (sent ++ [.of options place]) with
  | error failure => rfl
  | ok raw =>
    dsimp only [Except.mapError]
    rw [run_bind, run_logAll, run_pure]

/-- One turn of following redirects. -/
theorem run_follow (options : Exchange.Options) (hops left : Nat) (place : RedirectTarget)
    (response : Response) (sent : List Sent) :
    (Assertion.follow world.client options hops left place.host place.port place.request
        response).run sent =
      match nextRequest? place.host place.port place.request response, left with
      | none, _ => (.ok response, sent)
      | some (.error error), _ => (.error error.toFailure, sent)
      | some (.ok target), 0 => (.error (Assertion.gaveUp hops target), sent)
      | some (.ok target), left + 1 =>
        match world.received (sent ++ [.of options target]) with
        | .error failure => (.error failure, sent ++ [.of options target])
        | .ok next =>
          (Assertion.follow world.client options (hops + 1) left target.host target.port
            target.request next).run (sent ++ [.of options target]) := by
  rw [Assertion.follow.eq_def]
  cases nextRequest? place.host place.port place.request response with
  | none => rfl
  | some next =>
    cases next with
    | error error => rfl
    | ok target =>
      cases left with
      | zero => rfl
      | succ left =>
        dsimp only
        rw [run_bind, run_log, run_bind, run_exchange]
        cases world.received (sent ++ [.of options target]) <;> rfl

/-! ## Judging -/

/-- A golden resource is loaded as its path and its file say. -/
theorem run_load (root path : Text) (sent : List Sent) :
    (Golden.load world.client.readFile world.client.log root path).run sent =
      (world.resource root path, sent) := by
  unfold Golden.load resource
  cases ResourcePath.make root path with
  | error error => cases error <;> rfl
  | ok resource =>
    dsimp only
    rw [run_bind, run_readFile]
    cases world.file resource.fullPath <;> rfl

/-- The first resource is loaded first, and without it none is. -/
theorem goldens_cons (root path : Text) (paths : List Text) :
    world.goldens root (path :: paths) =
      match world.resource root path with
      | .error failure => .error failure
      | .ok content => (world.goldens root paths).map ((path, content) :: ·) := by
  rw [goldens, goldens, List.mapM_cons]
  cases world.resource root path with
  | error failure => rfl
  | ok content =>
    cases paths.mapM fun path =>
      (world.resource root path).map fun content => (path, content) <;> rfl

/-- Golden resources are loaded in order, and the first that cannot be loaded ends the loading. -/
theorem run_loadAll (root : Text) (vars : Variables) (expectations : List BodyExpectation)
    (sent : List Sent) :
    (Golden.loadAll world.client.readFile world.client.log root vars expectations).run sent =
      (world.goldens root (goldenPaths vars expectations), sent) := by
  induction expectations with
  | nil => rfl
  | cons expectation expectations ih =>
    cases expectation with
    | golden path =>
      have hpaths : goldenPaths vars (.golden path :: expectations) =
          vars.substitute path :: goldenPaths vars expectations := rfl
      rw [Golden.loadAll, run_bind, run_load, hpaths, goldens_cons]
      cases world.resource root (vars.substitute path) with
      | error failure => rfl
      | ok content =>
        dsimp only
        rw [run_bind, ih]
        cases world.goldens root (goldenPaths vars expectations) <;> rfl
    | containsLines lines => exact ih
    | excludesLines lines => exact ih
    | empty => exact ih

/-- Judging is loading the golden resources and evaluating the response against them. -/
theorem run_judge (root : Text) (expectations : Expectations) (vars : Variables)
    (response : Response) (sent : List Sent) :
    (Assertion.judge world.client root expectations vars response).run sent =
      (world.verdictOn root expectations vars response, sent) := by
  rw [Assertion.judge, run_bind, run_loadAll, verdictOn]
  cases world.goldens root (goldenPaths vars expectations.body) with
  | error failure => rfl
  | ok goldens =>
    dsimp only
    rw [run_bind, run_logAll, run_bind, run_log, run_pure]

/-! ## Kinds of failures -/

/-- A response that is not received has failed in its connection or is malformed. -/
theorem kind_of_received {sent : List Sent} {failure : Failure}
    (h : world.received sent = .error failure) :
    (∃ fault, failure.kind = .connection fault) ∨
      ∃ fault, failure.kind = .malformedResponse fault := by
  unfold received at h
  cases hanswer : world.answer sent with
  | error answered =>
    rw [hanswer] at h
    cases h
    exact Or.inl ⟨answered.1, rfl⟩
  | ok raw =>
    rw [hanswer] at h
    dsimp only at h
    cases hparse : Response.parse raw with
    | error error =>
      rw [hparse] at h
      cases h
      exact Or.inr ⟨error.fault, rfl⟩
    | ok response =>
      rw [hparse] at h
      cases h

/-- A request that cannot be prepared is a failure of the configuration. -/
theorem kind_of_prepare {assertion : Assertion} {failure : Failure}
    (h : assertion.prepare = .error failure) : failure.kind = .configuration := by
  unfold Assertion.prepare at h
  split at h
  · cases h
    rfl
  · split at h
    · cases h
      rfl
    · split at h
      · rename_i hsource
        cases h
        unfold Assertion.sourceRequest at hsource
        split at hsource
        · cases hsource
          rfl
        · cases hsource
        · rename_i raw _
          cases hparse : Request.parse (assertion.configuration.substitutor.substitute raw) with
          | error error =>
            rw [hparse] at hsource
            cases hsource
            rfl
          | ok request =>
            rw [hparse] at hsource
            cases hsource
      · split at h
        · cases h
          rfl
        · cases h

/-- A golden resource that cannot be loaded is not found. -/
theorem kind_of_resource {root path : Text} {failure : Failure}
    (h : world.resource root path = .error failure) : failure.kind = .resourceNotFound := by
  unfold resource at h
  split at h
  · cases h
    rfl
  · rename_i resource _
    cases hfile : world.file resource.fullPath with
    | error error =>
      rw [hfile] at h
      cases h
      rfl
    | ok content =>
      rw [hfile] at h
      cases h

end Surroundings

/-! ## The whole run -/

/-- Where the first request of a run is sent. -/
def Assertion.start (assertion : Assertion) (request : Request) : RedirectTarget :=
  ⟨assertion.configuration.host, assertion.configuration.port, request⟩

namespace Surroundings

variable (world : Surroundings)

/-- What has become of a run when the response that is judged is known. -/
def judged (assertion : Assertion) (response : Except Failure Response) :
    Except Failure (Verdict × Response) :=
  response.map fun response =>
    (world.verdictOn assertion.configuration.resourceRoot assertion.expectations
      assertion.configuration.substitutor response, response)

theorem judged_eq_error_iff {assertion : Assertion} {response : Except Failure Response}
    {failure : Failure} :
    world.judged assertion response = .error failure ↔ response = .error failure := by
  cases response <;> simp [judged, Except.map]

/-- What becomes of a run, and the requests that are sent. -/
def execute (assertion : Assertion) : Except Failure (Verdict × Response) × List Sent :=
  (assertion.execute world.client).run []

/-- The response that is judged, and the requests that are sent to receive it. -/
def finalResponse (assertion : Assertion) (request : Request) :
    Except Failure Response × List Sent :=
  (assertion.finalResponse world.client request).run []

/-- A request that cannot be prepared is not sent. -/
theorem execute_of_error {assertion : Assertion} {failure : Failure}
    (h : assertion.prepare = .error failure) : world.execute assertion = (.error failure, []) := by
  rw [execute, Assertion.execute, h]
  rfl

/-- A request that is prepared is sent, and what comes of it is judged. -/
theorem execute_of_ok {assertion : Assertion} {request : Request}
    (h : assertion.prepare = .ok request) :
    world.execute assertion =
      (world.judged assertion (world.finalResponse assertion request).1,
        (world.finalResponse assertion request).2) := by
  rw [execute, Assertion.execute, h]
  dsimp only
  rw [run_bind, finalResponse]
  cases ((assertion.finalResponse world.client request).run []).1 with
  | error failure => rfl
  | ok response =>
    dsimp only
    rw [run_bind, run_judge, run_pure]
    rfl

/-- The first exchange, and the redirects from there if they are to be followed. -/
theorem finalResponse_eq (assertion : Assertion) (request : Request) :
    let start := assertion.start request
    let sent := [Sent.of assertion.options start]
    world.finalResponse assertion request =
      match world.received sent with
      | .error failure => (.error failure, sent)
      | .ok response =>
        if assertion.expectations.followRedirects then
          (Assertion.follow world.client assertion.options 0
            assertion.configuration.maxRedirects.toNat start.host start.port start.request
            response).run sent
        else (.ok response, sent) := by
  intro start sent
  have hexchange :
      (Assertion.exchange world.client assertion.options assertion.configuration.host
        assertion.configuration.port request).run [] = (world.received sent, sent) :=
    run_exchange world assertion.options start []
  rw [finalResponse, Assertion.finalResponse, run_bind, hexchange]
  cases world.received sent with
  | error failure => rfl
  | ok response => cases assertion.expectations.followRedirects <;> rfl

end Surroundings

end HttpConformance
