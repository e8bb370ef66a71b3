import HttpConformance.Proofs.Assertion.Surroundings
import HttpConformance.Proofs.Network.Faults

/-!
# Assertions over a network

A run over a network is a run in a world that is a value, whatever the network does and remembers:
the world answers some requests with what the network makes of the last one, when it is sent in the
state that the others have left.  It can be such a world because an exchange fails in its connection
and in no other way.  So what is proved of all worlds holds over all networks.

Main definitions: `Client.over`, `Exchange.stateAfter`, `Surroundings.ofNetwork`, `Mirrors`,
`Client.IsMirrored`.

Main results:

- `Exchange.mapError_answerOf`: what comes of an exchange is the answer of a world.
- `Client.IsMirrored.run`: clients that mirror each other run all assertions alike.
- `Surroundings.run_over`: a run over a network is the run in the world of that network.
-/

namespace HttpConformance

variable {σ α β : Type}

/-! ## Answers of a network -/

namespace Exchange

/-- The answer that comes of an exchange, as a world gives it. -/
def answerOf : Except Failure Bytes → Except (ConnectionFault × Text) Bytes
  | .ok bytes => .ok bytes
  | .error ⟨.connection fault, message⟩ => .error (fault, message)
  -- No exchange fails in another way: this case only makes the function total.
  | .error ⟨_, message⟩ => .error (.io, message)

/-- An action that only fails in its connection yields the answer of a world. -/
theorem mapError_answerOf {action : StateM σ (Except Failure Bytes)}
    (h : FailsInConnection action) (state : σ) :
    (answerOf (action.run state).1).mapError connectionFailure = (action.run state).1 := by
  cases houtcome : (action.run state).1 with
  | ok bytes => rfl
  | error failure =>
    obtain ⟨fault, hkind⟩ := h state failure houtcome
    obtain ⟨kind, message⟩ := failure
    cases hkind
    rfl

/-- Sends one request over a network of which no log is kept. -/
def sendOver (network : Network (StateM σ)) (sent : Sent) : StateM σ (Except Failure Bytes) :=
  send network (fun _ _ => return) sent.host sent.port sent.request sent.options

/-- The state of a network after some requests. -/
def stateAfter (network : Network (StateM σ)) (state : σ) (sent : List Sent) : σ :=
  sent.foldl (fun state request => ((sendOver network request).run state).2) state

/-- The last request finds the network as the others have left it. -/
theorem stateAfter_concat (network : Network (StateM σ)) (state : σ) (sent : List Sent)
    (last : Sent) :
    stateAfter network state (sent ++ [last]) =
      ((sendOver network last).run (stateAfter network state sent)).2 := by
  rw [stateAfter, List.foldl_append]
  rfl

end Exchange

/-- What a network and files do for an assertion of which no log is kept. -/
def Client.over (network : Network (StateM σ)) (file : Text → Except SystemError Bytes) :
    Client (StateM σ) where
  send := Exchange.send network fun _ _ => return
  readFile path := return file path
  log _ _ := return

/-- The world that answers as a network does, once that is in a state. -/
def Surroundings.ofNetwork (network : Network (StateM σ)) (file : Text → Except SystemError Bytes)
    (state : σ) : Surroundings where
  answer sent :=
    match sent.getLast? with
    | none => .ok []
    | some last =>
      let before := Exchange.stateAfter network state sent.dropLast
      Exchange.answerOf ((Exchange.sendOver network last).run before).1
  file := file

/-! ## Actions that mirror each other -/

/-- The first action does, in the state that some requests have left, what the second one does where
these requests are recorded. -/
def Mirrors (after : List Sent → σ) (real : StateM σ α) (recorded : Recorded α) : Prop :=
  ∀ sent, real.run (after sent) = ((recorded.run sent).1, after (recorded.run sent).2)

namespace Mirrors

variable {after : List Sent → σ}

/-- A value mirrors itself. -/
theorem pure (value : α) : Mirrors after (pure value) (pure value) :=
  fun _ => rfl

/-- Actions one after the other mirror each other if both of them do. -/
theorem bind {real : StateM σ α} {recorded : Recorded α} {next : α → StateM σ β}
    {nextRecorded : α → Recorded β} (h : Mirrors after real recorded)
    (hnext : ∀ value, Mirrors after (next value) (nextRecorded value)) :
    Mirrors after (real >>= next) (recorded >>= nextRecorded) := by
  intro sent
  have hreal : (real >>= next).run (after sent) =
      (next (real.run (after sent)).1).run (real.run (after sent)).2 := rfl
  rw [hreal, h sent, Surroundings.run_bind]
  exact hnext _ _

end Mirrors

/-- Everything that the first client does mirrors what the second one does. -/
structure Client.IsMirrored (after : List Sent → σ) (real : Client (StateM σ))
    (recorded : Client Recorded) : Prop where
  send : ∀ host port request options,
    Mirrors after (real.send host port request options)
      (recorded.send host port request options)
  readFile : ∀ path, Mirrors after (real.readFile path) (recorded.readFile path)
  log : ∀ level message,
    Mirrors after (real.log level message) (recorded.log level message)

namespace Client.IsMirrored

variable {after : List Sent → σ} {real : Client (StateM σ)} {recorded : Client Recorded}

/-! ## The stages of a run -/

/-- Messages are logged alike. -/
theorem logAll (h : IsMirrored after real recorded) (messages : List (Level × Text)) :
    Mirrors after (real.logAll messages) (recorded.logAll messages) := by
  induction messages with
  | nil => exact .pure ()
  | cons message messages ih => exact (h.log message.1 message.2).bind fun _ => ih

/-- Exchanges are alike. -/
theorem exchange (h : IsMirrored after real recorded) (options : Exchange.Options) (host : Text)
    (port : UInt16) (request : Request) :
    Mirrors after (Assertion.exchange real options host port request)
      (Assertion.exchange recorded options host port request) := by
  refine (h.send host port request options).bind fun outcome => ?_
  cases outcome with
  | error failure => exact .pure _
  | ok raw => exact (h.logAll _).bind fun _ => .pure _

/-- Redirects are followed alike. -/
theorem follow (h : IsMirrored after real recorded) (options : Exchange.Options)
    (hops left : Nat) (host : Text) (port : UInt16) (request : Request) (response : Response) :
    Mirrors after
      (Assertion.follow real options hops left host port request response)
      (Assertion.follow recorded options hops left host port request response) := by
  -- On the redirects that may still be followed, as the loop itself is.
  induction left generalizing hops host port request response with
  | zero =>
    rw [Assertion.follow.eq_def, Assertion.follow.eq_def]
    rcases nextRequest? host port request response with _ | error | target
    · exact .pure _
    · exact .pure _
    · exact .pure _
  | succ left ih =>
    rw [Assertion.follow.eq_def, Assertion.follow.eq_def]
    rcases nextRequest? host port request response with _ | error | target
    · exact .pure _
    · exact .pure _
    · refine (h.log _ _).bind fun _ => (h.exchange _ _ _ _).bind fun outcome => ?_
      cases outcome with
      | error failure => exact .pure _
      | ok next => exact ih _ _ _ _ _

/-- The response that is judged is received alike. -/
theorem finalResponse (h : IsMirrored after real recorded) (assertion : Assertion)
    (request : Request) :
    Mirrors after (assertion.finalResponse real request)
      (assertion.finalResponse recorded request) := by
  refine (h.exchange _ _ _ _).bind fun outcome => ?_
  cases outcome with
  | error failure => exact .pure _
  | ok response =>
    dsimp only
    split
    · exact h.follow _ _ _ _ _ _ _
    · exact .pure _

/-- A golden resource is loaded alike. -/
theorem load (h : IsMirrored after real recorded) (root path : Text) :
    Mirrors after (Golden.load real.readFile real.log root path)
      (Golden.load recorded.readFile recorded.log root path) := by
  unfold Golden.load
  cases ResourcePath.make root path with
  | error error =>
    cases error with
    | escapesRoot rejected => exact (h.log _ _).bind fun _ => .pure _
    | _ => exact .pure _
  | ok resource =>
    refine (h.readFile _).bind fun content => ?_
    cases content with
    | error error => exact .pure _
    | ok content => exact (h.log _ _).bind fun _ => .pure _

/-- Golden resources are loaded alike. -/
theorem loadAll (h : IsMirrored after real recorded) (root : Text) (vars : Variables)
    (expectations : List BodyExpectation) :
    Mirrors after (Golden.loadAll real.readFile real.log root vars expectations)
      (Golden.loadAll recorded.readFile recorded.log root vars expectations) := by
  induction expectations with
  | nil => exact .pure _
  | cons expectation expectations ih =>
    cases expectation with
    | golden path =>
      refine (h.load _ _).bind fun loaded => ?_
      cases loaded with
      | error failure => exact .pure _
      | ok content =>
        refine ih.bind fun others => ?_
        cases others <;> exact .pure _
    | containsLines lines => exact ih
    | excludesLines lines => exact ih
    | empty => exact ih

/-- A response is judged alike. -/
theorem judge (h : IsMirrored after real recorded) (root : Text) (expectations : Expectations)
    (vars : Variables) (response : Response) :
    Mirrors after (Assertion.judge real root expectations vars response)
      (Assertion.judge recorded root expectations vars response) := by
  refine (h.loadAll _ _ _).bind fun loaded => ?_
  cases loaded with
  | error failure => exact .pure _
  | ok goldens => exact (h.logAll _).bind fun _ => (h.log _ _).bind fun _ => .pure _

/-- An assertion is executed alike. -/
theorem execute (h : IsMirrored after real recorded) (assertion : Assertion) :
    Mirrors after (assertion.execute real) (assertion.execute recorded) := by
  unfold Assertion.execute
  cases assertion.prepare with
  | error failure => exact .pure _
  | ok request =>
    refine (h.finalResponse _ _).bind fun outcome => ?_
    cases outcome with
    | error failure => exact .pure _
    | ok response => exact (h.judge _ _ _ _).bind fun _ => .pure _

/-- Clients that mirror each other run all assertions alike. -/
theorem run (h : IsMirrored after real recorded) (assertion : Assertion) :
    Mirrors after (assertion.run real) (assertion.run recorded) := by
  refine (h.execute assertion).bind fun outcome => ?_
  cases outcome with
  | error failure =>
    refine (h.log _ _).bind fun _ => (Mirrors.pure _).bind fun ran => ?_
    dsimp only
    split
    · exact (h.log _ _).bind fun _ => .pure _
    · exact (h.log _ _).bind fun _ => .pure _
  | ok judged =>
    refine (Mirrors.pure _).bind fun ran => ?_
    dsimp only
    split
    · exact (h.log _ _).bind fun _ => .pure _
    · exact (h.log _ _).bind fun _ => .pure _

end Client.IsMirrored

/-! ## Networks as worlds -/

variable (network : Network (StateM σ)) (file : Text → Except SystemError Bytes) (state : σ)

/-- The world of a network answers with what comes of sending the last request. -/
theorem Surroundings.mapError_answer_ofNetwork (sent : List Sent) (last : Sent) :
    ((Surroundings.ofNetwork network file state).answer (sent ++ [last])).mapError
        connectionFailure =
      ((Exchange.sendOver network last).run (Exchange.stateAfter network state sent)).1 := by
  simp only [Surroundings.ofNetwork, List.getLast?_concat, List.dropLast_concat]
  exact Exchange.mapError_answerOf (Exchange.failsInConnection_send network _ _ _ _ _) _

/-- A network does what its world does, in the state that the recorded requests have left. -/
theorem Client.isMirrored_over :
    Client.IsMirrored (Exchange.stateAfter network state) (Client.over network file)
      (Surroundings.ofNetwork network file state).client where
  send host port request options := by
    intro sent
    rw [Surroundings.run_send, Surroundings.mapError_answer_ofNetwork, Exchange.stateAfter_concat]
    rfl
  readFile path := .pure _
  log level message := .pure _

/-- A run over a network is the run in the world of that network: the verdict and the response are
the same, and the network is left as the recorded requests leave it. -/
theorem Surroundings.run_over (assertion : Assertion) :
    (assertion.run (Client.over network file)).run state =
      let ran := (assertion.run (Surroundings.ofNetwork network file state).client).run []
      (ran.1, Exchange.stateAfter network state ran.2) :=
  (Client.isMirrored_over network file state).run assertion []

end HttpConformance
