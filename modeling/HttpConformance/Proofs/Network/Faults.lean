import HttpConformance.Network.Exchange

/-!
# How an exchange fails

Whatever the network does, an exchange that yields no bytes has failed in its connection: names that
are not found, addresses that cannot be reached, requests that cannot be written, and answers that
do not come in time are all told as such.

Main definition: `Exchange.FailsInConnection`.

Main result: `Exchange.failsInConnection_send`.
-/

namespace HttpConformance.Exchange

variable {σ α : Type}

/-- Every failure of the action is one of a connection. -/
def FailsInConnection (action : StateM σ (Except Failure Bytes)) : Prop :=
  ∀ state failure, (action.run state).1 = .error failure →
    ∃ fault, failure.kind = .connection fault

theorem failsInConnection_ok (bytes : Bytes) :
    FailsInConnection (pure (.ok bytes) : StateM σ (Except Failure Bytes)) := by
  intro state failure h
  cases h

theorem failsInConnection_error (fault : ConnectionFault) (message : Text) :
    FailsInConnection (pure (.error ⟨.connection fault, message⟩) :
      StateM σ (Except Failure Bytes)) := by
  intro state failure h
  cases h
  exact ⟨fault, rfl⟩

/-- What comes first does not matter if all that follows fails in the connection only. -/
theorem failsInConnection_bind {action : StateM σ α} {next : α → StateM σ (Except Failure Bytes)}
    (h : ∀ value, FailsInConnection (next value)) : FailsInConnection (action >>= next) := by
  intro state failure heq
  exact h (action.run state).1 (action.run state).2 failure heq

/-- An action after which a failure is passed on. -/
theorem failsInConnection_bind_outcome {action : StateM σ (Except Failure Bytes)}
    {next : Except Failure Bytes → StateM σ (Except Failure Bytes)}
    (haction : FailsInConnection action) (hok : ∀ bytes, FailsInConnection (next (.ok bytes)))
    (herror : ∀ failure, next (.error failure) = pure (.error failure)) :
    FailsInConnection (action >>= next) := by
  intro state failure heq
  replace heq : ((next (action.run state).1).run (action.run state).2).1 = .error failure := heq
  cases houtcome : (action.run state).1 with
  | ok bytes =>
    rw [houtcome] at heq
    exact hok bytes _ failure heq
  | error failed =>
    rw [houtcome, herror] at heq
    cases heq
    exact haction state failure houtcome

variable (network : Network (StateM σ)) (log : Level → Text → StateM σ Unit)

/-- What is read from a connection is the response, or the reading has failed or taken too long;
when nothing is read, the writing may have failed. -/
theorem failsInConnection_conclude (sending : Sending) (writeError : Option SystemError)
    (reading : Reading) : FailsInConnection (conclude log sending writeError reading) := by
  unfold conclude
  refine failsInConnection_bind fun _ => ?_
  -- Every way through ends in bytes or in a failure, behind at most two more entries in the log.
  rcases reading with ⟨_ | ⟨b, bytes⟩, _ | reset⟩ | error | _ <;> rcases writeError with _ | written
  all_goals
    repeat first
      | exact failsInConnection_ok _
      | exact failsInConnection_error _ _
      | refine failsInConnection_bind fun _ => ?_

/-- Of several addresses, the last error or the first connection decides. -/
theorem failsInConnection_sendToFirst (sending : Sending) (last : Option SystemError)
    (addresses : List IpAddress) :
    FailsInConnection (sendToFirst network log sending last addresses) := by
  induction addresses generalizing last with
  | nil =>
    cases last with
    | none => exact failsInConnection_error _ _
    | some error => exact failsInConnection_error _ _
  | cons address addresses ih =>
    rw [sendToFirst]
    refine failsInConnection_bind fun attempted => ?_
    cases attempted with
    | unbound error => exact ih (some error)
    | unconnected error => exact ih (some error)
    | unanswered => exact failsInConnection_error _ _
    | exchanged writeError reading =>
      exact failsInConnection_conclude log sending writeError reading

/-- What is sent from a client address fails in its connection only. -/
theorem failsInConnection_sendBound (sending : Sending) (client : IpAddress)
    (addresses : List IpAddress) :
    FailsInConnection (sendBound network log sending client addresses) := by
  unfold sendBound
  cases addresses.find? (·.isV4 = client.isV4) with
  | none => exact failsInConnection_error _ _
  | some address =>
    refine failsInConnection_bind fun attempted => ?_
    cases attempted with
    | unbound error => exact failsInConnection_error _ _
    | unconnected error => exact failsInConnection_error _ _
    | unanswered => exact failsInConnection_error _ _
    | exchanged writeError reading =>
      exact failsInConnection_conclude log sending writeError reading

/-- Looking up a host and sending to it fails in its connection only. -/
theorem failsInConnection_dispatch (host : Text) (sending : Sending) :
    FailsInConnection (dispatch network log host sending) := by
  unfold dispatch
  refine failsInConnection_bind fun lookedUp => ?_
  cases lookedUp with
  | failed error => exact failsInConnection_error _ _
  | unanswered => exact failsInConnection_error _ _
  | found addresses =>
    dsimp only
    cases sending.options.client with
    | none => exact failsInConnection_sendToFirst network log sending none addresses
    | some client => exact failsInConnection_sendBound network log sending client addresses

/-- An exchange fails in its connection and in no other way. -/
theorem failsInConnection_send (host : Text) (port : UInt16) (request : Request)
    (options : Options) : FailsInConnection (send network log host port request options) := by
  unfold send
  refine failsInConnection_bind fun started => ?_
  refine failsInConnection_bind_outcome (failsInConnection_dispatch network log host _) ?_ ?_
  · intro bytes
    refine failsInConnection_bind fun ended => ?_
    exact failsInConnection_bind fun _ => failsInConnection_ok bytes
  · intro failure
    rfl

end HttpConformance.Exchange
