import HttpConformance.Failure
import HttpConformance.Message.Framing

/-!
# Reading a response from a connection

A connection is read piece by piece until the response is complete or the server ends the
connection. A connection that the server resets after part of a response counts as ended; any other
error is a failure.

Main definitions:

- `readSize`, `ReadEvent`: what one read yields.
- `Reading.step`: what is to be done after one read.
- `Reading.collect`: what a sequence of reads yields.
-/

namespace HttpConformance

/-- The largest number of bytes that one read yields. -/
def readSize : Nat := 8192

/-- What one read of a connection yields. -/
inductive ReadEvent where
  | data (bytes : Bytes)
  | closed
  | failed (error : SystemError)
  deriving DecidableEq, Repr

/-- What reading a response from a connection has yielded. -/
inductive Reading where
  /-- The bytes of a response, and the error that ended the connection if it was reset. -/
  | received (bytes : Bytes) (reset : Option SystemError)
  | failed (error : SystemError)
  /-- The response is not complete, and the server sends nothing more. -/
  | stalled
  deriving DecidableEq, Repr

namespace Reading

/-- The connection ended because the server reset or aborted it. -/
def isReset : SystemErrorKind → Bool
  | .connectionReset | .connectionAborted => true
  | _ => false

/-- What is to be done after one read: to go on with the bytes received so far, or to stop. -/
def step (isHead : Bool) (received : Bytes) : ReadEvent → Bytes ⊕ Reading
  | .data bytes =>
    if isComplete isHead (received ++ bytes) then .inr (.received (received ++ bytes) none)
    else .inl (received ++ bytes)
  | .closed => .inr (.received received none)
  | .failed error =>
    if received ≠ [] ∧ isReset error.kind then .inr (.received received (some error))
    else .inr (.failed error)

/-- What a sequence of reads yields after some bytes have been received. -/
def collect (isHead : Bool) (received : Bytes) : List ReadEvent → Reading
  | [] => .stalled
  | event :: rest =>
    match step isHead received event with
    | .inl received => collect isHead received rest
    | .inr reading => reading

end Reading

end HttpConformance
