import HttpConformance.Host.Failure
import HttpConformance.Network.Exchange
import Std.Internal.UV.DNS
import Std.Internal.UV.TCP
import Std.Internal.UV.Timer
import Std.Time.DateTime.Timestamp

/-!
# The network of the host

Main definition: `Host.network`.
-/

namespace HttpConformance.Host

open Std.Net (IPAddr SocketAddress)
open Std.Internal.UV (Timer)
open Std.Internal.UV.TCP (Socket)

/-! ## Time -/

/-- The clocks of the host. -/
def clock : Clock IO where
  date := return (← Std.Time.Timestamp.now).val.toNanoseconds.toInt / 1000
  milliseconds := IO.monoMsNow

/-- What a promise yields within a number of milliseconds. -/
def within {α : Type} (limitMs : UInt64) (promise : IO.Promise (Except IO.Error α)) :
    IO (Option (Except IO.Error α)) := do
  let timer ← Timer.mk limitMs false
  let tick ← timer.next
  let first ← IO.waitAny [promise.result?, tick.result?.map fun _ => none]
  timer.stop
  return first

/-! ## Addresses -/

/-- An address for the host. -/
def socketAddress (port : UInt16) : IpAddress → SocketAddress
  | .v4 octets => .v4 ⟨⟨octets⟩, port⟩
  | .v6 groups => .v6 ⟨⟨groups⟩, port⟩

/-- An address from the host. -/
def ofHostAddress : IPAddr → IpAddress
  | .v4 address => .v4 address.octets
  | .v6 address => .v6 address.segments

/-- The error of a name that is no name of a host. -/
def unknownHost (error : IO.Error) : SystemError :=
  .plain ("failed to lookup address information: " ++
    match codeOf? error with
    | some (_, details) => details
    | none => error.toString)

/-- The addresses of a host, which may be an address itself. -/
def lookUp (host : Text) (limitMs : UInt64) : IO LookedUp := do
  if '\x00' ∈ host then return .failed .nulInName
  match IpAddress.parse? host with
  | some address => return .found [address]
  | none =>
    try
      match ← within limitMs (← Std.Internal.UV.DNS.getAddrInfo (String.ofList host) "" 0) with
      | none => return .unanswered
      | some (.error error) => return .failed (unknownHost error)
      | some (.ok addresses) => return .found (addresses.toList.map ofHostAddress).eraseDups
    catch error =>
      return .failed (unknownHost error)

/-! ## Connections -/

/-- What one read of a connection yields, if it yields anything in time. -/
def readOnce (socket : Socket) (limitMs : UInt64) : IO (Option ReadEvent) := do
  try
    match ← within limitMs (← socket.recv? readSize.toUInt64) with
    | none =>
      socket.cancelRecv
      return none
    | some (.error error) => return some (.failed (systemError error))
    | some (.ok none) => return some .closed
    | some (.ok (some bytes)) => return some (.data bytes.toList)
  catch error =>
    return some (.failed (systemError error))

/-- Reads a response, up to the given millisecond. -/
partial def readResponse (socket : Socket) (deadline : Nat) (isHead : Bool) (received : Bytes) :
    IO Reading := do
  let left := deadline - (← IO.monoMsNow)
  match ← readOnce socket left.toUInt64 with
  | none => return .stalled
  | some event =>
    match Reading.step isHead received event with
    | .inl received => readResponse socket deadline isHead received
    | .inr reading => return reading

/-- Writes the bytes of a request, and says what error that has ended in. -/
def writeRequest (socket : Socket) (wire : Bytes) : IO (Option SystemError) := do
  if wire = [] then return none
  try
    match ← IO.wait (← socket.send #[⟨wire.toArray⟩]).result? with
    | some (.error error) => return some (systemError error)
    | _ => return none
  catch error =>
    return some (systemError error)

/-- Sends a request over a connection and reads the response. -/
def exchange (socket : Socket) (attempt : Attempt) : IO Attempted := do
  let writeError ← writeRequest socket attempt.wire
  let deadline := (← IO.monoMsNow) + attempt.readLimitMs.toNat
  return .exchanged writeError (← readResponse socket deadline attempt.isHead [])

/-- Connects, unless the time for it runs out, and goes on with the exchange. -/
def connect (socket : Socket) (attempt : Attempt) : IO Attempted := do
  let address := socketAddress attempt.port attempt.address
  let connected ← guarded do within attempt.connectLimitMs (← socket.connect address)
  match connected with
  | .error error => return .unconnected error
  | .ok none => return .unanswered
  | .ok (some (.error error)) => return .unconnected (systemError error)
  | .ok (some (.ok _)) => exchange socket attempt

/-- Attempts to send a request to an address. -/
def attempt (attempt : Attempt) : IO Attempted := do
  let socket ← Socket.new
  match attempt.client with
  | none => connect socket attempt
  | some client =>
    match ← guarded (socket.bind (socketAddress 0 client)) with
    | .error error => return .unbound error
    | .ok _ => connect socket attempt

/-- The network of the host. -/
def network : Network IO :=
  ⟨lookUp, attempt, clock⟩

end HttpConformance.Host
