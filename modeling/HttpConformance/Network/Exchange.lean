import HttpConformance.Clock
import HttpConformance.Configuration.Basic
import HttpConformance.Message.Request
import HttpConformance.Network.Reading

/-!
# Exchanges

One request is sent over a connection of its own, and everything that the server answers is read
back. A host may have several addresses, which are tried in order; with a client address to bind to,
only the first address of the same version is tried.

What the network does is a parameter: `Network m` says how names are looked up and what becomes of
an attempt to reach an address, in any monad, so that the same rules run on real sockets and on a
network that is a value.

Main definitions: `Network`, `Exchange.send`.
-/

namespace HttpConformance

/-! ## The network -/

/-- An attempt to send a request to one address. -/
structure Attempt where
  client : Option IpAddress
  address : IpAddress
  port : UInt16
  wire : Bytes
  isHead : Bool
  connectLimitMs : UInt64
  readLimitMs : UInt64
  deriving DecidableEq, Repr

/-- What becomes of an attempt. -/
inductive Attempted where
  /-- The client address cannot be bound. -/
  | unbound (error : SystemError)
  | unconnected (error : SystemError)
  /-- No answer to the attempt to connect came in time. -/
  | unanswered
  /-- The connection was made: the error that writing ended in, and what was read. -/
  | exchanged (writeError : Option SystemError) (reading : Reading)
  deriving DecidableEq, Repr

/-- What becomes of looking a host up. -/
inductive LookedUp where
  | found (addresses : List IpAddress)
  | failed (error : SystemError)
  /-- No answer came in time. -/
  | unanswered
  deriving DecidableEq, Repr

/-- What a network does. A host is looked up within a number of milliseconds. -/
structure Network (m : Type → Type) where
  lookUp : Text → UInt64 → m LookedUp
  attempt : Attempt → m Attempted
  clock : Clock m

namespace Exchange

/-- How a request is sent: the time limits, and the client address to bind to. -/
structure Options where
  connectLimitMs : UInt64
  readLimitMs : UInt64
  client : Option IpAddress
  deriving DecidableEq, Repr

/-- The options that a configuration gives. -/
def Options.ofConfiguration (configuration : Configuration) : Options :=
  ⟨configuration.connectTimeoutMs, configuration.readTimeoutMs, configuration.boundAddress?⟩

/-! ## Failures -/

/-- A failure of a connection without a system error. -/
def ioFailure (message : Text) : Failure :=
  ⟨.connection .io, message⟩

/-- No answer to the attempt to connect came in time. -/
def connectTimeout (target : Text) (limit : UInt64) : Failure :=
  ⟨.connection .connectTimeout,
    "Connecting to ".toList ++ target ++ " timed out after ".toList ++
      Numeral.write limit.toNat ++ " ms".toList⟩

/-- No complete response came in time. -/
def readTimeout (target : Text) (limit : UInt64) : Failure :=
  ⟨.connection .readTimeout,
    "No complete response from ".toList ++ target ++ " within ".toList ++
      Numeral.write limit.toNat ++ " ms".toList⟩

/-! ## Sending -/

/-- A request on its way: the authority it goes to, in one text and by its port, and the millisecond
at which sending it began. -/
structure Sending where
  target : Text
  port : UInt16
  request : Request
  options : Options
  started : Nat
  deriving DecidableEq, Repr

/-- What is left of the time for connecting, when `elapsed` milliseconds have passed. -/
def Options.timeLeft (options : Options) (elapsed : Nat) : UInt64 :=
  (options.connectLimitMs.toNat - elapsed).toUInt64

section

variable {m : Type → Type} [Monad m]

/-- The bytes that an exchange has yielded, once a connection was made. -/
def conclude (log : Level → Text → m Unit) (sending : Sending) (writeError : Option SystemError)
    (reading : Reading) : m (Except Failure Bytes) := do
  let target := sending.target
  log .trace ("Connected to ".toList ++ target ++ ", sending ".toList ++
    Text.quoted sending.request.line)
  if let some error := writeError then
    log .debug ("Writing request to ".toList ++ target ++
      " failed, reading any response: ".toList ++ error.message)
  match reading with
  | .failed error => return .error (.ofSystemError error "Failed to read response".toList)
  | .stalled => return .error (readTimeout target sending.options.readLimitMs)
  | .received bytes reset =>
    if let some error := reset then
      log .debug ("Connection reset after ".toList ++ Numeral.write bytes.length ++
        " response bytes: ".toList ++ error.message)
    match bytes, writeError with
    | [], some error =>
      return .error (.ofSystemError error ("Failed to send request to ".toList ++ target))
    | bytes, _ => return .ok bytes

/-- Attempts to send a request to one address, in what is left of the time for connecting. -/
def attemptAt (network : Network m) (sending : Sending) (address : IpAddress) : m Attempted := do
  let elapsed := (← network.clock.milliseconds) - sending.started
  let options := sending.options
  network.attempt ⟨options.client, address, sending.port, sending.request.wire,
    sending.request.isHead, options.timeLeft elapsed, options.readLimitMs⟩

/-- Tries the addresses in order; an address that cannot be connected to gives way to the next. -/
def sendToFirst (network : Network m) (log : Level → Text → m Unit) (sending : Sending)
    (last : Option SystemError) : List IpAddress → m (Except Failure Bytes)
  | [] =>
    match last with
    | none => return .error (ioFailure ("No addresses found for ".toList ++ sending.target))
    | some error =>
      return .error (.ofSystemError error ("Failed to connect to ".toList ++ sending.target))
  | address :: rest => do
    match ← attemptAt network sending address with
    | .unbound error | .unconnected error => sendToFirst network log sending (some error) rest
    | .unanswered => return .error (connectTimeout sending.target sending.options.connectLimitMs)
    | .exchanged writeError reading => conclude log sending writeError reading

/-- Sends from a client address, to the first address of the same version. -/
def sendBound (network : Network m) (log : Level → Text → m Unit) (sending : Sending)
    (client : IpAddress) (addresses : List IpAddress) : m (Except Failure Bytes) := do
  match addresses.find? (·.isV4 = client.isV4) with
  | none =>
    return .error (ioFailure ("No address of ".toList ++ sending.target ++
      " matches the client address ".toList ++ client.render))
  | some address =>
    match ← attemptAt network sending address with
    | .unbound error =>
      return .error (.ofSystemError error
        ("Failed to bind client address ".toList ++ client.render))
    | .unconnected error =>
      return .error (.ofSystemError error ("Failed to connect to ".toList ++ sending.target))
    | .unanswered => return .error (connectTimeout sending.target sending.options.connectLimitMs)
    | .exchanged writeError reading => conclude log sending writeError reading

/-- Looks the host up, sends the request there and reads back the bytes of the response. -/
def dispatch (network : Network m) (log : Level → Text → m Unit) (host : Text)
    (sending : Sending) : m (Except Failure Bytes) := do
  let limit := sending.options.connectLimitMs
  match ← network.lookUp host limit with
  | .unanswered => return .error (connectTimeout sending.target limit)
  | .failed error =>
    return .error (.ofSystemError error ("Failed to resolve ".toList ++ sending.target))
  | .found addresses =>
    match sending.options.client with
    | none => sendToFirst network log sending none addresses
    | some client => sendBound network log sending client addresses

/-- Sends a request to a host, reads back the bytes of the response and logs how long it took. What
the server sent before it ended the connection counts as the response. -/
def send (network : Network m) (log : Level → Text → m Unit) (host : Text) (port : UInt16)
    (request : Request) (options : Options) : m (Except Failure Bytes) := do
  let started ← network.clock.milliseconds
  let target := joinAuthority host port
  let outcome ← dispatch network log host ⟨target, port, request, options, started⟩
  if let .ok bytes := outcome then
    let elapsed := (← network.clock.milliseconds) - started
    log .trace ("Received ".toList ++ Numeral.write bytes.length ++ " bytes from ".toList ++
      target ++ " in ".toList ++ Numeral.write elapsed ++ " ms".toList)
  return outcome

end

end Exchange

end HttpConformance
