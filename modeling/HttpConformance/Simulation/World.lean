import HttpConformance.Machine
import HttpConformance.Simulation.FileTree

/-!
# A simulated world

Files, a network with a scripted server, and a clock that stands still, as a value that actions
change. What the program does in such a world is a function of the world.

The server can be reached under the two loopback addresses. It answers on one port, takes no request
on another and never takes a connection on a third; connections anywhere else are refused. Each
connection that reaches it is answered as the next line of its script says.

Main definitions: `World`, `World.machine`.
-/

namespace HttpConformance.Simulation

/-! ## The server -/

/-- What the server does with one connection. -/
structure Answer where
  content : Bytes
  /-- It leaves the connection open after the content. -/
  holds : Bool := false
  /-- It resets the connection after the content. -/
  resets : Bool := false
  deriving DecidableEq, Repr

/-- A connection that has reached the server: where it came from, and what was received. -/
structure Connection where
  client : IpAddress
  received : Bytes
  deriving DecidableEq, Repr

/-- The loopback address of version 4. -/
def loopbackV4 : IpAddress := .v4 #v[127, 0, 0, 1]

/-- The loopback address of version 6. -/
def loopbackV6 : IpAddress := .v6 #v[0, 0, 0, 0, 0, 0, 0, 1]

/-- The port on which the server answers. -/
def answeringPort : UInt16 := 18080

/-- The port on which the server never takes a connection. -/
def silentPort : UInt16 := 18081

/-- The port on which the server takes connections and no requests. -/
def deafPort : UInt16 := 18082

/-- An address from which a client may connect. -/
def isLocal : IpAddress → Bool
  | .v4 octets => octets[0] = 127
  | address => address = loopbackV6

/-- The bytes in pieces of the size of one read. -/
def piecesOf (bytes : Bytes) : List Bytes :=
  match bytes with
  | [] => []
  | byte :: rest =>
    (byte :: rest.take (readSize - 1)) :: piecesOf (rest.drop (readSize - 1))
termination_by bytes.length

/-- The error of a connection that the server has reset. -/
def connectionReset : SystemError :=
  ⟨.connectionReset, "Connection reset by peer (os error 104)".toList⟩

/-- The end of a connection after the content of an answer. -/
def Answer.ending (answer : Answer) : List ReadEvent :=
  if answer.holds then []
  else if answer.resets then [.failed connectionReset]
  else [.closed]

/-- What the client reads. A server that is sent nothing and leaves the connection open still waits
for the request. -/
def Answer.events (answer : Answer) (wire : Bytes) : List ReadEvent :=
  if answer.holds ∧ wire = [] then []
  else (piecesOf answer.content).map .data ++ answer.ending

/-! ## The world -/

/-- Everything outside of the program. -/
structure World where
  files : FileTree := .empty
  hosts : List (Text × List IpAddress) := []
  script : List Answer := []
  connections : List Connection := []
  output : Text := []
  deriving DecidableEq, Repr

/-- An action in a simulated world. -/
abbrev Simulated := StateM World

namespace World

/-! ## Files -/

/-- Changes the files, as far as that is possible. -/
def changeFiles (change : FileTree → FileTree × Option FileFault) :
    Simulated (Except SystemError Unit) := do
  let (files, fault) := change (← get).files
  modify ({ · with files })
  match fault with
  | none => return .ok ()
  | some fault => return .error fault.toSystemError

/-- What can be done with the files. -/
def fileAccess : Files Simulated where
  kind path := return (← get).files.kind path
  read path := return ((← get).files.read path).mapError FileFault.toSystemError
  create path := changeFiles (·.create path)
  append path bytes := changeFiles fun files => files.settle (files.append path bytes)

/-! ## The network -/

/-- The error of a name that is no name of a host. -/
def unknownHost : SystemError :=
  .plain "failed to lookup address information: Name or service not known"

/-- The error of an address that is not one of the client's own. -/
def notLocal : SystemError :=
  .plain "Cannot assign requested address (os error 99)"

/-- The error of an address where nobody takes connections. -/
def refused : SystemError :=
  ⟨.connectionRefused, "Connection refused (os error 111)".toList⟩

/-- The error of writing to somebody who does not read. -/
def brokenPipe : SystemError :=
  ⟨.brokenPipe, "Broken pipe (os error 32)".toList⟩

/-- The addresses of a host. -/
def lookUp (host : Text) (_ : UInt64) : Simulated LookedUp := do
  if '\x00' ∈ host then return .failed .nulInName
  match IpAddress.parse? host, (← get).hosts.lookup host with
  | some address, _ => return .found [address]
  | none, some addresses => return .found addresses
  | none, none => return .failed unknownHost

/-- The next line of the script; after the last one, connections are closed without an answer. -/
def nextAnswer : Simulated Answer := do
  let world ← get
  set { world with script := world.script.tail }
  return world.script.headD ⟨[], false, false⟩

/-- An exchange with the server. -/
def serve (attempt : Attempt) : Simulated Attempted := do
  let answer ← nextAnswer
  let heard := attempt.port ≠ deafPort ∨ attempt.wire = []
  let connection : Connection :=
    ⟨attempt.client.getD loopbackV4, if heard then attempt.wire else []⟩
  modify fun world => { world with connections := world.connections ++ [connection] }
  return .exchanged (if heard then none else some brokenPipe)
    (.collect attempt.isHead [] (answer.events attempt.wire))

/-- What becomes of an attempt to reach an address. -/
def attempt (attempt : Attempt) : Simulated Attempted :=
  if !attempt.client.all isLocal then return .unbound notLocal
  else if attempt.address ≠ loopbackV4 ∧ attempt.address ≠ loopbackV6 then
    return .unconnected refused
  else if attempt.port = silentPort then return .unanswered
  else if attempt.port = answeringPort ∨ attempt.port = deafPort then serve attempt
  else return .unconnected refused

/-- A clock that stands still. -/
def clock : Clock Simulated :=
  ⟨return 0, return 0⟩

/-- The network. -/
def network : Network Simulated :=
  ⟨lookUp, attempt, clock⟩

/-! ## The machine -/

/-- Prints a text. -/
def print (text : Text) : Simulated Unit :=
  modify fun world => { world with output := world.output ++ text }

/-- The machine on which the program runs. -/
def machine (environment : Configuration.Environment) : Machine Simulated where
  files := fileAccess
  network := network
  environment := environment
  freshId := return []
  print := print
  complain _ := return

/-- What the world does for a run of a suite of which no log is kept. -/
def quietRunner : Runner Simulated where
  send := Exchange.send network fun _ _ => return
  readFile := fileAccess.read
  log _ _ := return
  freshId := return []
  clock := clock

end World

end HttpConformance.Simulation
