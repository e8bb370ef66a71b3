import HttpConformance.Message.Request
import HttpConformance.Message.Response
import HttpConformance.Network.Url

/-!
# Redirects

Where a redirect leads, and the request that follows it. The follow-up request keeps the method and
the version of the one before; of its fields only `Host` and `Connection` are carried on.

Main definitions: `RedirectTarget` and `nextRequest?`.
-/

namespace HttpConformance

/-- Where the next request of a chain of redirects goes, and what it is. -/
structure RedirectTarget where
  host : Text
  port : UInt16
  request : Request
  deriving DecidableEq, Repr

/-- Why a redirect cannot be followed. -/
inductive RedirectError where
  | invalidLocation (location : Text) (error : Url.Error)
  | secureLocation (location : Text)
  deriving DecidableEq, Repr

/-- The wording of an error. -/
def RedirectError.message : RedirectError → Text
  | .invalidLocation location error =>
    "Invalid Location ".toList ++ Text.quoted location ++ ':' :: ' ' :: error.message
  | .secureLocation location => "Cannot follow redirect to TLS location ".toList ++ location

/-- The failure that an error amounts to. -/
def RedirectError.toFailure (error : RedirectError) : Failure :=
  ⟨.redirect, error.message⟩

/-! ## Resolving a location -/

/-- The port of a location that gives none. -/
def defaultPort : UInt16 := 80

/-- A host without the brackets of an address of version 6. -/
def withoutBrackets (host : Text) : Text :=
  dropEndWhile (· == ']') (host.dropWhile (· == '['))

/-- How a location is written: with a scheme or two slashes before an authority, or under the
current authority. -/
inductive LocationForm where
  | absolute (secure : Bool) (rest : Text)
  | sameAuthority

/-- The form of a location. -/
def LocationForm.of (location : Text) : LocationForm :=
  match "http://".toList.isPrefixOf? location, "https://".toList.isPrefixOf? location,
    ['/', '/'].isPrefixOf? location with
  | some rest, _, _ => .absolute false rest
  | none, some rest, _ => .absolute true rest
  | none, none, some rest => .absolute false rest
  | none, none, none => .sameAuthority

/-- A relative location against the directory of the current target; one that is a query alone
replaces the query of the current target. -/
def resolveRelative (current location : Text) : Text :=
  let path := current.takeWhile (!Url.endsPath ·)
  if location.head? = some '?' then path ++ location
  else if '/' ∈ path then dropEndWhile (· != '/') path ++ location
  else '/' :: location

/-- The host, the port and the target that a location leads to. -/
def resolveLocation (host : Text) (port : UInt16) (current : Request) (location : Text) :
    Except RedirectError (Text × UInt16 × Text) :=
  match LocationForm.of location with
  | .absolute secure rest =>
    match Url.parse rest with
    | .error error => .error (.invalidLocation location error)
    | .ok url =>
      if secure then .error (.secureLocation location)
      else .ok (withoutBrackets url.host, url.port?.getD defaultPort, url.target)
  | .sameAuthority =>
    if location.head? = some '/' then .ok (host, port, location)
    else .ok (host, port, resolveRelative current.target location)

/-! ## The request that follows -/

/-- An authority as the value of a `Host` field. -/
def writeAuthority (host : Text) (port : UInt16) : Text :=
  if port = defaultPort then host else host ++ ':' :: Numeral.write port.toNat

/-- The value of the `Host` field of the follow-up request, when the current one has the value
`written`: the same value if the authority stays the same. -/
def nextHostValue (host : Text) (port : UInt16) (next : Text × UInt16) (written : Text) : Text :=
  if next = (host, port) then written else writeAuthority next.1 next.2

/-- The request that follows a redirect to the given place. -/
def followUp (host : Text) (port : UInt16) (current : Request) (next : Text × UInt16)
    (target : Text) : Request :=
  { Request.make current.method target current.version with
    fields :=
      ((current.header? "Host".toList).map fun written =>
        RequestField.ofValue "Host".toList (nextHostValue host port next written)).toList ++
      ((current.header? "Connection".toList).map
        (RequestField.ofValue "Connection".toList)).toList }

/-- The location that a response redirects to, if it is a redirect and says where. -/
def Response.location? (response : Response) : Option Text :=
  if response.isRedirect then
    ((response.header? "Location".toList).map Text.trim).filter (· ≠ [])
  else none

/-- What follows a response to a request that was sent to the given host and port: nothing, if the
response does not redirect. -/
def nextRequest? (host : Text) (port : UInt16) (current : Request) (response : Response) :
    Option (Except RedirectError RedirectTarget) :=
  response.location?.map fun location =>
    (resolveLocation host port current location).map fun (nextHost, nextPort, target) =>
      ⟨nextHost, nextPort, followUp host port current (nextHost, nextPort) target⟩

end HttpConformance
