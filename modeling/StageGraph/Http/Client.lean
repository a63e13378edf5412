import StageGraph.Http.Message
import StageGraph.Http.Reference

/-!
# Clients

A client turns references into requests to a service, and takes its responses.  A
reference that does not say where it leads goes to the server that the client
knows.  Both directions have their faults: a reference may lead nowhere, and a
response may bring a location or a header that the client cannot read.
-/

namespace StageGraph.Http

/-- Why a client does not send a request or does not take a response. -/
inductive ClientFault where
  | noReference
  | unknownScheme
  /-- The scheme asks for a connection that stays open. -/
  | openConnection
  /-- What is taken for the number of a gate is none. -/
  | noGate (text : String)
  /-- The response leads to a location that is no reference. -/
  | noLocation
  /-- The response has a header beyond ASCII. -/
  | foreignHeader
  deriving DecidableEq, Repr

/-- A client of a server. -/
structure Client where
  server : String := "testserver"

namespace Client

/-- The gates that schemes use unless another is named. -/
def usualGates : List (String × Int) :=
  [("http", 80), ("https", 443), ("ws", 80), ("wss", 443), ("ftp", 21)]

/-- The schemes that a service can be reached by. -/
def knownSchemes : List String :=
  ["http", "https", "ws", "wss"]

/-- A host with its gate, unless that is the usual one of the scheme. -/
def withGate (scheme host : String) (gate : Option Int) : String :=
  match gate with
  | some gate => if usualGates.lookup scheme = some gate then host else host ++ ":" ++ toString gate
  | none => host

/-- Where a request goes: the scheme, the server, and the host that the client names. -/
structure Route where
  scheme : String
  server : String
  host : String
  deriving DecidableEq, Repr

/-- Where an absolute reference leads.  A colon before that of the gate is taken for it. -/
def routeOf (reference : Reference) : Except ClientFault Route := do
  let scheme := Text.lower reference.scheme
  let host := withGate reference.scheme reference.host reference.gate
  if !knownSchemes.contains scheme then throw .unknownScheme
  if reference.host.toList.contains ':' then
    throw (.noGate (String.ofList ((host.toList.dropWhile (· ≠ ':')).drop 1)))
  if scheme = "ws" || scheme = "wss" then throw .openConnection
  return {
    scheme := scheme
    server := withGate scheme reference.host reference.gate
    host := host }

/-- The request that a reference makes.  The host is named unless a header does that. -/
def request (client : Client) (method reference : String) (headers : Ledger String)
    (body : Octets := []) : Except ClientFault Request := do
  let some reference := Reference.ofText? reference | throw .noReference
  let route ←
    if reference.isAbsolute then routeOf reference
    else pure { scheme := "http", server := client.server, host := client.server }
  return {
    method := Text.upper method
    target := reference.target
    headers := Ledger.putNew headers "host" route.host
    body := body
    scheme := route.scheme
    server := route.server }

/-- The text that a client reads in a header, whose characters are sent as octets. -/
def headerText? (text : String) : Option String :=
  if text.toList.all fun c => c.toNat < 128 then some text
  else Text.Utf8.decode? (text.toList.map fun c => UInt8.ofNat c.toNat)

/-- The response of a service that breaks off before it has said anything. -/
def broken : Response :=
  { status := 500 }

/-- A response as the client takes it.  Nothing is left of one with a header that cannot be
read. -/
def receive (response : Response) : Except ClientFault Response :=
  match (Ledger.values response.headers).mapM headerText? with
  | none => .ok broken
  | some texts =>
    if texts.any fun text => text.toList.any fun c => 128 ≤ c.toNat then .error .foreignHeader
    else
      match response.header? "location" with
      | some location =>
        if (Reference.ofText? location).isSome then .ok response else .error .noLocation
      | none => .ok response

end Client

end StageGraph.Http
