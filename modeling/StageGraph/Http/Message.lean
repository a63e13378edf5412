import StageGraph.Fault
import StageGraph.Http.Target
import StageGraph.Json.Printer
import StageGraph.Text.Case

/-!
# Requests and responses

Both carry headers under lower-case names.  The body of a request is kept as
octets until it is known how to read it; the body of a response is a text.
-/

namespace StageGraph.Http

/-- What a client asks. -/
structure Request where
  method : String
  target : Target
  headers : Ledger String := []
  body : Octets := []
  scheme : String := "http"
  /-- The server that takes the request: its name, and its gate unless that is the usual one. -/
  server : String

namespace Request

/-- The value of a header, by its lower-case name. -/
def header? (request : Request) (name : String) : Option String :=
  Ledger.get? request.headers name

/-- The host that the client addresses. -/
def host (request : Request) : String :=
  (request.header? "host").getD ""

end Request

/-- What the service answers. -/
structure Response where
  status : Nat
  headers : Ledger String := []
  body : String := ""
  deriving DecidableEq, Repr

/-- Whether a header can hold a text: its characters have to fit into an octet each. -/
def fitsHeader (text : String) : Bool :=
  text.toList.all fun c => c.toNat < 256

namespace Response

/-- The value of a header, by its lower-case name. -/
def header? (response : Response) (name : String) : Option String :=
  Ledger.get? response.headers name

/-- A response with one more header. -/
def setHeader (response : Response) (name value : String) : Response :=
  { response with headers := Ledger.put response.headers name value }

/-- A value as JSON; null stands for infinities and non-numbers.  Texts in Unicode can always be
written. -/
def json (value : Value) (status : Nat := 200) : Response :=
  { status := status
    headers := [("content-type", "application/json")]
    body := Json.compact value }

/-- A record as JSON, unless it cannot be written. -/
def written (isWritable : Bool) (value : Value) (status : Nat := 200) : Except Fault Response :=
  if isWritable then .ok (json value status) else .error .unencodable

/-- A value as JSON, unless it holds a number that JSON has no form for. -/
def exactJson (value : Value) (status : Nat := 200) : Except Fault Response :=
  if Json.hasForm value then .ok (json value status) else .error .unencodable

/-- A text of a type of media. -/
def text (media body : String) (status : Nat := 200) : Response :=
  { status := status
    headers := [("content-type", media ++ "; charset=utf-8")]
    body := body }

/-- A plain text. -/
def plain (body : String) (status : Nat := 200) : Response :=
  text "text/plain" body status

/-- The advice to ask for another location. -/
def redirect (location : String) : Response :=
  { status := 307, headers := [("location", location)] }

/-- The word that all is done. -/
def done : Response :=
  { status := 204 }

/-- A response that is saved under a name, unless the name does not fit into a header. -/
def saveAs (response : Response) (name : String) : Except Fault Response :=
  let disposition := "attachment; filename=\x22" ++ name ++ "\x22"
  if fitsHeader disposition then .ok (response.setHeader "content-disposition" disposition)
  else .error .unencodable

end Response

/-- A request with the id by which it is followed. -/
structure Call where
  id : String
  request : Request

end StageGraph.Http
