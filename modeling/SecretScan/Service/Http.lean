import SecretScan.Failure
import SecretScan.Json.Reader
import SecretScan.Json.Decode

/-!
# Requests and responses

A request to a web service and its response, as values. How a request is carried out is not said
here: a transport is any function from requests to responses.
-/

namespace SecretScan

/-- A request; one with a body is posted, one without gets. -/
structure HttpRequest where
  url : String
  headers : List (String × String)
  body : Option String := none
  deriving DecidableEq, Repr

/-- The lines of the headers of a request. -/
def HttpRequest.headerLines (r : HttpRequest) : List String :=
  r.headers.map fun (name, value) => name ++ ": " ++ value

/-- A response. -/
structure HttpResponse where
  status : Nat
  body : List UInt8
  deriving Repr

namespace HttpResponse

/-- Did the request succeed? -/
def isSuccess (r : HttpResponse) : Bool := 200 ≤ r.status && r.status < 300

/-- The body as text, whatever is not UTF-8 in it being marked. -/
def text (r : HttpResponse) : List Char := Text.Utf8.decodeLossy r.body

/-- Does the body contain the text? -/
def contains (r : HttpResponse) (needle : String) : Bool :=
  Text.occursIn needle.toList r.text

/-- The body as a document. -/
def document? (r : HttpResponse) : Option Document := Json.readBytes? r.body

/-- The body as a value that a decoder accepts. -/
def decode? {α : Type} (r : HttpResponse) (decode : Decoder α) : Option α :=
  r.document?.bind decode

end HttpResponse

/-- How requests are carried out. -/
abbrev Transport (m : Type → Type) := HttpRequest → m (Except Failure HttpResponse)

/-- How long a request may take if nothing else is said, in milliseconds. -/
def defaultTimeoutMillis : Nat := 10000

end SecretScan
