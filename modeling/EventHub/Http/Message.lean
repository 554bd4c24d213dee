import EventHub.Json.Basic
import EventHub.Http.Uri

/-! Requests and responses, as far as a handler sees them. -/

namespace EventHub.Http

structure Request where
  method : String
  path : String
  query : Option String := none
  headers : List (String × String) := []
  body : String := ""
  upgradable : Bool := false

namespace Request

/-- A request for a target such as `/path?query` or `http://host/path`. Nothing is found at a
target that is no URI. -/
def ofTarget (method target : String) (headers : List (String × String)) (body : String) :
    Request :=
  let uri := (Uri.parse? target).getD {}
  { method, path := uri.servedPath, query := uri.query, headers, body }

def rawHeaders (request : Request) (name : String) : List String :=
  (request.headers.filter fun header => Text.lowerString header.1 == name).map (·.2)

def rawHeader? (request : Request) (name : String) : Option String :=
  (request.rawHeaders name).head?

/-- Visible ASCII, blanks and tabs. -/
def isPlain (char : Char) : Bool :=
  char == '\t' || (' ' ≤ char && char ≤ '~')

/-- The first header of a name, if its value reads as text. -/
def header? (request : Request) (name : String) : Option String :=
  (request.rawHeader? name).filter fun value => value.toList.all isPlain

end Request

inductive Body where
  | empty
  | json (value : Json)
  | text (content : String)

structure Response where
  status : Nat
  contentType : Option String
  body : Body
  subprotocol : Option String := none
  requestId : Option String := none

namespace Response

def ofJson (status : Nat) (value : Json) : Response where
  status := status
  contentType := some "application/json"
  body := .json value

def refusal (status : Nat) (reason : String) : Response where
  status := status
  contentType := some "text/plain; charset=utf-8"
  body := .text reason

def bare (status : Nat) : Response where
  status := status
  contentType := none
  body := .empty

/-- The error record of the program's own answers. -/
def error (status : Nat) (message : String) : Response :=
  ofJson status (.record [("error", .text message)])

/-- A `HEAD` request gets the answer without its body. -/
def forMethod (response : Response) (method : String) : Response :=
  if method = "HEAD" then { response with body := .empty } else response

def notFound : Response :=
  bare 404

def methodNotAllowed : Response :=
  bare 405

end Response

end EventHub.Http
