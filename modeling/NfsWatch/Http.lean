import NfsWatch.Json.Reader
import NfsWatch.Json.Writer
import NfsWatch.Url.Basic

/-!
# Http — one exchange with the server

A read is a `GET` and a write a `POST` with a JSON body, both to the URL of the endpoint. Any status
outside the two hundreds is a failure of the transport that names the status. A read then needs a
body that is one JSON value; what the server says to a write does not matter.
-/

namespace NfsWatch.Http

structure Request where
  method : String
  target : String
  body : String
deriving DecidableEq, Repr, Inhabited

structure Reply where
  status : Nat
  body : String
deriving DecidableEq, Repr, Inhabited

def phrase? : Nat → Option String
  | 100 => "Continue"
  | 101 => "Switching Protocols"
  | 102 => "Processing"
  | 103 => "Early Hints"
  | 200 => "OK"
  | 201 => "Created"
  | 202 => "Accepted"
  | 203 => "Non Authoritative Information"
  | 204 => "No Content"
  | 205 => "Reset Content"
  | 206 => "Partial Content"
  | 207 => "Multi-Status"
  | 208 => "Already Reported"
  | 226 => "IM Used"
  | 300 => "Multiple Choices"
  | 301 => "Moved Permanently"
  | 302 => "Found"
  | 303 => "See Other"
  | 304 => "Not Modified"
  | 305 => "Use Proxy"
  | 307 => "Temporary Redirect"
  | 308 => "Permanent Redirect"
  | 400 => "Bad Request"
  | 401 => "Unauthorized"
  | 402 => "Payment Required"
  | 403 => "Forbidden"
  | 404 => "Not Found"
  | 405 => "Method Not Allowed"
  | 406 => "Not Acceptable"
  | 407 => "Proxy Authentication Required"
  | 408 => "Request Timeout"
  | 409 => "Conflict"
  | 410 => "Gone"
  | 411 => "Length Required"
  | 412 => "Precondition Failed"
  | 413 => "Payload Too Large"
  | 414 => "URI Too Long"
  | 415 => "Unsupported Media Type"
  | 416 => "Range Not Satisfiable"
  | 417 => "Expectation Failed"
  | 418 => "I'm a teapot"
  | 421 => "Misdirected Request"
  | 422 => "Unprocessable Entity"
  | 423 => "Locked"
  | 424 => "Failed Dependency"
  | 425 => "Too Early"
  | 426 => "Upgrade Required"
  | 428 => "Precondition Required"
  | 429 => "Too Many Requests"
  | 431 => "Request Header Fields Too Large"
  | 451 => "Unavailable For Legal Reasons"
  | 500 => "Internal Server Error"
  | 501 => "Not Implemented"
  | 502 => "Bad Gateway"
  | 503 => "Service Unavailable"
  | 504 => "Gateway Timeout"
  | 505 => "HTTP Version Not Supported"
  | 506 => "Variant Also Negotiates"
  | 507 => "Insufficient Storage"
  | 508 => "Loop Detected"
  | 510 => "Not Extended"
  | 511 => "Network Authentication Required"
  | _ => none

def statusText (status : Nat) : String :=
  IntegerText.write status ++ " " ++ (phrase? status).getD "<unknown status code>"

def Reply.isSuccess (reply : Reply) : Bool := 200 ≤ reply.status && reply.status < 300

/-- The body that arrives. A reply of status 204 has none, whatever the server sent. -/
def Reply.content (reply : Reply) : String := if reply.status = 204 then "" else reply.body

def Request.read (url : Url) : Request := ⟨"GET", url.target, ""⟩

def Request.write (url : Url) (value : Json) : Request := ⟨"POST", url.target, value.write⟩

/-- A reply of the server, if there is one and it is a success. -/
def accept (endpoint : Endpoint) (url : Url) : Option Reply → Fetched Reply
  | none => .error (.transport endpoint s!"error sending request for url ({url.text})")
  | some reply =>
      if reply.isSuccess then .ok reply
      else .error (.transport endpoint ("HTTP " ++ statusText reply.status))

/-- The value that a read brings; without reply the server could not be reached. -/
def fetched (endpoint : Endpoint) (url : Url) (reply : Option Reply) : Fetched Json := do
  let reply ← accept endpoint url reply
  match Json.read? reply.content with
  | none => .error (.decode endpoint "error decoding response body")
  | some value => .ok value

/-- The result of a write; without reply the server could not be reached. -/
def posted (endpoint : Endpoint) (url : Url) (reply : Option Reply) : Fetched Unit := do
  let _ ← accept endpoint url reply
  return ()

end NfsWatch.Http
