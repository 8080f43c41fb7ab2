import NfsWatch.Server.Operations

/-!
# Endpoint — the places of the server that are read or written

An endpoint is a route with its ids. Its path is shown with the segments as they are; only a
request encodes them.
-/

namespace NfsWatch

inductive Endpoint
  | version
  | clients
  | client (id : String)
  | session (id : String)
  | state (client : String) (id : String)
  | filesystem
  | operations (family : ProtocolFamily)
  /-- Where the states of a client are revoked; the only place that is written. -/
  | revoke (client : String)
deriving DecidableEq, Repr, Inhabited

namespace Endpoint

/-- The segments of the path, not encoded. -/
def segments : Endpoint → List String
  | .version => ["version"]
  | .clients => ["nfs4", "client"]
  | .client id => ["nfs4", "client", id]
  | .session id => ["nfs4", "session", id]
  | .state holder id => ["nfs4", "client", holder, "state", id]
  | .filesystem => ["fsattr"]
  | .operations family => [family.name]
  | .revoke id => ["nfs4", "client", id, "revoke"]

def path (endpoint : Endpoint) : String :=
  String.join (endpoint.segments.map (fun segment => "/" ++ segment))

end Endpoint

inductive FetchError
  | transport (endpoint : Endpoint) (reason : String)
  | decode (endpoint : Endpoint) (reason : String)
deriving DecidableEq, Repr, Inhabited

namespace FetchError

def kind : FetchError → String
  | .transport _ _ => "transport"
  | .decode _ _ => "decode"

def message : FetchError → String
  | .transport endpoint reason => s!"transport failure on {endpoint.path}: {reason}"
  | .decode endpoint reason => s!"decode failure on {endpoint.path}: {reason}"

end FetchError

abbrev Fetched (α : Type) := Except FetchError α

/-- A decoded value, with a failure attributed to the endpoint that sent it. -/
def Endpoint.decodeAs {α : Type} (endpoint : Endpoint) (decode : Json → Decoded α) (v : Json) :
    Fetched α :=
  (decode v).mapError (fun cause => .decode endpoint cause.message)

end NfsWatch
