import NfsWatch.Rehearsal.Script

/-!
# Rehearsing the script itself

Requests one after the other, each of which waits for its response.
-/

namespace NfsWatch.Rehearsal

/-- A script and the time at which its last response arrived. -/
structure SourceSession where
  now : Nat
  script : Script

namespace SourceSession

def start (script : Script) : SourceSession := ⟨0, script⟩

/-- Requests an endpoint and waits for the response. -/
def fetch (session : SourceSession) (endpoint : Endpoint) : SourceSession × Fetched Json :=
  let (response, script) := session.script.fetch endpoint
  (⟨session.now + response.delayMs, script⟩, response.result)

def post (session : SourceSession) (endpoint : Endpoint) (body : Json) : SourceSession :=
  { session with script := session.script.post endpoint body }

end SourceSession

end NfsWatch.Rehearsal
