import NfsWatch.Json.Writer

/-!
# Version — what the server calls itself

The description of the server is shown and never interpreted: a text as it is, any other value in
compact form.
-/

namespace NfsWatch

/-- A description of the server, of any form. -/
structure VersionInfo where
  value : Json
deriving Inhabited

def VersionInfo.text : VersionInfo → String
  | ⟨.str s⟩ => s
  | ⟨v⟩ => v.write

end NfsWatch
