import NfsWatch.Url.Domain.Label
import NfsWatch.Url.Parts

/-!
# Domain — a host by its name

A domain is a text of labels between full stops. `ascii?` gives its one form in ASCII, by which
two spellings of a domain are compared.
-/

namespace NfsWatch.Url.Domain

/-- ASCII characters that no domain holds. -/
def isForbidden (c : Char) : Bool :=
  c.toNat ≤ 0x20 || c.toNat == 0x7F ||
    c ∈ ['%', '#', '/', ':', '<', '>', '?', '@', '[', '\\', ']', '^', '|']

def ascii? (cs : List Char) : Option (List Char) := do
  let labels := parts (· == '.') (← spelling? cs)
  let shown ← labels.mapM characters?
  let inOrder := !shown.any isRightToLeft || shown.all hasOneDirection
  let domain := List.intercalate ['.'] (labels.map name)
  if shown.all isValid && inOrder && !domain.any isForbidden then return domain else none

end NfsWatch.Url.Domain
