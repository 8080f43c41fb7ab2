import NfsWatch.Unicode.Composition
import NfsWatch.Url.Domain.Admission
import NfsWatch.Url.Domain.Folding
import NfsWatch.Url.Domain.Spelling

/-!
# Mapping — the spelling of a text as a domain

Texts that differ only in case, in the form of their letters or in how marks are composed are one
domain. `spelling?` writes each character as domains do and composes the result; it fails on a
character that no domain holds. A text in that spelling already is `settled`.
-/

namespace NfsWatch.Url.Domain

open Unicode

/-- What a domain writes for a character, if it can hold it. -/
def written? (c : Char) : Option (List Char) :=
  let n := c.toNat
  if isDropped n then some []
  else
    match folded? n, spelled? n with
    | some m, _ => some [Char.ofNat m]
    | none, some ms => some (ms.map Char.ofNat)
    | none, none => if isDisallowed n then none else some [c]

def spelling? (cs : List Char) : Option (List Char) :=
  (cs.mapM written?).map (fun written => compose written.flatten)

def settled (cs : List Char) : Bool :=
  cs.all (fun c => written? c == some [c]) && compose cs == cs

end NfsWatch.Url.Domain
