import NfsWatch.Reconcile.List
import NfsWatch.Text.Blank

/-!
# Section — a keyed collection with a panel of its own

An empty snapshot does not clear the records of a section, it only hides the panel. Whether
entries that return show the panel again is a policy. Hiding and showing count as a patch.
-/

namespace NfsWatch

/-- What becomes of a hidden panel when entries return. -/
inductive HiddenPolicy
  | reshow
  /-- It stays hidden as long as the view lives. -/
  | sticky
deriving DecidableEq, Repr, Inhabited

namespace HiddenPolicy

def name : HiddenPolicy → String
  | .reshow => "reshow"
  | .sticky => "sticky"

/-- The policy that a text typed by the operator stands for; blanks around it and the case of its
letters do not count. An unknown text is refused in the form in which it was compared. -/
def ofText (text : String) : Except String HiddenPolicy :=
  let typed := Text.lower (Text.trim text)
  if typed ∈ ["reshow", "live"] then .ok .reshow
  else if typed = "sticky" then .ok .sticky
  else .error s!"Unknown hidden-section policy: {typed}"

end HiddenPolicy

structure Section (α : Type) where
  list : ReconciledList α
  hidden : Bool
deriving Inhabited

namespace Section

variable {α : Type}

def empty : Section α := ⟨.empty, false⟩

def apply [Keyed α] (current : Section α) (snapshot : List α) (policy : HiddenPolicy) :
    Section α × Outcome :=
  if snapshot.isEmpty then
    ({ current with hidden := true }, .ofPatched !current.hidden)
  else
    let shows := current.hidden && policy == .reshow
    let (list, outcome) := current.list.reconcileKeyed snapshot
    (⟨list, current.hidden && !shows⟩, (Outcome.ofPatched shows).and outcome)

end Section

end NfsWatch
