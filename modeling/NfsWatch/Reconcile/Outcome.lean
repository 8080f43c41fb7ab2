/-!
# Outcome — what a snapshot did to what is displayed

The three outcomes are ordered by strength; combining two keeps the stronger one.
-/

namespace NfsWatch

/-- What a snapshot did to a displayed collection. -/
inductive Outcome
  | unchanged
  | patched
  | replaced
deriving DecidableEq, Repr, Inhabited

namespace Outcome

def changed : Outcome → Bool
  | .unchanged => false
  | _ => true

/-- The stronger of two outcomes. -/
def and : Outcome → Outcome → Outcome
  | .replaced, _ => .replaced
  | _, .replaced => .replaced
  | .patched, _ => .patched
  | _, .patched => .patched
  | .unchanged, .unchanged => .unchanged

def ofPatched (patched : Bool) : Outcome := if patched then .patched else .unchanged

def name : Outcome → String
  | .unchanged => "unchanged"
  | .patched => "patched"
  | .replaced => "replaced"

@[simp] theorem changed_and (a b : Outcome) : (a.and b).changed = (a.changed || b.changed) := by
  cases a <;> cases b <;> rfl

@[simp] theorem changed_ofPatched (patched : Bool) : (ofPatched patched).changed = patched := by
  cases patched <;> rfl

end Outcome

end NfsWatch
