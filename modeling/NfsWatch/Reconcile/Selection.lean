/-!
# Selection — the operator's pick in a displayed list

A selection follows its value, not its position. Once the value leaves the list, the first entry
takes its place: in the same pass, or in the next one after a pass without any selection.
-/

namespace NfsWatch

/-- When a vanished selection is replaced by the first entry. -/
inductive Reselect
  /-- In the pass in which it vanished. -/
  | immediate
  /-- In the pass after that. -/
  | nextPass
deriving DecidableEq, Repr, Inhabited

structure Selection (α : Type) where
  selected : Option α
  reselect : Reselect
deriving DecidableEq, Inhabited

namespace Selection

variable {α : Type}

def empty (reselect : Reselect) : Selection α := ⟨none, reselect⟩

variable [DecidableEq α]

/-- Picks a value that is listed, and tells whether the pick moved. -/
def select (selection : Selection α) (value : α) (items : List α) : Selection α × Bool :=
  if value ∉ items ∨ selection.selected = some value then (selection, false)
  else ({ selection with selected := some value }, true)

/-- Checks the pick against the latest list, and tells whether it moved. Done after every pass
over the list, also after one that left the list as it was. -/
def reconcile (selection : Selection α) (items : List α) : Selection α × Bool :=
  match selection.selected with
  | some current =>
      if current ∈ items then (selection, false)
      else
        match selection.reselect with
        | .nextPass => ({ selection with selected := none }, true)
        | .immediate => ({ selection with selected := items.head? }, true)
  -- without a pick the first entry is taken under either rule
  | none => ({ selection with selected := items.head? }, items.head?.isSome)

end Selection

end NfsWatch
