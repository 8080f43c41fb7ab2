import NfsWatch.Reconcile.Outcome

/-!
# Reconciled lists — displayed collections with a generation

A reconciled list is replaced only when its membership changes. Replacing it raises its
generation; any other outcome keeps the generation, so that whoever holds on to positions or to
the generation keeps a valid view.

A list of ids is reconciled by sorting the snapshot and comparing it with what is displayed. A
list of records is reconciled by key: with the same keys in the same order each record is patched
from its counterpart, and otherwise the snapshot replaces the list.
-/

namespace NfsWatch

structure ReconciledList (α : Type) where
  items : List α
  /-- How often the collection was replaced so far. -/
  generation : Nat
deriving DecidableEq, Inhabited

/-- Records with a stable key and fields that change. -/
class Keyed (α : Type) where
  key : α → String
  /-- The record with its derived fields; done to each record of a snapshot before anything else. -/
  derived : α → α
  /-- The first record updated from the second, and whether anything was written. -/
  patch : α → α → α × Bool

namespace ReconciledList

variable {α : Type}

def empty : ReconciledList α := ⟨[], 0⟩

def replace (list : ReconciledList α) (items : List α) : ReconciledList α × Outcome :=
  (⟨items, list.generation + 1⟩, .replaced)

/-! ## Lists of ids -/

def ascending [Ord α] (items : List α) : List α :=
  items.mergeSort (fun a b => (compare a b).isLE)

/-- Adopts the sorted snapshot if it differs from what is displayed. -/
def reconcileSorted [Ord α] [DecidableEq α] (list : ReconciledList α) (snapshot : List α) :
    ReconciledList α × Outcome :=
  let sorted := ascending snapshot
  if list.items = sorted then (list, .unchanged) else list.replace sorted

/-! ## Lists of records -/

variable [Keyed α]

def patchAll : List α → List α → List α × Bool
  | current :: rest, next :: more =>
      let (record, written) := Keyed.patch current next
      let (records, others) := patchAll rest more
      (record :: records, written || others)
  -- both lists have the same keys, so they end together
  | rest, _ => (rest, false)

def keys (items : List α) : List String := items.map Keyed.key

/-- Patches the records if the snapshot has the same keys in the same order, and otherwise
replaces them. -/
def reconcileKeyed (list : ReconciledList α) (snapshot : List α) : ReconciledList α × Outcome :=
  let incoming := snapshot.map Keyed.derived
  if keys list.items = keys incoming then
    let (records, written) := patchAll list.items incoming
    (⟨records, list.generation⟩, .ofPatched written)
  else list.replace incoming

end ReconciledList

end NfsWatch
