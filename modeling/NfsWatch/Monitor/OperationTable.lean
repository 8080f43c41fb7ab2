import NfsWatch.Poll.Monitor
import NfsWatch.Reconcile.Field

/-!
# Operation table — the call counters of one protocol family

One row per operation, in byte order of the names.
-/

namespace NfsWatch.OperationTable

structure View where
  operations : ReconciledList OperationCount
deriving DecidableEq, Inhabited

def apply (view : View) (counters : OperationCounters) : Applied View :=
  let (operations, outcome) := view.operations.reconcileKeyed counters.rows
  { view := ⟨operations⟩, changed := outcome.changed, followUps := none }

def monitor (family : ProtocolFamily) : Monitor OperationCounters View Empty where
  name := "operations_" ++ family.name
  endpoint := .operations family
  initial := ⟨.empty⟩
  decode := OperationCounters.decode
  apply := apply
  command := noCommand
  applyFollowUp := noFollowUp

end NfsWatch.OperationTable
