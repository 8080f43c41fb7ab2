import Mathlib.Data.Finset.Dedup
import Mathlib.Data.List.Sort
import NfsWatch.Monitor.OperationTable
import NfsWatch.Proofs.Monitor.History
import NfsWatch.Proofs.Reconcile.Reported
import NfsWatch.Proofs.Text.ByteOrder

/-!
# What the rows of counters show

Counters reach the table in the order of their names, so two of them with the same names have their
rows at the same positions. Hence it never shows whether a row was patched or came in a new list:
the rows are those of the last counters (`items_shownAfter`), the generation tells how often the set
of names changed, and a change is reported if a count or the set did.
-/

namespace NfsWatch

open KeyedHistory ReconciledList

namespace OperationCounters

def empty : OperationCounters := ⟨.empty⟩

def names (counters : OperationCounters) : Finset String := counters.operations.keys.toFinset

theorem mem_rows {counters : OperationCounters} {row : OperationCount} :
    row ∈ counters.rows ↔ counters.operations.find? row.name = some row.count := by
  obtain ⟨name, count⟩ := row
  simp [rows, Table.find?_eq_some_iff]

theorem keys_rows (counters : OperationCounters) :
    ReconciledList.keys counters.rows = counters.operations.keys := by
  unfold rows ReconciledList.keys Table.keys
  rw [List.map_map]
  rfl

theorem keys_rows_inj {first second : OperationCounters} :
    ReconciledList.keys first.rows = ReconciledList.keys second.rows ↔
      first.names = second.names := by
  rw [keys_rows, keys_rows]
  refine ⟨congrArg List.toFinset, fun h => ?_⟩
  have hmem : ∀ name, name ∈ first.operations.keys ↔ name ∈ second.operations.keys := by
    intro name
    rw [← List.mem_toFinset, ← List.mem_toFinset]
    exact Finset.ext_iff.mp h name
  -- both lists strictly increase, so their members settle them
  have hsorted : ∀ counters : OperationCounters, counters.operations.keys.Pairwise (· < ·) :=
    fun counters => List.pairwise_map.mpr counters.operations.sorted
  exact (hsorted first).eq_of_mem_iff (hsorted second) hmem

theorem rows_inj {first second : OperationCounters} :
    first.rows = second.rows ↔
      ∀ name, first.operations.find? name = second.operations.find? name := by
  constructor
  · intro h name
    apply Option.ext
    intro count
    have hrow := @mem_rows first ⟨name, count⟩
    rw [h, mem_rows] at hrow
    exact hrow.symm
  · intro h
    unfold rows
    rw [Table.ext_find? h]

end OperationCounters

namespace OperationTable

open OperationCounters (names)

/-- What is displayed after these counters, from the start on. -/
def shownAfter (family : ProtocolFamily) (payloads : List OperationCounters) : View :=
  (monitor family).polled (monitor family).initial payloads

/-- The last counters; before the first response there are none. -/
def newest (payloads : List OperationCounters) : OperationCounters :=
  payloads.getLast?.getD .empty

theorem shownAfter_concat (family : ProtocolFamily) (payloads : List OperationCounters)
    (last : OperationCounters) :
    shownAfter family (payloads ++ [last]) = (apply (shownAfter family payloads) last).view :=
  Monitor.polled_concat ..

theorem items_shownAfter (family : ProtocolFamily) (payloads : List OperationCounters) :
    (shownAfter family payloads).operations.items = (newest payloads).rows := by
  induction payloads using List.reverseRecOn with
  | nil => rfl
  | append_singleton payloads last _ =>
      unfold newest
      rw [shownAfter_concat, List.getLast?_concat]
      exact reconcileKeyed_rows ..

/-- The rows are a list that is reconciled by key. -/
theorem operations_shownAfter (family : ProtocolFamily) (payloads : List OperationCounters) :
    (shownAfter family payloads).operations =
      displayed id (payloads.map OperationCounters.rows) := by
  induction payloads using List.reverseRecOn with
  | nil => rfl
  | append_singleton payloads last ih =>
      rw [shownAfter_concat, List.map_append, List.map_singleton, displayed_concat, ← ih,
        List.map_id]
      rfl

theorem generation_shownAfter (family : ProtocolFamily) (payloads : List OperationCounters) :
    (shownAfter family payloads).operations.generation =
      turns (fun before after => names before ≠ names after) .empty payloads := by
  have hagree : ∀ before after : OperationCounters,
      ids id before.rows ≠ ids id after.rows ↔ names before ≠ names after := by
    intro before after
    unfold ids
    rw [List.map_id, List.map_id, Ne, OperationCounters.keys_rows_inj]
  calc (shownAfter family payloads).operations.generation
      = changes id (payloads.map OperationCounters.rows) := by
        rw [operations_shownAfter, generation_displayed]
    _ = turns (fun before after => ids id before.rows ≠ ids id after.rows) .empty payloads :=
        turns_map OperationCounters.rows (fun before after => ids id before ≠ ids id after) .empty
          payloads
    _ = turns (fun before after => names before ≠ names after) .empty payloads :=
        turns_congr hagree .empty payloads

/-- What the table shows after counters `last` that followed on others, and what it reports. -/
structure ShowsExactly (family : ProtocolFamily) (earlier : List OperationCounters)
    (last : OperationCounters) : Prop where
  /-- The names strictly increase in the order of their bytes. -/
  ordered : (shownAfter family (earlier ++ [last])).operations.items.Pairwise
    fun first second => Text.bytes first.name < Text.bytes second.name
  /-- There is a row for each count, and no other. -/
  rows : ∀ row, row ∈ (shownAfter family (earlier ++ [last])).operations.items ↔
    last.operations.find? row.name = some row.count
  /-- The generation counts the counters with other names than before. -/
  generation : (shownAfter family (earlier ++ [last])).operations.generation =
    turns (fun before after => names before ≠ names after) .empty (earlier ++ [last])
  /-- A change is reported if some name has another count than before, or is counted anew, or no
  more. -/
  changed : ((monitor family).apply (shownAfter family earlier) last).changed = true ↔
    ∃ name, last.operations.find? name ≠ (newest earlier).operations.find? name

/-- The counters are shown exactly, in the order of their names, however they got there. -/
theorem counters_shown_exactly (family : ProtocolFamily) (earlier : List OperationCounters)
    (last : OperationCounters) : ShowsExactly family earlier last := by
  have hitems : (shownAfter family (earlier ++ [last])).operations.items = last.rows := by
    rw [items_shownAfter]
    unfold newest
    rw [List.getLast?_concat, Option.getD_some]
  have hchanged : ((monitor family).apply (shownAfter family earlier) last).changed = true ↔
      last.rows ≠ (newest earlier).rows := by
    have hlist := reconcileKeyed_changed (shownAfter family earlier).operations last.rows
    rw [reconcileKeyed_rows, items_shownAfter] at hlist
    exact hlist
  constructor
  case ordered =>
    have hkeys := last.operations.keys_in_byte_order
    rw [← OperationCounters.keys_rows, keys, List.pairwise_map] at hkeys
    rw [hitems]
    exact hkeys
  case rows =>
    intro row
    rw [hitems]
    exact OperationCounters.mem_rows
  case generation => exact generation_shownAfter family (earlier ++ [last])
  case changed =>
    rw [hchanged, Ne, OperationCounters.rows_inj]
    exact not_forall

end OperationTable

end NfsWatch
