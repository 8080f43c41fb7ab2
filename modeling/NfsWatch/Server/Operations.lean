import NfsWatch.Decode
import NfsWatch.Text.Blank

/-!
# Operations — call counters of one protocol family

The server sends the counters as an object from operation names to counts; they are shown as rows
in byte order of the names.
-/

namespace NfsWatch

inductive ProtocolFamily
  | nfs4
  | nfs3
deriving DecidableEq, Repr, Inhabited

namespace ProtocolFamily

def name : ProtocolFamily → String
  | .nfs4 => "nfs4"
  | .nfs3 => "nfs3"

/-- The family that a text typed by the operator stands for; blanks around it and the case of its
letters do not count. An unknown text is refused in the form in which it was compared. -/
def ofText (text : String) : Except String ProtocolFamily :=
  let typed := Text.lower (Text.trim text)
  if typed ∈ ["nfs4", "v4", "4"] then .ok .nfs4
  else if typed ∈ ["nfs3", "v3", "3"] then .ok .nfs3
  else .error s!"Unknown protocol family: {typed}"

def decode : Json → Decoded ProtocolFamily := Decode.variant [("nfs4", .nfs4), ("nfs3", .nfs3)]

def encode (family : ProtocolFamily) : Json := .str family.name

end ProtocolFamily

structure OperationCount where
  name : String
  count : UInt64
deriving DecidableEq, Inhabited

namespace OperationCount

def required {α : Type} (name : String) : Option α → Decoded α
  | some a => .ok a
  | none => .error (.missingField name)

def decode : Json → Decoded OperationCount :=
  Decode.record "OperationCount" 2
    (fun entries => do
      let count ← Decode.orDefault none (fun v => (Decode.word64 v).map some)
        (Entries.find? "count" entries)
      let name ← Decode.orDefault none (fun v => (Decode.text v).map some)
        (Entries.find? "name" entries)
      let name ← required "name" name
      let count ← required "count" count
      return { name, count })
    (fun items =>
      match items with
      | [] => .error (.tooShort 0 (.fields "OperationCount" 2))
      | first :: rest => do
          let name ← Decode.text first
          match rest with
          | [] => throw (.tooShort 1 (.fields "OperationCount" 2))
          | second :: _ => do
              let count ← Decode.word64 second
              return { name, count })

def encode (row : OperationCount) : Json :=
  .obj [("count", .nat row.count.toNat), ("name", .str row.name)]

end OperationCount

structure OperationCounters where
  operations : Table UInt64
deriving DecidableEq, Inhabited

namespace OperationCounters

def decode : Json → Decoded OperationCounters :=
  Decode.record "OperationCounters" 1
    (fun entries => do
      return ⟨← Decode.orDefault .empty (Decode.table Decode.word64)
        (Entries.find? "operations" entries)⟩)
    (fun items => do
      return ⟨← Decode.orDefault .empty (Decode.table Decode.word64) items[0]?⟩)

def encode (counters : OperationCounters) : Json :=
  .obj [("operations",
    .obj (counters.operations.entries.map (fun entry => (entry.1, Json.nat entry.2.toNat))))]

/-- The rows in byte order of the names. -/
def rows (counters : OperationCounters) : List OperationCount :=
  counters.operations.entries.map (fun entry => ⟨entry.1, entry.2⟩)

end OperationCounters

end NfsWatch
