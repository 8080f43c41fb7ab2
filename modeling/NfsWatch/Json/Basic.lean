import NfsWatch.Table
import NfsWatch.Number.Binary64

/-!
# Json — values of the wire format

A number is an integer or a binary64 number, and the two kinds are never equal: `1` and `1.0`
are different values. The entries of an object are kept in increasing key order without
repetition (`Json.WellFormed`), which is what the reader produces; `Json.same` is equality of
the values denoted, in which the two floating-point zeros count as one.
-/

namespace NfsWatch

inductive Json where
  | null
  | bool (value : Bool)
  /-- A number written without point and exponent that fits 64 bits, signed or unsigned. -/
  | int (value : Int)
  /-- Any other number. -/
  | float (value : Binary64)
  | str (value : String)
  | arr (items : List Json)
  /-- An object, its entries in key order. -/
  | obj (entries : List (String × Json))
deriving Inhabited

namespace Json

/-! ## Equality of the values denoted -/

mutual

/-- Whether two values denote the same: numbers of one kind by their value, all else literally. -/
def same : Json → Json → Bool
  | .null, .null => true
  | .bool a, .bool b => a == b
  | .int a, .int b => a == b
  | .float a, .float b => a.same b
  | .str a, .str b => a == b
  | .arr as, .arr bs => sameItems as bs
  | .obj as, .obj bs => sameEntries as bs
  | _, _ => false

def sameItems : List Json → List Json → Bool
  | [], [] => true
  | a :: as, b :: bs => same a b && sameItems as bs
  | _, _ => false

def sameEntries : List (String × Json) → List (String × Json) → Bool
  | [], [] => true
  | (j, a) :: as, (k, b) :: bs => j == k && same a b && sameEntries as bs
  | _, _ => false

end

/-! ## Well-formed values -/

mutual

/-- Every object in the value has strictly increasing keys. -/
def WellFormed : Json → Prop
  | .arr items => WellFormedItems items
  | .obj entries => Entries.Sorted entries ∧ WellFormedEntries entries
  | _ => True

def WellFormedItems : List Json → Prop
  | [] => True
  | item :: rest => WellFormed item ∧ WellFormedItems rest

def WellFormedEntries : List (String × Json) → Prop
  | [] => True
  | (_, value) :: rest => WellFormed value ∧ WellFormedEntries rest

end

/-! ## Building values -/

/-- The object with the given entries; of several with one key the last one stays. -/
def object (entries : List (String × Json)) : Json := .obj (Entries.ofList entries)

def ofTable (table : Table Json) : Json := .obj table.entries

def strings (texts : List String) : Json := .arr (texts.map .str)

def nat (n : Nat) : Json := .int n

def option {α : Type} (encode : α → Json) : Option α → Json
  | none => .null
  | some a => encode a

end Json

end NfsWatch
