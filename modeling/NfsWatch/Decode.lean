import NfsWatch.Json.Writer
import NfsWatch.Text.Quoted

/-!
# Decode — reading typed values out of the wire format

A decoder is a function from `Json` to a value or a `DecodeError`, the cause why the value does
not fit; `DecodeError.message` puts the cause into words. Records read their fields by name in
byte order of the names, so that of several faults the one under the least name is the one
reported; items of an array are read in order.
-/

namespace NfsWatch

inductive Wanted
  | text
  | boolean
  | sequence
  | mapping
  | nothing
  | unsigned (bits : Nat)
  | signed
  | float
  /-- An object, or an array of its fields, with the name of the record. -/
  | record (name : String)
  | variant
  | pair
  /-- An array of exactly so many items, with the name of the record. -/
  | fields (name : String) (count : Nat)
deriving DecidableEq, Repr

def Wanted.message : Wanted → String
  | .text => "a string"
  | .boolean => "a boolean"
  | .sequence => "a sequence"
  | .mapping => "a map"
  | .nothing => "unit"
  | .unsigned bits => s!"u{bits}"
  | .signed => "i64"
  | .float => "f64"
  | .record name => s!"struct {name}"
  | .variant => "string or map"
  | .pair => "a tuple of size 2"
  | .fields name count => s!"struct {name} with {count} elements"

inductive DecodeError
  | wrongType (found : Json) (wanted : Wanted)
  | outOfRange (found : Int) (wanted : Wanted)
  | missingField (name : String)
  | tooShort (length : Nat) (wanted : Wanted)
  | tooLong (length : Nat)
  | unknownVariant (found : String) (variants : List String)
  /-- The object that stands for a variant has not exactly one key. -/
  | notSingleKey
  /-- The value has neither form of a channel. -/
  | noChannelForm
  | channelWithoutPort (text : String)
  | channelPort (text : String) (fault : IntegerText.Fault)
  | notTextual
  | notId
deriving Inhabited

namespace DecodeError

/-- The kind of a value, with the value itself where that is short. -/
def foundMessage : Json → String
  | .null => "null"
  | .bool b => s!"boolean `{b}`"
  | .int n => "integer `" ++ Json.integerText n ++ "`"
  | .float x => "floating point `" ++ x.text ++ "`"
  | .str s => "string " ++ Text.quoted s
  | .arr _ => "sequence"
  | .obj _ => "map"

def variantsMessage (variants : List String) : String :=
  let ticked := variants.map (fun name => s!"`{name}`")
  match ticked with
  | [a, b] => s!"{a} or {b}"
  | _ => "one of " ++ ", ".intercalate ticked

def message : DecodeError → String
  | .wrongType found wanted =>
      "invalid type: " ++ foundMessage found ++ ", expected " ++ wanted.message
  | .outOfRange found wanted =>
      "invalid value: integer `" ++ Json.integerText found ++ "`, expected " ++ wanted.message
  | .missingField name => s!"missing field `{name}`"
  | .tooShort length wanted => s!"invalid length {length}, expected " ++ wanted.message
  | .tooLong length => s!"invalid length {length}, expected fewer elements in array"
  | .unknownVariant found variants =>
      s!"unknown variant `{found}`, expected " ++ variantsMessage variants
  | .notSingleKey => "invalid value: map, expected map with a single key"
  | .noChannelForm => "data did not match any variant of untagged enum RawChannel"
  | .channelWithoutPort text => s!"expected host:port, got '{text}'"
  | .channelPort text fault => s!"invalid port in '{text}': " ++ fault.message
  | .notTextual => "expected string or number"
  | .notId => "expected string or number for id"

end DecodeError

abbrev Decoded (α : Type) := Except DecodeError α

namespace Decode

/-! ## Single values -/

def boolean : Json → Decoded Bool
  | .bool b => .ok b
  | v => .error (.wrongType v .boolean)

def text : Json → Decoded String
  | .str s => .ok s
  | v => .error (.wrongType v .text)

def unsigned (bits : Nat) : Json → Decoded Nat
  | .int n =>
      if 0 ≤ n ∧ n.toNat < Nat.pow 2 bits then .ok n.toNat
      else .error (.outOfRange n (.unsigned bits))
  | v => .error (.wrongType v (.unsigned bits))

def word32 (v : Json) : Decoded UInt32 := (unsigned 32 v).map UInt32.ofNat

def word64 (v : Json) : Decoded UInt64 := (unsigned 64 v).map UInt64.ofNat

def signed : Json → Decoded Int
  | .int n =>
      if -9223372036854775808 ≤ n ∧ n ≤ 9223372036854775807 then .ok n
      else .error (.outOfRange n .signed)
  | v => .error (.wrongType v .signed)

/-- A floating-point number; an integer stands for the number nearest to it. -/
def float : Json → Decoded Binary64
  | .int n => .ok (Binary64.ofInt n)
  | .float x => .ok x
  | v => .error (.wrongType v .float)

/-- A text, or a number as the text that denotes it; anything else is refused with `error`. -/
def textual (error : DecodeError) : Json → Decoded String
  | .str s => .ok s
  | .int n => .ok (Json.integerText n)
  | .float x => .ok x.text
  | _ => .error error

/-! ## Compound values -/

def nullable {α : Type} (decode : Json → Decoded α) : Json → Decoded (Option α)
  | .null => .ok none
  | v => (decode v).map some

def list {α : Type} (decode : Json → Decoded α) : Json → Decoded (List α)
  | .arr items => items.mapM decode
  | v => .error (.wrongType v .sequence)

/-- An object of values of one type, read in key order. -/
def table {α : Type} (decode : Json → Decoded α) : Json → Decoded (Table α)
  | .obj entries => do
      let values ← entries.mapM (fun entry => (decode entry.2).map (entry.1, ·))
      return Table.ofList values
  | v => .error (.wrongType v .mapping)

def pair {α β : Type} (first : Json → Decoded α) (second : Json → Decoded β) :
    Json → Decoded (α × β)
  | .arr items => do
      let some a := items[0]? | throw (.tooShort 0 .pair)
      let a ← first a
      let some b := items[1]? | throw (.tooShort 1 .pair)
      let b ← second b
      if 2 < items.length then throw (.tooLong items.length)
      return (a, b)
  | v => .error (.wrongType v .pair)

def orDefault {α : Type} (default : α) (decode : Json → Decoded α) : Option Json → Decoded α
  | none => .ok default
  | some v => decode v

/-- A record that comes as an object or as the array of its `count` fields in order of
declaration. -/
def record {α : Type} (name : String) (count : Nat)
    (ofEntries : List (String × Json) → Decoded α) (ofItems : List Json → Decoded α) :
    Json → Decoded α
  | .obj entries => ofEntries entries
  | .arr items => do
      let value ← ofItems items
      if count < items.length then throw (.tooLong items.length)
      return value
  | v => .error (.wrongType v (.record name))

/-- A variant by its name: the name as a text, or as the only key of an object whose value is
`null`. -/
def variant {α : Type} (variants : List (String × α)) : Json → Decoded α
  | .str name => named name
  | .obj [(name, value)] => do
      let a ← named name
      match value with
      | .null => return a
      | v => throw (.wrongType v .nothing)
  | .obj _ => .error .notSingleKey
  | v => .error (.wrongType v .variant)
where
  named (name : String) : Decoded α :=
    match Entries.find? name variants with
    | some a => .ok a
    | none => .error (.unknownVariant name (variants.map Prod.fst))

end Decode

end NfsWatch
