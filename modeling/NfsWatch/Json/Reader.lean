import NfsWatch.Json.Basic
import NfsWatch.Number.IntegerText

/-!
# Reading values from text

`Json.read?` accepts exactly one value with blanks around it. Of a key that an object repeats,
the last value stays. Arrays and objects may nest up to 127 levels.

Numbers follow three rules. A literal without point and exponent is an integer if it fits an
unsigned or a signed 64-bit word, and a binary64 number otherwise; so is `-0`. Of longer literals
only the leading digits that fit an unsigned 64-bit word count, the others are dropped and only
move the point. The number is then that significand times or divided by a power of ten, each
step rounded, so that a literal of more than 15 digits may be read as a neighbour of the nearest
number. A number too large for binary64 is refused.
-/

namespace NfsWatch.Json

def isSpace (c : Char) : Bool := c == ' ' || c == '\t' || c == '\n' || c == '\r'

def skip (cs : List Char) : List Char := cs.dropWhile isSpace

/-! ## Numbers -/

def largestSignificand : Nat := IntegerText.largest64

/-- Appends digits to a significand while it fits; the digits that do not fit are left over. -/
def absorb (significand : Nat) : List Char → Nat × List Char
  | [] => (significand, [])
  | c :: cs =>
      let next := 10 * significand + (c.toNat - '0'.toNat)
      if largestSignificand < next then (significand, c :: cs) else absorb next cs

/-- The number nearest to a power of ten; `none` above `10 ^ 308`. -/
def powerOfTen? (places : Nat) : Option Binary64 := Binary64.ofRatio? false (Nat.pow 10 places) 1

/-- `x` divided by `10 ^ 308` so many times, each quotient rounded; a zero stays as it is. -/
def divideWidest : Nat → Binary64 → Option Binary64
  | 0, x => some x
  | steps + 1, x =>
      if x.mantissa = 0 then some x
      else
        match (powerOfTen? 308).bind x.div? with
        | none => none
        | some y => divideWidest steps y

/-- `x / 10 ^ places`, in steps of at most 308 places. -/
def scaleDown (x : Binary64) (places : Nat) : Option Binary64 := do
  let steps := (places - 1) / 308
  let y ← divideWidest steps x
  if y.mantissa = 0 then return y
  (← powerOfTen? (places - 308 * steps)) |> y.div?

/-- `x * 10 ^ places`; `none` when it is too large. -/
def scaleUp (x : Binary64) (places : Nat) : Option Binary64 :=
  if x.mantissa = 0 then some x
  else if places ≤ 308 then (powerOfTen? places).bind x.mul?
  else none

def floatOf (negative : Bool) (significand : Nat) (exponent : Int) : Option Json := do
  let start := Binary64.ofInt significand
  let x ← if 0 ≤ exponent then scaleUp start exponent.toNat else scaleDown start exponent.natAbs
  return .float (if negative then x.neg else x)

/-- A literal without point and exponent whose digits all fit. -/
def integerOf (negative : Bool) (n : Nat) : Json :=
  if !negative then .int n
  -- a 64-bit word has no sign for zero and reaches down to `-2 ^ 63`
  else if n = 0 || 9223372036854775808 < n then .float (Binary64.ofInt n).neg
  else .int (-n)

def digitsValue (digits : List Char) : Nat :=
  digits.foldl (fun n c => 10 * n + (c.toNat - '0'.toNat)) 0

def readExponent (cs : List Char) : Option (Int × List Char) :=
  let (sign, cs) : Int × List Char := match cs with
    | '+' :: rest => (1, rest)
    | '-' :: rest => (-1, rest)
    | _ => (1, cs)
  match cs.takeWhile Char.isDigit with
  | [] => none
  | digits => some (sign * digitsValue digits, cs.dropWhile Char.isDigit)

def finishNumber (negative : Bool) (significand : Nat) (exponent : Int) (cs : List Char) :
    Option (Json × List Char) :=
  match cs with
  | 'e' :: rest | 'E' :: rest => do
      let (shift, rest) ← readExponent rest
      let x ← floatOf negative significand (exponent + shift)
      return (x, rest)
  | _ => (floatOf negative significand exponent).map (·, cs)

def readMagnitude (negative : Bool) (cs : List Char) : Option (Json × List Char) :=
  let digits := cs.takeWhile Char.isDigit
  let rest := cs.dropWhile Char.isDigit
  let leadingZero := match digits with
    | '0' :: _ :: _ => true
    | _ => false
  if digits.isEmpty || leadingZero then none
  else
    let (significand, dropped) := absorb 0 digits
    match rest with
    | '.' :: rest =>
        let places := rest.takeWhile Char.isDigit
        if places.isEmpty then none
        else
          let (significand, unread) := absorb significand places
          -- digits dropped before the point raise the exponent, places kept behind it lower it
          finishNumber negative significand
            (dropped.length - (places.length - unread.length : Nat))
            (rest.dropWhile Char.isDigit)
    | 'e' :: _ | 'E' :: _ => finishNumber negative significand dropped.length rest
    | _ =>
        if dropped.isEmpty then some (integerOf negative significand, rest)
        else finishNumber negative significand dropped.length rest

/-! ## Texts -/

def hexValue? (c : Char) : Option Nat :=
  if c.isDigit then some (c.toNat - '0'.toNat)
  else if 'a' ≤ c ∧ c ≤ 'f' then some (c.toNat - 'a'.toNat + 10)
  else if 'A' ≤ c ∧ c ≤ 'F' then some (c.toNat - 'A'.toNat + 10)
  else none

def readHex4 : List Char → Option (Nat × List Char)
  | a :: b :: c :: d :: rest => do
      let a ← hexValue? a
      let b ← hexValue? b
      let c ← hexValue? c
      let d ← hexValue? d
      return (((a * 16 + b) * 16 + c) * 16 + d, rest)
  | _ => none

/-- The character after `\u`: a unit that is no surrogate, or a pair of surrogates. -/
def readUnicode (cs : List Char) : Option (Char × List Char) := do
  let (unit, rest) ← readHex4 cs
  if 0xDC00 ≤ unit ∧ unit ≤ 0xDFFF then none
  else if 0xD800 ≤ unit ∧ unit ≤ 0xDBFF then
    match rest with
    | '\\' :: 'u' :: rest => do
        let (low, rest) ← readHex4 rest
        if 0xDC00 ≤ low ∧ low ≤ 0xDFFF then
          return (Char.ofNat (0x10000 + (unit - 0xD800) * 0x400 + (low - 0xDC00)), rest)
        else none
    | _ => none
  else return (Char.ofNat unit, rest)

def readEscape : List Char → Option (Char × List Char)
  | '"' :: rest => some ('"', rest)
  | '\\' :: rest => some ('\\', rest)
  | '/' :: rest => some ('/', rest)
  | 'b' :: rest => some ('\x08', rest)
  | 'f' :: rest => some ('\x0c', rest)
  | 'n' :: rest => some ('\n', rest)
  | 'r' :: rest => some ('\r', rest)
  | 't' :: rest => some ('\t', rest)
  | 'u' :: rest => readUnicode rest
  | _ => none

/-- The rest of a text after its opening quote; `fuel` bounds the number of characters. -/
def readChars (fuel : Nat) (done : List Char) (cs : List Char) : Option (String × List Char) :=
  match fuel with
  | 0 => none
  | fuel + 1 =>
      match cs with
      | [] => none
      | '"' :: rest => some (String.ofList done.reverse, rest)
      | '\\' :: rest =>
          match readEscape rest with
          | none => none
          | some (c, rest) => readChars fuel (c :: done) rest
      | c :: rest => if c.toNat < 0x20 then none else readChars fuel (c :: done) rest

def readText (cs : List Char) : Option (String × List Char) := readChars (cs.length + 1) [] cs

/-! ## Values -/

def expect (word : List Char) (cs : List Char) : Option (List Char) :=
  if word.isPrefixOf cs then some (cs.drop word.length) else none

mutual

/-- Reads a value at a text without leading blanks. `depth` is the number of levels still open to
it; `fuel` bounds the number of steps. -/
def readValue (fuel depth : Nat) (cs : List Char) : Option (Json × List Char) :=
  match fuel with
  | 0 => none
  | fuel + 1 =>
      match cs with
      | '"' :: rest => (readText rest).map fun (s, rest) => (.str s, rest)
      | '[' :: rest =>
          if depth ≤ 1 then none
          else
            match skip rest with
            | ']' :: rest => some (.arr [], rest)
            | rest => (readItems fuel (depth - 1) rest).map fun (items, rest) => (.arr items, rest)
      | '\x7b' :: rest =>
          if depth ≤ 1 then none
          else
            match skip rest with
            | '\x7d' :: rest => some (.obj [], rest)
            | rest => (readEntries fuel (depth - 1) rest).map
                fun (entries, rest) => (object entries, rest)
      | 'n' :: _ => (expect "null".toList cs).map (.null, ·)
      | 't' :: _ => (expect "true".toList cs).map (.bool true, ·)
      | 'f' :: _ => (expect "false".toList cs).map (.bool false, ·)
      | '-' :: rest => readMagnitude true rest
      | _ => readMagnitude false cs

def readItems (fuel depth : Nat) (cs : List Char) : Option (List Json × List Char) :=
  match fuel with
  | 0 => none
  | fuel + 1 =>
      match readValue fuel depth (skip cs) with
      | none => none
      | some (item, rest) =>
          match skip rest with
          | ',' :: rest =>
              (readItems fuel depth rest).map fun (items, rest) => (item :: items, rest)
          | ']' :: rest => some ([item], rest)
          | _ => none

def readEntries (fuel depth : Nat) (cs : List Char) : Option (List (String × Json) × List Char) :=
  match fuel with
  | 0 => none
  | fuel + 1 =>
      match skip cs with
      | '"' :: rest =>
          match readText rest with
          | none => none
          | some (key, rest) =>
              match skip rest with
              | ':' :: rest =>
                  match readValue fuel depth (skip rest) with
                  | none => none
                  | some (value, rest) =>
                      match skip rest with
                      | ',' :: rest => (readEntries fuel depth rest).map
                          fun (entries, rest) => ((key, value) :: entries, rest)
                      | '\x7d' :: rest => some ([(key, value)], rest)
                      | _ => none
              | _ => none
      | _ => none

end

def read? (text : String) : Option Json :=
  let cs := skip text.toList
  match readValue (2 * cs.length + 2) 128 cs with
  | none => none
  | some (value, rest) => if (skip rest).isEmpty then some value else none

end NfsWatch.Json
