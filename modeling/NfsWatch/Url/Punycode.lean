/-!
# Punycode — host labels beyond ASCII

The bootstring encoding of a label: its ASCII characters, and after a hyphen the places of the
others, in increasing order of their code points, as numbers in a variable base. The bias adapts
to the distances so that neighbouring code points stay short. `decode?` reads an encoding back by
inserting the characters one by one.
-/

namespace NfsWatch.Url.Punycode

def digit (n : Nat) : Char := "abcdefghijklmnopqrstuvwxyz0123456789".toList.getD n 'a'

/-- The smallest value that a digit at a place must exceed to be followed by another. -/
def threshold (place bias : Nat) : Nat := min 26 (max 1 (place - bias))

/-- Divides a distance until it fits, counting the places that it leaves behind. -/
def shrink (delta places : Nat) : Nat × Nat :=
  if 455 < delta then shrink (delta / 35) (places + 36) else (delta, places)
termination_by delta
decreasing_by exact Nat.div_lt_self (by omega) (by omega)

def adapt (delta count : Nat) (first : Bool) : Nat :=
  let damped := if first then delta / 700 else delta / 2
  let (rest, places) := shrink (damped + damped / count) 0
  places + 36 * rest / (rest + 38)

/-! ## Writing -/

/-- A number in the variable base; `fuel` is at least its number of digits. -/
def number (bias : Nat) : Nat → Nat → Nat → List Char
  | 0, _, _ => []
  | fuel + 1, place, n =>
      let t := threshold place bias
      if n < t then [digit n]
      else digit (t + (n - t) % (36 - t)) :: number bias fuel (place + 36) ((n - t) / (36 - t))

structure Progress where
  /-- What is written so far, last character first. -/
  written : List Char
  /-- The distance since the last character written. -/
  delta : Nat
  bias : Nat
  count : Nat

/-- Passes over one character of the label while writing those with code point `n`. -/
def visit (ascii n : Nat) (progress : Progress) (c : Char) : Progress :=
  if c.toNat < n then { progress with delta := progress.delta + 1 }
  else if c.toNat = n then
    { written := (number progress.bias 40 36 progress.delta).reverse ++ progress.written
      delta := 0
      bias := adapt progress.delta (progress.count + 1) (progress.count == ascii)
      count := progress.count + 1 }
  else progress

def codePoints (label : List Char) : List Nat :=
  (((label.map Char.toNat).filter (0x80 ≤ ·)).mergeSort).eraseDups

def encode (label : List Char) : List Char :=
  let ascii := label.filter (fun c => c.toNat < 0x80)
  let start : Progress :=
    { written := if ascii.isEmpty then [] else '-' :: ascii.reverse
      delta := 0, bias := 72, count := ascii.length }
  let (progress, _) := (codePoints label).foldl
    (fun (progress, reached) n =>
      let ahead :=
        { progress with delta := progress.delta + (n - reached) * (progress.count + 1) }
      let done := label.foldl (visit ascii.length n) ahead
      ({ done with delta := done.delta + 1 }, n + 1))
    (start, 0x80)
  progress.written.reverse

/-! ## Reading -/

def digitValue? (c : Char) : Option Nat :=
  if 'a' ≤ c ∧ c ≤ 'z' then some (c.toNat - 'a'.toNat)
  else if '0' ≤ c ∧ c ≤ '9' then some (c.toNat - '0'.toNat + 26)
  else none

structure Reading where
  characters : List Char
  codePoint : Nat
  position : Nat
  bias : Nat
  place : Nat
  weight : Nat
  distance : Nat

/-- Inserts the character that lies at a distance from the one inserted last. The distance counts
the places of the text first, then code points. -/
def Reading.insert? (reading : Reading) (distance : Nat) : Option Reading :=
  let count := reading.characters.length + 1
  let reached := reading.position + distance
  let codePoint := reading.codePoint + reached / count
  if codePoint.isValidChar then
    some
      { characters := reading.characters.insertIdx (reached % count) (Char.ofNat codePoint)
        codePoint
        position := reached % count + 1
        bias := adapt distance count (reading.position == 0)
        place := 36, weight := 1, distance := 0 }
  else none

/-- Reads one digit; one below the threshold ends its number. -/
def Reading.step? (reading : Reading) (c : Char) : Option Reading := do
  let d ← digitValue? c
  let distance := reading.distance + d * reading.weight
  let t := threshold reading.place reading.bias
  if d < t then reading.insert? distance
  else
    return { reading with
      place := reading.place + 36, weight := reading.weight * (36 - t), distance }

/-- The ASCII characters before the last hyphen, and the digits after it. -/
def splitDigits (code : List Char) : List Char × List Char :=
  match code.reverse.dropWhile (· != '-') with
  | _ :: first :: rest =>
      ((first :: rest).reverse, (code.reverse.takeWhile (· != '-')).reverse)
  | _ => ([], code)

def decode? (code : List Char) : Option (List Char) := do
  let (ascii, digits) := splitDigits code
  if ascii.all (fun c => c.toNat < 0x80) then
    let reading ← digits.foldlM Reading.step?
      { characters := ascii, codePoint := 0x80, position := 0, bias := 72
        place := 36, weight := 1, distance := 0 }
    if reading.place = 36 then return reading.characters else none
  else none

end NfsWatch.Url.Punycode
