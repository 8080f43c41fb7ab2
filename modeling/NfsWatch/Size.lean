import NfsWatch.Number.Rounding
import NfsWatch.Number.IntegerText

/-!
# Size — byte and file counts in units of 1024

Counts below 1024 are shown as they are. A larger one is taken to the binary64 number nearest to
it and scaled down by 1024 until it is at most 1024 or the units end; it is then shown with one
decimal below 10 and as a whole number from there on. Scaling by a power of two is exact, so the
only roundings are those of the count and of its tenfold to 53 binary digits, and the last one to
the digits shown.
-/

namespace NfsWatch

inductive Size
  | plain (count : Nat)
  /-- So many tenths of `1024 ^ unit`. -/
  | tenths (count unit : Nat)
  /-- So many times `1024 ^ unit`. -/
  | whole (count unit : Nat)
deriving DecidableEq, Repr

namespace Size

open Rounding

def suffixes : List Char := ['K', 'M', 'G', 'T', 'P', 'E']

def scale (unit : Nat) : Nat := Nat.pow 1024 unit

/-- The least unit from `unit` on in which `n` is at most 1024, climbing at most `room` units. -/
def climb (n : Nat) : Nat → Nat → Nat
  | 0, unit => unit
  | room + 1, unit => if scale (unit + 1) < n then climb n room (unit + 1) else unit

def ofCount (count : Nat) : Size :=
  if count < 1024 then .plain count
  else
    let nearest := toSignificantBits 53 count
    let unit := climb nearest 5 1
    if nearest < 10 * scale unit then
      .tenths (roundHalfUp (toSignificantBits 53 (10 * nearest)) (scale unit)) unit
    else .whole (roundHalfUp nearest (scale unit)) unit

def suffix (unit : Nat) : String := (suffixes[unit - 1]?).elim "" String.singleton

def text : Size → String
  | .plain count => IntegerText.write count
  | .tenths count unit =>
      IntegerText.write (count / 10) ++ "." ++ IntegerText.write (count % 10) ++ suffix unit
  | .whole count unit => IntegerText.write count ++ suffix unit

def humanize (count : UInt64) : String := (ofCount count.toNat).text

def humanizeOptional : Option UInt64 → String
  | none => "-"
  | some count => humanize count

end Size

end NfsWatch
