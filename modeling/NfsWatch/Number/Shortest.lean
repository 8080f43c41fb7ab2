import NfsWatch.Number.Binary64

/-!
# Shortest — the fewest decimal digits that read back

A positive `Binary64` is the nearest number to every point of an interval around it. Of the
decimal grids `10 ^ e`, coarsest first, `Shortest.decimal` takes the first one with a point in
that interval, which is the one with the fewest digits; of two such points it takes the nearer,
and an exact tie goes to the even digit.

`Binary64.text` lays the digits out: positionally while the leading digit stands for a power of
ten between `-5` and `15`, with an exponent that carries its sign otherwise, and with `.0` after
an integral value.
-/

namespace NfsWatch

/-- A decimal `digits * 10 ^ exponent`. -/
structure Decimal where
  digits : Nat
  exponent : Int
deriving DecidableEq, Inhabited

namespace Shortest

/-- The reals that round to one number, as naturals over a common denominator. -/
structure Interval where
  low : Nat
  value : Nat
  high : Nat
  /-- Whether the ends round to the number as well. -/
  closed : Bool
  den : Nat

/-- The interval of a positive number: half a step to each side, where the step below a power of
two is half as wide. The ends belong to it when the mantissa is even. -/
def interval (x : Binary64) : Interval :=
  let scale := Nat.pow 2 x.exponent.toNat
  -- `2 ^ 52` is the mantissa of a power of two
  let below := if x.mantissa = 4503599627370496 ∧ -1074 < x.exponent then 1 else 2
  { low := (4 * x.mantissa - below) * scale
    value := 4 * x.mantissa * scale
    high := (4 * x.mantissa + 2) * scale
    closed := x.mantissa % 2 == 0
    den := 4 * Nat.pow 2 (-x.exponent).toNat }

def Interval.contains (i : Interval) (num den : Nat) : Bool :=
  if i.closed then i.low * den ≤ num * i.den && num * i.den ≤ i.high * den
  else i.low * den < num * i.den && num * i.den < i.high * den

def gridPoint (n : Nat) (exponent : Int) : Nat × Nat :=
  (n * Nat.pow 10 exponent.toNat, Nat.pow 10 (-exponent).toNat)

/-- The point of the grid `10 ^ exponent` that stands for the number: of the two neighbours of the
value, one that lies in the interval; of two such, the nearer, and the even one of a tie. -/
def onGrid (i : Interval) (exponent : Int) : Option Decimal :=
  let (unit, unitDen) := gridPoint 1 exponent
  let num := i.value * unitDen
  let den := i.den * unit
  let floor := num / den
  let reads := fun n => decide (0 < n) &&
    i.contains (gridPoint n exponent).1 (gridPoint n exponent).2
  let nearest := Rounding.roundHalfEven num den
  let other := if nearest = floor then floor + 1 else floor
  if reads nearest then some ⟨nearest, exponent⟩
  else if reads other then some ⟨other, exponent⟩
  else none

/-- A power of ten above the value: no coarser grid has a point in the interval. -/
def ceilingExponent (i : Interval) : Int :=
  if i.den ≤ i.value then ((Nat.toDigits 10 (i.value / i.den)).length : Int)
  else 2 - ((Nat.toDigits 10 (i.den / i.value)).length : Int)

/-- The shortest decimal for a number; `0` for a zero. Seventeen digits always suffice, and the
search starts at most two grids above the leading digit. -/
def decimal (x : Binary64) : Decimal :=
  if x.mantissa = 0 then ⟨0, 0⟩
  else
    let i := interval x
    let top := ceilingExponent i
    ((List.range 21).findSome? (fun step => onGrid i (top - (step : Nat)))).getD ⟨0, 0⟩

end Shortest

namespace Decimal

def digitChars (d : Decimal) : List Char := Nat.toDigits 10 d.digits

def leadingExponent (d : Decimal) : Int := d.exponent + d.digitChars.length - 1

/-- Positional layout, with at least one digit on each side of the point. -/
def positional (d : Decimal) : List Char :=
  let digits := d.digitChars
  if 0 ≤ d.exponent then
    digits ++ List.replicate d.exponent.toNat '0' ++ ['.', '0']
  else
    let places := (-d.exponent).toNat
    let padded := List.replicate (places + 1 - digits.length) '0' ++ digits
    padded.take (padded.length - places) ++ '.' :: padded.drop (padded.length - places)

/-- Layout with an exponent: one digit before the point, none after it if there is only one, and
the sign of the exponent always written. -/
def scientific (d : Decimal) : List Char :=
  let exponent := d.leadingExponent
  let sign := if 0 ≤ exponent then '+' else '-'
  let fraction := match d.digitChars with
    | [] => []
    | [first] => [first]
    | first :: rest => first :: '.' :: rest
  fraction ++ 'e' :: sign :: Nat.toDigits 10 exponent.natAbs

def isPositional (d : Decimal) : Bool :=
  d.digits = 0 || (-5 ≤ d.leadingExponent && d.leadingExponent ≤ 15)

def chars (d : Decimal) : List Char :=
  if d.isPositional then d.positional else d.scientific

end Decimal

def Binary64.text (x : Binary64) : String :=
  let chars := (Shortest.decimal x).chars
  String.ofList (if x.negative then '-' :: chars else chars)

end NfsWatch
