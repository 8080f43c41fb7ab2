import NfsWatch.Number.Rounding

/-!
# Binary64 — finite double-precision numbers

A `Binary64` is `± mantissa * 2 ^ exponent` in its one canonical form: the mantissa has
exactly 53 binary digits, or the exponent is the least one. Infinities and NaN are not values;
an operation whose result would overflow answers `none`. There are two zeros, which `same`
identifies although they are different values.

All arithmetic is exact arithmetic on naturals followed by one rounding, `ofRatio?`, to the
nearest value with ties to the even mantissa.
-/

namespace NfsWatch

/-- A finite binary64 number in canonical form. -/
structure Binary64 where
  /-- The sign; set for `-0.0` too. -/
  negative : Bool
  mantissa : Nat
  exponent : Int
  /-- At most 53 binary digits, so below `2 ^ 53`; a scale in range; and all 53 digits in use, so
  at least `2 ^ 52`, above the least scale. -/
  canonical : mantissa < 9007199254740992 ∧ -1074 ≤ exponent ∧ exponent ≤ 971 ∧
    (4503599627370496 ≤ mantissa ∨ exponent = -1074)
deriving DecidableEq

namespace Binary64

open Rounding

/-- The number `± mantissa * 2 ^ exponent`, provided that this form is canonical. -/
def ofParts? (negative : Bool) (mantissa : Nat) (exponent : Int) : Option Binary64 :=
  if h : mantissa < 9007199254740992 ∧ -1074 ≤ exponent ∧ exponent ≤ 971 ∧
      (4503599627370496 ≤ mantissa ∨ exponent = -1074) then
    some ⟨negative, mantissa, exponent, h⟩
  else none

def zero (negative : Bool) : Binary64 := ⟨negative, 0, -1074, by decide⟩

instance : Inhabited Binary64 := ⟨zero false⟩

def numerator (mantissa : Nat) (exponent : Int) : Nat := mantissa * Nat.pow 2 exponent.toNat

def denominator (exponent : Int) : Nat := Nat.pow 2 (-exponent).toNat

/-- The whole part of the binary logarithm of `num / den`, for positive `num` and `den`. -/
def floorLog2 (num den : Nat) : Int :=
  let guess : Int := num.log2 - den.log2
  if den * Nat.pow 2 guess.toNat ≤ num * Nat.pow 2 (-guess).toNat then guess else guess - 1

/-- The number nearest to `± num / den`, ties to the even mantissa; `none` when it overflows. -/
def ofRatio? (negative : Bool) (num den : Nat) : Option Binary64 :=
  if num = 0 then some (zero negative)
  else
    let exponent := max (-1074) (floorLog2 num den - 52)
    let mantissa := roundHalfEven (numerator num (-exponent)) (numerator den exponent)
    -- rounding may reach `2 ^ 53`, which is `2 ^ 52` one scale higher
    if mantissa = 9007199254740992 then ofParts? negative 4503599627370496 (exponent + 1)
    else ofParts? negative mantissa exponent

/-- The number nearest to an integer of at most 64 binary digits; farther integers, which never
fit the words that this is used for, give zero. -/
def ofInt (n : Int) : Binary64 :=
  (ofRatio? (n < 0) n.natAbs 1).getD (zero false)

def ratio (x : Binary64) : Nat × Nat :=
  (numerator x.mantissa x.exponent, denominator x.exponent)

def mul? (x y : Binary64) : Option Binary64 :=
  ofRatio? (x.negative != y.negative) (x.ratio.1 * y.ratio.1) (x.ratio.2 * y.ratio.2)

def div? (x y : Binary64) : Option Binary64 :=
  if y.mantissa = 0 then none
  else ofRatio? (x.negative != y.negative) (x.ratio.1 * y.ratio.2) (x.ratio.2 * y.ratio.1)

def neg (x : Binary64) : Binary64 := { x with negative := !x.negative }

/-- Equality of the numbers denoted: the two zeros count as one. -/
def same (x y : Binary64) : Bool :=
  x == y || (x.mantissa == 0 && y.mantissa == 0)

@[simp] theorem same_refl (x : Binary64) : x.same x = true := by simp [same]

end Binary64

end NfsWatch
