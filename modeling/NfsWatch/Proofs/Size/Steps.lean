import NfsWatch.Proofs.Number.Binary64
import NfsWatch.Proofs.Size.Unit

/-!
# Sizes in binary64 arithmetic

A count is shown as if each step from the count to its digits were taken in binary64 arithmetic
(`ofCount_eq_inSteps`): the count is rounded to 53 digits, dividing by 1024 changes none of these,
the tenfold is rounded once more, and a tenth of that is near enough to its one decimal.
-/

namespace NfsWatch.Size

open Rounding Binary64

/-- Divides by 1024 while there is more than that and room for another unit. -/
def scaleDown (x : Binary64) : Nat → Nat → Binary64 × Nat
  | 0, unit => (x, unit)
  | room + 1, unit =>
      if (ofInt 1024).less x then
        scaleDown ((x.div? (ofInt 1024)).getD (zero false)) room (unit + 1)
      else (x, unit)

/-- The tenths in the text with one decimal. -/
def oneDecimal (x : Binary64) : Nat := roundHalfEven (10 * x.ratio.1) x.ratio.2

/-- A number of units as it is shown. -/
def inDigits (scaled : Binary64) (unit : Nat) : Size :=
  if scaled.less (ofInt 10) then
    let tenfold := (scaled.mul? (ofInt 10)).getD (zero false)
    .tenths (oneDecimal (((ofInt tenfold.round).div? (ofInt 10)).getD (zero false))) unit
  else .whole scaled.round unit

/-- A count as it is shown, each step taken in binary64 arithmetic. -/
def inSteps (count : Nat) : Size :=
  if count < 1024 then .plain count
  else
    let (scaled, unit) := scaleDown (((ofInt count).div? (ofInt 1024)).getD (zero false)) 5 1
    inDigits scaled unit

variable {x : Binary64} {n room unit count : Nat}

theorem ofInt_1024_is : (ofInt 1024).Is (2 ^ 10) 0 := ⟨by decide +kernel, by decide +kernel⟩

theorem ofInt_10_is : (ofInt 10).Is 10 0 := ⟨by decide +kernel, by decide +kernel⟩

theorem oneDecimal_tenth :
    ∀ n ≤ 100, oneDecimal (((ofInt (n : Nat)).div? (ofInt 10)).getD (zero false)) = n := by
  decide +kernel

/-- The divisions climb the same units and change no digit. -/
theorem scaleDown_is (hx : x.Is n (10 * unit)) (hn : n ≠ 0) (hkept : toSignificantBits 53 n = n)
    (hlarge : n.log2 ≤ 1000) (hroom : unit + room ≤ 6) :
    ∃ y, scaleDown x room unit = (y, climb n room unit) ∧ y.Is n (10 * climb n room unit) := by
  induction room generalizing x unit with
  | zero => exact ⟨x, rfl, hx⟩
  | succ room ih =>
      have hless : (ofInt 1024).less x = true ↔ scale (unit + 1) < n := by
        rw [less_iff ofInt_1024_is hx, scale_eq, ← Nat.pow_add, Nat.pow_zero, Nat.mul_one,
          show 10 + 10 * unit = 10 * (unit + 1) by ring]
      rw [scaleDown, climb]
      by_cases hmore : scale (unit + 1) < n
      · rw [if_pos (hless.mpr hmore), if_pos hmore]
        obtain ⟨y, hsome, hy⟩ := div?_is hx ofInt_1024_is hn hkept hlarge (by omega)
        rw [hsome, Option.getD_some]
        exact ih hy (by omega)
      · rw [if_neg (mt hless.mp hmore), if_neg hmore]
        exact ⟨x, rfl, hx⟩

theorem inDigits_eq (hx : x.Is n (10 * unit)) (hlow : scale unit ≤ n) (hlimit : n < 2 ^ 65)
    (hunit : unit ≤ 6) : inDigits x unit = inUnit n unit := by
  have hn : n ≠ 0 := Nat.ne_of_gt (Nat.lt_of_lt_of_le (scale_pos unit) hlow)
  have hless : x.less (ofInt 10) = true ↔ n < 10 * scale unit := by
    rw [less_iff hx ofInt_10_is, Nat.pow_zero, Nat.mul_one, scale_eq]
  unfold inDigits inUnit
  by_cases hfew : n < 10 * scale unit
  · have hlog : (n * 10).log2 < 69 := (Nat.log2_lt (by omega)).mpr (by omega)
    obtain ⟨y, hsome, hy⟩ := mul?_is hx ofInt_10_is hn (by decide) (by omega) (by omega)
    have hround : y.round = tenthsIn unit n := by
      rw [round_eq hy, Nat.mul_comm n, Nat.add_zero, ← scale_eq]
      rfl
    rw [if_pos (hless.mpr hfew), if_pos hfew, hsome, Option.getD_some]
    dsimp only
    rw [hround, oneDecimal_tenth _ (tenthsIn_bounds hlow hfew).2]
  · rw [if_neg (mt hless.mp hfew), if_neg hfew, round_eq hx, ← scale_eq]
    rfl

/-- The steps come to what is shown. -/
theorem ofCount_eq_inSteps (hlimit : count < 2 ^ 64) : ofCount count = inSteps count := by
  rcases Nat.lt_or_ge count 1024 with hless | hmany
  · rw [ofCount, inSteps, if_pos hless, if_pos hless]
  · have hhigh : nearest count ≤ 16 * scale 6 := nearest_le hlimit
    rw [scale_eq] at hhigh
    have hlow := scale_unitOf_le hmany
    have hn : nearest count ≠ 0 := Nat.ne_of_gt (Nat.lt_of_lt_of_le (scale_pos _) hlow)
    have hlog : (nearest count).log2 < 65 := (Nat.log2_lt hn).mpr (by omega)
    have hkept : toSignificantBits 53 (nearest count) = nearest count :=
      toSignificantBits_again (by decide) count
    have hcount : (ofInt count).Is (nearest count) 0 := ofInt_is (by omega) hlimit
    obtain ⟨x, hsome, hx⟩ := div?_is hcount ofInt_1024_is hn hkept (by omega) (by omega)
    obtain ⟨y, hscaled, hy⟩ := @scaleDown_is x (nearest count) 5 1 hx hn hkept (by omega) (by omega)
    rw [ofCount_eq hmany, inSteps, if_neg (Nat.not_lt.mpr hmany), hsome, Option.getD_some, hscaled]
    exact (inDigits_eq hy hlow (by omega) (unitOf_bounds count).2).symm

end NfsWatch.Size
