import Mathlib.Algebra.Order.Ring.Abs
import Mathlib.Data.Rat.Cast.Order
import Mathlib.Tactic.GCongr
import Mathlib.Tactic.NormNum
import NfsWatch.Proofs.Number.Rounding
import NfsWatch.Size

/-!
# The unit of a size

A unit is entered with more than 1024 of the one below and left with at most 1024 of it, and no
rounding passes a whole number of units. So what is shown lies between one unit and 1024 of them,
and of two counts the larger never denotes the smaller number (`value_mono`), whether it is shown in
the same unit or in another. All roundings together change little more than half of the last digit
(`tenths_error`, `whole_error`).
-/

namespace NfsWatch.Size

open Rounding

/-! ## The unit -/

theorem scale_pos (unit : Nat) : 0 < scale unit := Nat.pow_pos (by omega)

theorem scale_succ (unit : Nat) : scale (unit + 1) = 1024 * scale unit := by
  unfold scale
  rw [Nat.pow_eq, Nat.pow_eq, Nat.pow_succ, Nat.mul_comm]

theorem scale_mono {first second : Nat} (h : first ≤ second) : scale first ≤ scale second :=
  Nat.pow_le_pow_right (by omega) h

/-- A unit is a power of two. -/
theorem scale_eq (unit : Nat) : scale unit = 2 ^ (10 * unit) := by
  rw [Nat.pow_mul]
  rfl

variable {n room unit : Nat}

theorem le_climb (n room unit : Nat) : unit ≤ climb n room unit := by
  induction room generalizing unit with
  | zero => exact Nat.le_refl unit
  | succ room ih =>
      rw [climb]
      split
      · exact (Nat.le_succ unit).trans (ih (unit + 1))
      · exact Nat.le_refl unit

theorem climb_le (n room unit : Nat) : climb n room unit ≤ unit + room := by
  induction room generalizing unit with
  | zero => exact Nat.le_refl unit
  | succ room ih =>
      rw [climb]
      split
      · exact (ih (unit + 1)).trans (by omega)
      · omega

/-- A unit is entered only with more than 1024 of the one below. -/
theorem scale_climb_le (h : scale unit ≤ n) : scale (climb n room unit) ≤ n := by
  induction room generalizing unit with
  | zero => exact h
  | succ room ih =>
      rw [climb]
      split
      next hmore => exact ih hmore.le
      next => exact h

/-- A unit is left as long as there are more than 1024 of it. -/
theorem le_scale_climb (h : n ≤ scale (unit + room + 1)) : n ≤ scale (climb n room unit + 1) := by
  induction room generalizing unit with
  | zero => exact h
  | succ room ih =>
      rw [climb]
      split
      next => exact ih (h.trans_eq (congrArg scale (by omega)))
      next hmost => exact Nat.le_of_not_lt hmost

theorem climb_mono {first second : Nat} (h : first ≤ second) (room unit : Nat) :
    climb first room unit ≤ climb second room unit := by
  induction room generalizing unit with
  | zero => exact Nat.le_refl unit
  | succ room ih =>
      rw [climb, climb]
      by_cases hfirst : scale (unit + 1) < first
      · rw [if_pos hfirst, if_pos (Nat.lt_of_lt_of_le hfirst h)]
        exact ih (unit + 1)
      · rw [if_neg hfirst]
        split
        · exact (Nat.le_succ unit).trans (le_climb ..)
        · exact Nat.le_refl unit

/-! ## The digits -/

/-- The number that a size denotes. -/
def value : Size → ℚ
  | .plain count => count
  | .tenths count unit => count / 10 * 1024 ^ unit
  | .whole count unit => count * 1024 ^ unit

/-- The tenths of a unit nearest to `n`; the tenfold has 53 digits too. -/
def tenthsIn (unit n : Nat) : Nat := roundHalfUp (toSignificantBits 53 (10 * n)) (scale unit)

/-- The whole units nearest to `n`. -/
def wholeIn (unit n : Nat) : Nat := roundHalfUp n (scale unit)

/-- How `n` is shown in a unit. -/
def inUnit (n unit : Nat) : Size :=
  if n < 10 * scale unit then .tenths (tenthsIn unit n) unit else .whole (wholeIn unit n) unit

/-- Rounding to 53 digits does not pass a few units. -/
theorem le_rounded {few : Nat} (hfew : few < 2 ^ 53) (h : few * scale unit ≤ n) :
    few * scale unit ≤ toSignificantBits 53 n := by
  have hkept := toSignificantBits_digits hfew (10 * unit)
  rw [← scale_eq] at hkept
  exact hkept.symm.trans_le (toSignificantBits_mono (by omega) h)

theorem rounded_le {few : Nat} (hfew : few < 2 ^ 53) (h : n ≤ few * scale unit) :
    toSignificantBits 53 n ≤ few * scale unit := by
  have hkept := toSignificantBits_digits hfew (10 * unit)
  rw [← scale_eq] at hkept
  exact (toSignificantBits_mono (by omega) h).trans_eq hkept

/-- Nor does rounding to whole units. -/
theorem roundHalfUp_between {low high : Nat} (hlow : low * scale unit ≤ n)
    (hhigh : n ≤ high * scale unit) :
    low ≤ roundHalfUp n (scale unit) ∧ roundHalfUp n (scale unit) ≤ high := by
  have hmono := roundHalfUp_mono (scale unit) hlow
  have hmono' := roundHalfUp_mono (scale unit) hhigh
  rw [roundHalfUp_mul _ (scale_pos unit)] at hmono hmono'
  exact ⟨hmono, hmono'⟩

theorem tenthsIn_bounds (hlow : scale unit ≤ n) (hfew : n < 10 * scale unit) :
    10 ≤ tenthsIn unit n ∧ tenthsIn unit n ≤ 100 := by
  apply roundHalfUp_between
  · exact le_rounded (by omega) (by omega)
  · exact rounded_le (by omega) (by omega)

theorem wholeIn_bounds (hmany : 10 * scale unit ≤ n) (hhigh : n ≤ scale (unit + 1)) :
    10 ≤ wholeIn unit n ∧ wholeIn unit n ≤ 1024 :=
  roundHalfUp_between hmany (hhigh.trans_eq (scale_succ unit))

theorem tenthsIn_mono {first second : Nat} (h : first ≤ second) :
    tenthsIn unit first ≤ tenthsIn unit second := by
  have htenfold : 10 * first ≤ 10 * second := Nat.mul_le_mul_left 10 h
  exact roundHalfUp_mono _ (toSignificantBits_mono (by omega) htenfold)

theorem cast_scale (unit : Nat) : (scale unit : ℚ) = 1024 ^ unit := by
  unfold scale
  rw [Nat.pow_eq]
  push_cast
  rfl

/-- The number shown is at least one unit and at most 1024 of them. -/
theorem value_inUnit_bounds (hlow : scale unit ≤ n) (hhigh : n ≤ scale (unit + 1)) :
    (scale unit : ℚ) ≤ (inUnit n unit).value ∧ (inUnit n unit).value ≤ scale (unit + 1) := by
  have hpos : (0 : ℚ) < 1024 ^ unit := by positivity
  rw [scale_succ, Nat.cast_mul, cast_scale]
  unfold inUnit
  split
  next hfew =>
    obtain ⟨hten, hhundred⟩ := tenthsIn_bounds hlow hfew
    have hten' : (10 : ℚ) ≤ tenthsIn unit n := by exact_mod_cast hten
    have hhundred' : (tenthsIn unit n : ℚ) ≤ 100 := by exact_mod_cast hhundred
    simp only [value]
    constructor
    · nlinarith
    · push_cast
      nlinarith
  next hmany =>
    obtain ⟨hten, hall⟩ := wholeIn_bounds (Nat.le_of_not_lt hmany) hhigh
    have hten' : (10 : ℚ) ≤ wholeIn unit n := by exact_mod_cast hten
    have hall' : (wholeIn unit n : ℚ) ≤ 1024 := by exact_mod_cast hall
    simp only [value]
    constructor
    · nlinarith
    · push_cast
      nlinarith

/-- In one unit the order is kept, also where tenths are no longer shown. -/
theorem value_inUnit_mono {first second : Nat} (hlow : scale unit ≤ first) (h : first ≤ second)
    (hhigh : second ≤ scale (unit + 1)) :
    (inUnit first unit).value ≤ (inUnit second unit).value := by
  have hpos : (0 : ℚ) < 1024 ^ unit := by positivity
  unfold inUnit
  by_cases hsecond : second < 10 * scale unit
  · have hmono : (tenthsIn unit first : ℚ) ≤ tenthsIn unit second := by
      exact_mod_cast tenthsIn_mono h
    rw [if_pos hsecond, if_pos (Nat.lt_of_le_of_lt h hsecond)]
    simp only [value]
    gcongr
  · rw [if_neg hsecond]
    by_cases hfirst : first < 10 * scale unit
    · -- at most 10.0 comes before at least 10
      have hhundred : (tenthsIn unit first : ℚ) ≤ 100 := by
        exact_mod_cast (tenthsIn_bounds hlow hfirst).2
      have hten : (10 : ℚ) ≤ wholeIn unit second := by
        exact_mod_cast (wholeIn_bounds (Nat.le_of_not_lt hsecond) hhigh).1
      rw [if_pos hfirst]
      simp only [value]
      gcongr
      linarith
    · have hmono : (wholeIn unit first : ℚ) ≤ wholeIn unit second := by
        exact_mod_cast roundHalfUp_mono (scale unit) h
      rw [if_neg hfirst]
      simp only [value]
      gcongr

/-! ## A count -/

/-- The number of 53 binary digits that is nearest to a count. -/
def nearest (count : Nat) : Nat := toSignificantBits 53 count

/-- The unit in which a count is shown. -/
def unitOf (count : Nat) : Nat := climb (nearest count) 5 1

variable {count : Nat}

theorem ofCount_eq (h : 1024 ≤ count) : ofCount count = inUnit (nearest count) (unitOf count) := by
  unfold ofCount
  rw [if_neg (Nat.not_lt.mpr h)]
  rfl

theorem unitOf_bounds (count : Nat) : 1 ≤ unitOf count ∧ unitOf count ≤ 6 :=
  ⟨le_climb .., climb_le ..⟩

theorem scale_unitOf_le (h : 1024 ≤ count) : scale (unitOf count) ≤ nearest count :=
  scale_climb_le (@le_rounded count 1 1 (by omega) h)

theorem nearest_le (h : count < 2 ^ 64) : nearest count ≤ 16 * scale 6 := by
  apply rounded_le (by omega)
  rw [scale_eq]
  omega

theorem le_scale_unitOf (h : count < 2 ^ 64) : nearest count ≤ scale (unitOf count + 1) := by
  apply le_scale_climb
  calc nearest count ≤ 16 * scale 6 := nearest_le h
    _ ≤ 1024 * scale 6 := Nat.mul_le_mul_right _ (by omega)
    _ = scale 7 := (scale_succ 6).symm

/-- Rounding to 53 digits changes little. -/
theorem rounded_error (n : Nat) :
    (2 ^ 53 * toSignificantBits 53 n : ℚ) ≤ 2 ^ 53 * n + n ∧
      (2 ^ 53 * n : ℚ) ≤ 2 ^ 53 * toSignificantBits 53 n + n := by
  obtain ⟨hupper, hlower⟩ := toSignificantBits_error 53 n
  exact ⟨by exact_mod_cast hupper, by exact_mod_cast hlower⟩

theorem nearest_error (count : Nat) :
    (2 ^ 53 * nearest count : ℚ) ≤ 2 ^ 53 * count + count ∧
      (2 ^ 53 * count : ℚ) ≤ 2 ^ 53 * nearest count + count :=
  rounded_error count

/-- Rounding to whole units changes half a unit at most. -/
theorem wholeIn_error (unit n : Nat) :
    2 * (wholeIn unit n * 1024 ^ unit : ℚ) ≤ 2 * n + 1024 ^ unit ∧
      (2 * n : ℚ) ≤ 2 * (wholeIn unit n * 1024 ^ unit) + 1024 ^ unit := by
  obtain ⟨hupper, hlower⟩ := roundHalfUp_error n (scale_pos unit)
  rw [← cast_scale]
  exact ⟨by exact_mod_cast hupper, by exact_mod_cast hlower⟩

theorem tenths_error (hfew : nearest count < 10 * scale unit) :
    |(tenthsIn unit (nearest count) : ℚ) / 10 * 1024 ^ unit - count| ≤ 0.051 * 1024 ^ unit := by
  obtain ⟨hupper, hlower⟩ := nearest_error count
  obtain ⟨hupper', hlower'⟩ := rounded_error (10 * nearest count)
  obtain ⟨hshown, hshown'⟩ := wholeIn_error unit (toSignificantBits 53 (10 * nearest count))
  have hfew' : (nearest count : ℚ) < 10 * 1024 ^ unit := by
    rw [← cast_scale]
    exact_mod_cast hfew
  have htenths : wholeIn unit (toSignificantBits 53 (10 * nearest count)) =
      tenthsIn unit (nearest count) := rfl
  rw [htenths] at hshown hshown'
  push_cast at hupper' hlower'
  rw [abs_le]
  constructor <;> linarith

theorem whole_error (hhigh : nearest count ≤ scale (unit + 1)) :
    |(wholeIn unit (nearest count) : ℚ) * 1024 ^ unit - count| ≤ 0.501 * 1024 ^ unit := by
  obtain ⟨hupper, hlower⟩ := nearest_error count
  obtain ⟨hshown, hshown'⟩ := wholeIn_error unit (nearest count)
  have hhigh' : (nearest count : ℚ) ≤ 1024 * 1024 ^ unit := by
    rw [scale_succ] at hhigh
    rw [← cast_scale]
    exact_mod_cast hhigh
  rw [abs_le]
  constructor <;> linarith

theorem value_mono {more : Nat} (h : count ≤ more) (hmore : more < 2 ^ 64) :
    (ofCount count).value ≤ (ofCount more).value := by
  have hnearest : nearest count ≤ nearest more := toSignificantBits_mono (by omega) h
  rcases Nat.lt_or_ge more 1024 with hless | hmany
  · rw [ofCount, ofCount, if_pos hless, if_pos (Nat.lt_of_le_of_lt h hless)]
    simp only [value]
    exact_mod_cast h
  · obtain ⟨hlow, hhigh⟩ := value_inUnit_bounds (scale_unitOf_le hmany) (le_scale_unitOf hmore)
    rw [ofCount_eq hmany]
    rcases Nat.lt_or_ge count 1024 with hless' | hmany'
    · -- what is shown with a letter is at least the first unit
      have hkilo : scale 1 ≤ scale (unitOf more) := scale_mono (unitOf_bounds more).1
      rw [ofCount, if_pos hless']
      calc (count : ℚ) ≤ scale 1 := by exact_mod_cast hless'.le
        _ ≤ scale (unitOf more) := by exact_mod_cast hkilo
        _ ≤ _ := hlow
    · rw [ofCount_eq hmany']
      rcases Nat.lt_or_eq_of_le (climb_mono hnearest 5 1) with hlt | heq
      · -- at most 1024 of one unit is at most one of the next
        have hcount := le_scale_unitOf (h.trans_lt hmore)
        calc (inUnit (nearest count) (unitOf count)).value
            ≤ scale (unitOf count + 1) := (value_inUnit_bounds (scale_unitOf_le hmany') hcount).2
          _ ≤ scale (unitOf more) := by exact_mod_cast scale_mono hlt
          _ ≤ _ := hlow
      · have hsame : unitOf count = unitOf more := heq
        have hfirst := scale_unitOf_le hmany'
        rw [hsame] at hfirst ⊢
        exact value_inUnit_mono hfirst hnearest (le_scale_unitOf hmore)

end NfsWatch.Size
