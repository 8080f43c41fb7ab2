import Mathlib.Tactic.Linarith
import Mathlib.Tactic.Ring
import Mathlib.Tactic.SplitIfs
import NfsWatch.Number.Rounding

/-!
# Roundings keep the order

Both roundings of quotients are monotone and fix whole quotients, so nothing is ever rounded past a
whole number. A number of so many significant digits is a multiple of the spacing of the numbers
around it, hence rounding to these digits fixes it (`toSignificantBits_digits`) and is monotone
too, over all spacings (`toSignificantBits_mono`); what it changes is relatively small
(`toSignificantBits_error`).
-/

namespace NfsWatch.Rounding

/-! ## Quotients -/

theorem roundHalfEven_bounds (num den : Nat) :
    num / den ≤ roundHalfEven num den ∧ roundHalfEven num den ≤ num / den + 1 := by
  unfold roundHalfEven
  simp only
  split_ifs <;> omega

theorem roundHalfEven_mono (den : Nat) {first second : Nat} (h : first ≤ second) :
    roundHalfEven first den ≤ roundHalfEven second den := by
  rcases Nat.lt_or_eq_of_le (Nat.div_le_div_right (c := den) h) with hlt | heq
  · -- a rounded quotient is at most the next whole number
    have hfirst := (roundHalfEven_bounds first den).2
    have hsecond := (roundHalfEven_bounds second den).1
    omega
  · have hdiv := Nat.div_add_mod first den
    have hdiv' := Nat.div_add_mod second den
    rw [heq] at hdiv
    have hmod : first % den ≤ second % den := by omega
    unfold roundHalfEven
    rw [heq]
    simp only
    split_ifs <;> omega

theorem roundHalfUp_mono (den : Nat) {first second : Nat} (h : first ≤ second) :
    roundHalfUp first den ≤ roundHalfUp second den :=
  Nat.div_le_div_right (by omega)

/-- A whole quotient is kept. -/
theorem roundHalfUp_mul (q : Nat) {den : Nat} (h : 0 < den) : roundHalfUp (q * den) den = q := by
  unfold roundHalfUp
  rw [show 2 * (q * den) + den = den + 2 * den * q by ring, Nat.add_mul_div_left _ _ (by omega),
    Nat.div_eq_of_lt (by omega), Nat.zero_add]

/-- The rounded value is within half a unit of the quotient. -/
theorem roundHalfUp_error (num : Nat) {den : Nat} (h : 0 < den) :
    2 * (roundHalfUp num den * den) ≤ 2 * num + den ∧
      2 * num ≤ 2 * (roundHalfUp num den * den) + den := by
  have hdiv := Nat.div_add_mod (2 * num + den) (2 * den)
  have hmod := Nat.mod_lt (2 * num + den) (show 0 < 2 * den by omega)
  have hquotient : 2 * den * ((2 * num + den) / (2 * den)) = 2 * (roundHalfUp num den * den) := by
    unfold roundHalfUp
    ring
  omega

/-! ## Significant digits -/

/-- How far apart the numbers of so many significant digits are around a number. -/
def spacing (bits n : Nat) : Nat := 2 ^ (n.log2 + 1 - bits)

variable {bits n : Nat}

theorem spacing_pos (bits n : Nat) : 0 < spacing bits n := Nat.two_pow_pos _

theorem toSignificantBits_eq (bits n : Nat) :
    toSignificantBits bits n = roundHalfEven n (spacing bits n) * spacing bits n := rfl

theorem toSignificantBits_of_dvd (h : spacing bits n ∣ n) :
    toSignificantBits bits n = n := by
  rw [toSignificantBits_eq]
  obtain ⟨q, hq⟩ := h
  have hkept := roundHalfEven_mul q (spacing_pos bits n)
  rw [Nat.mul_comm, ← hq] at hkept
  rw [hkept, Nat.mul_comm, ← hq]

/-- What has so many digits already is kept. -/
theorem toSignificantBits_digits {m : Nat} (h : m < 2 ^ bits) (e : Nat) :
    toSignificantBits bits (m * 2 ^ e) = m * 2 ^ e := by
  apply toSignificantBits_of_dvd
  rcases Nat.eq_zero_or_pos m with rfl | hpos
  · rw [Nat.zero_mul]
    exact Nat.dvd_zero _
  · have hpow := Nat.two_pow_pos e
    have hlog : (m * 2 ^ e).log2 < bits + e := by
      rw [Nat.log2_lt (Nat.mul_pos hpos hpow).ne', Nat.pow_add]
      exact Nat.mul_lt_mul_of_pos_right h hpow
    exact Nat.dvd_trans (Nat.pow_dvd_pow 2 (by omega)) (Nat.dvd_mul_left _ m)

/-- What is rounded does not pass a multiple of the spacing. -/
theorem toSignificantBits_le {bound : Nat} (h : n ≤ bound) (hdvd : spacing bits n ∣ bound) :
    toSignificantBits bits n ≤ bound := by
  obtain ⟨q, rfl⟩ := hdvd
  have hround := roundHalfEven_mono (spacing bits n) h
  rw [Nat.mul_comm, roundHalfEven_mul q (spacing_pos bits n)] at hround
  rw [toSignificantBits_eq, Nat.mul_comm]
  exact Nat.mul_le_mul_left _ hround

theorem le_toSignificantBits {bound : Nat} (h : bound ≤ n) (hdvd : spacing bits n ∣ bound) :
    bound ≤ toSignificantBits bits n := by
  obtain ⟨q, rfl⟩ := hdvd
  have hround := roundHalfEven_mono (spacing bits n) h
  rw [Nat.mul_comm, roundHalfEven_mul q (spacing_pos bits n)] at hround
  rw [toSignificantBits_eq, Nat.mul_comm (roundHalfEven _ _)]
  exact Nat.mul_le_mul_left _ hround

theorem toSignificantBits_mono (hbits : 0 < bits) {first second : Nat}
    (h : first ≤ second) : toSignificantBits bits first ≤ toSignificantBits bits second := by
  rcases Nat.eq_zero_or_pos first with rfl | hpos
  · rw [toSignificantBits_of_dvd (Nat.dvd_zero _)]
    exact Nat.zero_le _
  · have hne : second ≠ 0 := by omega
    have hlog : first.log2 ≤ second.log2 := by
      rw [Nat.le_log2 hne]
      exact (Nat.log2_self_le hpos.ne').trans h
    rcases Nat.lt_or_eq_of_le hlog with hlt | heq
    · -- there is a power of two between them, which both spacings divide
      have hfirst : toSignificantBits bits first ≤ 2 ^ (first.log2 + 1) :=
        toSignificantBits_le Nat.lt_log2_self.le (Nat.pow_dvd_pow 2 (by omega))
      have hsecond : 2 ^ second.log2 ≤ toSignificantBits bits second :=
        le_toSignificantBits (Nat.log2_self_le hne) (Nat.pow_dvd_pow 2 (by omega))
      have hpowers : 2 ^ (first.log2 + 1) ≤ 2 ^ second.log2 :=
        Nat.pow_le_pow_right (by omega) hlt
      omega
    · have hspacing : spacing bits first = spacing bits second := by
        unfold spacing
        rw [heq]
      rw [toSignificantBits_eq, toSignificantBits_eq, hspacing]
      exact Nat.mul_le_mul_right _ (roundHalfEven_mono _ h)

theorem spacing_mul (h : ¬ spacing bits n ∣ n) : 2 ^ bits * spacing bits n = 2 ^ (n.log2 + 1) := by
  have hlong : bits ≤ n.log2 + 1 := by
    by_contra hshort
    have hone : spacing bits n = 1 := by
      unfold spacing
      rw [Nat.sub_eq_zero_of_le (by omega), Nat.pow_zero]
    exact h (hone ▸ Nat.one_dvd n)
  unfold spacing
  rw [← Nat.pow_add, Nat.add_sub_of_le hlong]

/-- What was rounded to so many digits has no more of them. -/
theorem toSignificantBits_again (hbits : 0 < bits) (n : Nat) :
    toSignificantBits bits (toSignificantBits bits n) = toSignificantBits bits n := by
  by_cases hdvd : spacing bits n ∣ n
  · rw [toSignificantBits_of_dvd hdvd, toSignificantBits_of_dvd hdvd]
  · have hle : n ≤ 2 ^ bits * spacing bits n := (spacing_mul hdvd).symm ▸ Nat.lt_log2_self.le
    have hround := roundHalfEven_mono (spacing bits n) hle
    rw [roundHalfEven_mul _ (spacing_pos bits n)] at hround
    rw [toSignificantBits_eq bits n]
    rcases Nat.lt_or_eq_of_le hround with hlt | hcarry
    · exact toSignificantBits_digits hlt _
    · have hone : 1 < 2 ^ bits := Nat.one_lt_two_pow hbits.ne'
      have hkept := toSignificantBits_digits hone (bits + (n.log2 + 1 - bits))
      rw [Nat.one_mul, Nat.pow_add] at hkept
      rw [hcarry]
      exact hkept

/-- Rounding to so many digits changes a number by at most its `2 ^ bits`th part. -/
theorem toSignificantBits_error (bits n : Nat) :
    2 ^ bits * toSignificantBits bits n ≤ 2 ^ bits * n + n ∧
      2 ^ bits * n ≤ 2 ^ bits * toSignificantBits bits n + n := by
  by_cases hdvd : spacing bits n ∣ n
  · rw [toSignificantBits_of_dvd hdvd]
    omega
  · have hne : n ≠ 0 := fun h => hdvd (h ▸ Nat.dvd_zero _)
    have hspacing : 2 ^ bits * spacing bits n ≤ 2 * n := by
      rw [spacing_mul hdvd, Nat.pow_succ, Nat.mul_comm]
      exact Nat.mul_le_mul_left 2 (Nat.log2_self_le hne)
    have hupper := two_mul_roundHalfEven_le n (spacing_pos bits n)
    have hlower := le_two_mul_roundHalfEven n (spacing_pos bits n)
    rw [Nat.mul_assoc, Nat.mul_comm (spacing bits n), ← toSignificantBits_eq] at hupper hlower
    have hupper' := Nat.mul_le_mul_left (2 ^ bits) hupper
    have hlower' := Nat.mul_le_mul_left (2 ^ bits) hlower
    constructor <;> linarith

end NfsWatch.Rounding
