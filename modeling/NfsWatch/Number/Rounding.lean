/-!
# Rounding — quotients to the nearest whole number

`roundHalfEven` takes a quotient of naturals to the nearest natural and sends a tie to the
even neighbour; `roundHalfUp` sends a tie upwards. `toSignificantBits` keeps so many leading
bits of a natural, which is what storing it in a binary floating-point number does to it.
Main statements: both roundings stay within half a unit of the quotient.
-/

namespace NfsWatch.Rounding

/-- The natural nearest to `num / den`; a tie goes to the even neighbour. -/
def roundHalfEven (num den : Nat) : Nat :=
  let quotient := num / den
  let twice := 2 * (num % den)
  if twice < den then quotient
  else if den < twice then quotient + 1
  else quotient + quotient % 2

/-- The natural nearest to `num / den`; a tie goes up. -/
def roundHalfUp (num den : Nat) : Nat :=
  (2 * num + den) / (2 * den)

/-- The multiple of `2 ^ (log2 n + 1 - bits)` nearest to `n`, a tie to the even multiple: `n` itself
while it has at most `bits` binary digits. -/
def toSignificantBits (bits n : Nat) : Nat :=
  let unit := Nat.pow 2 (n.log2 + 1 - bits)
  roundHalfEven n unit * unit

/-- The rounded value is at most half a unit above the quotient. -/
theorem two_mul_roundHalfEven_le (num : Nat) {den : Nat} (h : 0 < den) :
    2 * den * roundHalfEven num den ≤ 2 * num + den := by
  have hdiv := Nat.div_add_mod num den
  have hmod := Nat.mod_lt num h
  unfold roundHalfEven
  generalize num / den = q at *
  generalize num % den = r at *
  subst hdiv
  have hexp : 2 * (den * q + r) = 2 * den * q + 2 * r := by
    rw [Nat.mul_add, Nat.mul_assoc]
  rw [hexp]
  simp only
  split
  · omega
  · split
    · rw [Nat.mul_add]
      omega
    · rw [Nat.mul_add]
      rcases Nat.mod_two_eq_zero_or_one q with hq | hq <;> rw [hq] <;> omega

/-- The rounded value is at most half a unit below the quotient. -/
theorem le_two_mul_roundHalfEven (num : Nat) {den : Nat} (h : 0 < den) :
    2 * num ≤ 2 * den * roundHalfEven num den + den := by
  have hdiv := Nat.div_add_mod num den
  have hmod := Nat.mod_lt num h
  unfold roundHalfEven
  generalize num / den = q at *
  generalize num % den = r at *
  subst hdiv
  have hexp : 2 * (den * q + r) = 2 * den * q + 2 * r := by
    rw [Nat.mul_add, Nat.mul_assoc]
  rw [hexp]
  simp only
  split
  · omega
  · split
    · rw [Nat.mul_add]
      omega
    · rw [Nat.mul_add]
      rcases Nat.mod_two_eq_zero_or_one q with hq | hq <;> rw [hq] <;> omega

theorem roundHalfEven_mul (q : Nat) {den : Nat} (h : 0 < den) :
    roundHalfEven (q * den) den = q := by
  simp [roundHalfEven, Nat.mul_div_cancel _ h, h]

end NfsWatch.Rounding
