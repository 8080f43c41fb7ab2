import Mathlib.Tactic.Ring
import NfsWatch.Number.Binary64
import NfsWatch.Proofs.Number.Rounding

/-!
# Binary64 arithmetic on fractions of powers of two

A number of medium size is a fraction `n / 2 ^ s` (`Is`). Rounding such a fraction keeps 53 of the
binary digits of `n`, wherever they stand (`ofRatio?_is`), so arithmetic on these numbers is
arithmetic on naturals with one `toSignificantBits` for each operation, and none for a division by a
power of two.
-/

namespace NfsWatch.Binary64

open Rounding

/-- The number is `n / 2 ^ s`, and not `-0.0`. -/
structure Is (x : Binary64) (n s : Nat) : Prop where
  positive : x.negative = false
  ratio : x.ratio.1 * 2 ^ s = n * x.ratio.2

/-! ## The place of the first digit -/

theorem log2_mul_two_pow {n : Nat} (hn : n ≠ 0) (k : Nat) : (n * 2 ^ k).log2 = n.log2 + k := by
  have hpow := Nat.two_pow_pos k
  rw [Nat.log2_eq_iff (Nat.mul_pos (Nat.pos_of_ne_zero hn) hpow).ne', Nat.add_right_comm,
    Nat.pow_add, Nat.pow_add _ _ k]
  exact ⟨Nat.mul_le_mul_right _ (Nat.log2_self_le hn),
    Nat.mul_lt_mul_of_pos_right Nat.lt_log2_self hpow⟩

/-- The first digit of a product stands where those of the factors say, or one place before. -/
theorem log2_mul_bounds {m n : Nat} (hm : m ≠ 0) (hn : n ≠ 0) :
    m.log2 + n.log2 ≤ (m * n).log2 ∧ (m * n).log2 < m.log2 + 1 + (n.log2 + 1) := by
  constructor
  · rw [Nat.le_log2 (Nat.mul_ne_zero hm hn), Nat.pow_add]
    exact Nat.mul_le_mul (Nat.log2_self_le hm) (Nat.log2_self_le hn)
  · rw [Nat.log2_lt (Nat.mul_ne_zero hm hn), Nat.pow_add]
    exact Nat.mul_lt_mul'' Nat.lt_log2_self Nat.lt_log2_self

theorem num_ne_zero {num den n s : Nat} (hden : 0 < den) (hn : n ≠ 0)
    (h : num * 2 ^ s = n * den) : num ≠ 0 := by
  rintro rfl
  rw [Nat.zero_mul] at h
  exact (Nat.mul_pos (Nat.pos_of_ne_zero hn) hden).ne h

theorem floorLog2_eq {num den n s : Nat} (hden : 0 < den) (hn : n ≠ 0)
    (h : num * 2 ^ s = n * den) : floorLog2 num den = (n.log2 : Int) - s := by
  have hnum := num_ne_zero hden hn h
  -- both sides of the equation have their first digit at the same place
  obtain ⟨hlow, hhigh⟩ := log2_mul_bounds hn hden.ne'
  rw [← h, log2_mul_two_pow hnum] at hlow hhigh
  unfold floorLog2
  generalize hguess : (num.log2 : Int) - den.log2 = guess
  have hfits : den * 2 ^ guess.toNat ≤ num * 2 ^ (-guess).toNat ↔
      guess.toNat + s ≤ n.log2 + (-guess).toNat := by
    have hscale : num * 2 ^ (-guess).toNat * 2 ^ s = n * 2 ^ (-guess).toNat * den := by
      rw [Nat.mul_right_comm, h, Nat.mul_right_comm]
    have hpow := Nat.two_pow_pos (-guess).toNat
    rw [← log2_mul_two_pow hn, Nat.le_log2 (Nat.mul_pos (Nat.pos_of_ne_zero hn) hpow).ne',
      ← Nat.mul_le_mul_right_iff (Nat.two_pow_pos s), hscale, Nat.mul_assoc, ← Nat.pow_add,
      Nat.mul_comm den, Nat.mul_le_mul_right_iff hden]
  dsimp only
  split
  next hcond =>
    have hle := hfits.mp hcond
    omega
  next hcond =>
    have hlt := mt hfits.mpr hcond
    omega

/-! ## Rounding -/

theorem roundHalfEven_scale (num den : Nat) {c : Nat} (hc : 0 < c) :
    roundHalfEven (num * c) (den * c) = roundHalfEven num den := by
  have hdouble : 2 * (num % den * c) = 2 * (num % den) * c := (Nat.mul_assoc ..).symm
  unfold roundHalfEven
  simp only [Nat.mul_div_mul_right _ _ hc, Nat.mul_mod_mul_right, hdouble,
    Nat.mul_lt_mul_right hc]

/-- Rounding depends on the quotient alone. -/
theorem roundHalfEven_congr {num den num' den' : Nat} (hden : 0 < den) (hden' : 0 < den')
    (h : num * den' = num' * den) : roundHalfEven num den = roundHalfEven num' den' := by
  rw [← roundHalfEven_scale num den hden', ← roundHalfEven_scale num' den' hden, h,
    Nat.mul_comm den]

/-- Widened to at least 53 digits, a number is rounded at the place of the 53rd. -/
theorem roundHalfEven_place (n : Nat) :
    roundHalfEven (n * 2 ^ (52 - n.log2)) (2 ^ (n.log2 - 52)) * 2 ^ (n.log2 - 52) =
      toSignificantBits 53 n * 2 ^ (52 - n.log2) := by
  have hspacing : spacing 53 n = 2 ^ (n.log2 - 52) := by
    unfold spacing
    congr 1
  rw [toSignificantBits_eq, hspacing]
  rcases Nat.le_total n.log2 52 with hshort | hlong
  · rw [Nat.sub_eq_zero_of_le hshort, Nat.pow_zero, Nat.mul_one, Nat.mul_one]
    have hkept := roundHalfEven_mul n Nat.one_pos
    have hkept' := roundHalfEven_mul (n * 2 ^ (52 - n.log2)) Nat.one_pos
    rw [Nat.mul_one] at hkept hkept'
    rw [hkept, hkept']
  · rw [Nat.sub_eq_zero_of_le hlong, Nat.pow_zero, Nat.mul_one, Nat.mul_one]

/-- The digits found at that place are 53, or the carry of rounding makes one more of them. -/
theorem roundHalfEven_place_bounds {n : Nat} (hn : n ≠ 0) :
    2 ^ 52 ≤ roundHalfEven (n * 2 ^ (52 - n.log2)) (2 ^ (n.log2 - 52)) ∧
      roundHalfEven (n * 2 ^ (52 - n.log2)) (2 ^ (n.log2 - 52)) ≤ 2 ^ 53 := by
  have hpow := Nat.two_pow_pos (52 - n.log2)
  have hlow : 2 ^ 52 * 2 ^ (n.log2 - 52) ≤ n * 2 ^ (52 - n.log2) := by
    rw [← Nat.pow_add, show 52 + (n.log2 - 52) = n.log2 + (52 - n.log2) by omega, Nat.pow_add]
    exact Nat.mul_le_mul_right _ (Nat.log2_self_le hn)
  have hhigh : n * 2 ^ (52 - n.log2) ≤ 2 ^ 53 * 2 ^ (n.log2 - 52) := by
    rw [← Nat.pow_add, show 53 + (n.log2 - 52) = n.log2 + 1 + (52 - n.log2) by omega, Nat.pow_add]
    exact Nat.mul_le_mul_right _ Nat.lt_log2_self.le
  have hmono := roundHalfEven_mono (2 ^ (n.log2 - 52)) hlow
  have hmono' := roundHalfEven_mono (2 ^ (n.log2 - 52)) hhigh
  rw [roundHalfEven_mul _ (Nat.two_pow_pos _)] at hmono hmono'
  exact ⟨hmono, hmono'⟩

theorem ofParts?_is {mantissa n s t j : Nat} {exponent : Int}
    (hcanonical : 2 ^ 52 ≤ mantissa ∧ mantissa < 2 ^ 53 ∧ -1074 ≤ exponent ∧ exponent ≤ 971)
    (hexponent : exponent = t - j - s) (h : mantissa * 2 ^ t = n * 2 ^ j) :
    ∃ x, ofParts? false mantissa exponent = some x ∧ x.Is n s := by
  obtain ⟨hlow, hhigh, hleast, hmost⟩ := hcanonical
  have hratio : mantissa * 2 ^ exponent.toNat * 2 ^ s = n * 2 ^ (-exponent).toNat := by
    apply Nat.eq_of_mul_eq_mul_right (Nat.two_pow_pos j)
    calc mantissa * 2 ^ exponent.toNat * 2 ^ s * 2 ^ j
        = mantissa * 2 ^ (exponent.toNat + s + j) := by ring
      _ = mantissa * 2 ^ (t + (-exponent).toNat) := by congr 2; omega
      _ = mantissa * 2 ^ t * 2 ^ (-exponent).toNat := by ring
      _ = n * 2 ^ (-exponent).toNat * 2 ^ j := by rw [h]; ring
  unfold ofParts?
  rw [dif_pos ⟨hhigh, hleast, hmost, .inl hlow⟩]
  exact ⟨_, rfl, rfl, hratio⟩

/-- A fraction of a power of two of medium size is rounded to 53 digits. -/
theorem ofRatio?_is {num den n s : Nat} (hden : 0 < den) (hn : n ≠ 0) (h : num * 2 ^ s = n * den)
    (hlarge : n.log2 ≤ 1000) (hsmall : s ≤ 1000) :
    ∃ x, ofRatio? false num den = some x ∧ x.Is (toSignificantBits 53 n) s := by
  have hnum := num_ne_zero hden hn h
  have hexponent : max (-1074) ((n.log2 : Int) - s - 52) = (n.log2 : Int) - s - 52 := by omega
  unfold ofRatio?
  rw [if_neg hnum, floorLog2_eq hden hn h]
  dsimp only
  rw [hexponent]
  generalize hplace : (n.log2 : Int) - s - 52 = exponent
  have hmantissa : roundHalfEven (numerator num (-exponent)) (numerator den exponent) =
      roundHalfEven (n * 2 ^ (52 - n.log2)) (2 ^ (n.log2 - 52)) := by
    apply roundHalfEven_congr (Nat.mul_pos hden (Nat.two_pow_pos _)) (Nat.two_pow_pos _)
    calc num * 2 ^ (-exponent).toNat * 2 ^ (n.log2 - 52)
        = num * 2 ^ ((-exponent).toNat + (n.log2 - 52)) := by ring
      _ = num * 2 ^ (s + (52 - n.log2) + exponent.toNat) := by congr 2; omega
      _ = num * 2 ^ s * 2 ^ (52 - n.log2) * 2 ^ exponent.toNat := by ring
      _ = n * 2 ^ (52 - n.log2) * (den * 2 ^ exponent.toNat) := by rw [h]; ring
  have hdigits := roundHalfEven_place n
  obtain ⟨hlow, hhigh⟩ := roundHalfEven_place_bounds hn
  rw [hmantissa]
  generalize roundHalfEven (n * 2 ^ (52 - n.log2)) (2 ^ (n.log2 - 52)) = mantissa at *
  split
  next hcarry =>
    refine ofParts?_is (by omega) (t := n.log2 - 52 + 1) (j := 52 - n.log2) (by omega) ?_
    rw [← hdigits, hcarry]
    ring
  next hfits =>
    exact ofParts?_is (by omega) (by omega) hdigits

/-! ## Arithmetic -/

variable {x y : Binary64} {m n r s : Nat}

theorem ratio_snd_pos (x : Binary64) : 0 < x.ratio.2 := Nat.two_pow_pos _

theorem Is.ratio_fst_pos (hx : x.Is n s) (hn : n ≠ 0) : 0 < x.ratio.1 :=
  Nat.pos_of_ne_zero (num_ne_zero x.ratio_snd_pos hn hx.ratio)

theorem ofInt_is (hn : n ≠ 0) (hlimit : n < 2 ^ 64) : (ofInt n).Is (toSignificantBits 53 n) 0 := by
  have hlog : n.log2 < 64 := (Nat.log2_lt hn).mpr hlimit
  obtain ⟨x, hsome, hx⟩ := ofRatio?_is Nat.one_pos hn (s := 0) rfl (by omega) (by omega)
  have hsign : decide ((n : Int) < 0) = false := decide_eq_false (by omega)
  unfold ofInt
  rw [hsign, Int.natAbs_natCast, hsome, Option.getD_some]
  exact hx

theorem mul?_is (hx : x.Is m r) (hy : y.Is n s) (hm : m ≠ 0) (hn : n ≠ 0)
    (hlarge : (m * n).log2 ≤ 1000) (hsmall : r + s ≤ 1000) :
    ∃ z, x.mul? y = some z ∧ z.Is (toSignificantBits 53 (m * n)) (r + s) := by
  unfold mul?
  rw [hx.positive, hy.positive]
  refine ofRatio?_is (Nat.mul_pos x.ratio_snd_pos y.ratio_snd_pos) (Nat.mul_ne_zero hm hn) ?_
    hlarge hsmall
  calc x.ratio.1 * y.ratio.1 * 2 ^ (r + s) = x.ratio.1 * 2 ^ r * (y.ratio.1 * 2 ^ s) := by ring
    _ = m * n * (x.ratio.2 * y.ratio.2) := by rw [hx.ratio, hy.ratio]; ring

/-- Division by a power of two changes no digit. -/
theorem div?_is (hx : x.Is n s) (hy : y.Is (2 ^ r) 0) (hn : n ≠ 0)
    (hkept : toSignificantBits 53 n = n) (hlarge : n.log2 ≤ 1000) (hsmall : s + r ≤ 1000) :
    ∃ z, x.div? y = some z ∧ z.Is n (s + r) := by
  have hdivisor := hy.ratio_fst_pos (Nat.two_pow_pos r).ne'
  have hmantissa : y.mantissa ≠ 0 := by
    intro hzero
    simp [Binary64.ratio, numerator, hzero] at hdivisor
  have hpower : y.ratio.1 = 2 ^ r * y.ratio.2 := by
    have hratio := hy.ratio
    rwa [Nat.pow_zero, Nat.mul_one] at hratio
  have hquotient : x.ratio.1 * y.ratio.2 * 2 ^ (s + r) = n * (x.ratio.2 * y.ratio.1) := by
    calc x.ratio.1 * y.ratio.2 * 2 ^ (s + r) = x.ratio.1 * 2 ^ s * (2 ^ r * y.ratio.2) := by ring
      _ = n * (x.ratio.2 * y.ratio.1) := by rw [hx.ratio, hpower]; ring
  obtain ⟨z, hsome, hz⟩ :=
    ofRatio?_is (Nat.mul_pos x.ratio_snd_pos hdivisor) hn hquotient hlarge hsmall
  unfold div?
  rw [if_neg hmantissa, hx.positive, hy.positive]
  exact ⟨z, hsome, hkept ▸ hz⟩

/-- Whether a number that is not negative is less than another. -/
def less (x y : Binary64) : Bool := x.ratio.1 * y.ratio.2 < y.ratio.1 * x.ratio.2

theorem less_iff (hx : x.Is m r) (hy : y.Is n s) : x.less y = true ↔ m * 2 ^ s < n * 2 ^ r := by
  have hpow : 0 < 2 ^ r * 2 ^ s := Nat.mul_pos (Nat.two_pow_pos r) (Nat.two_pow_pos s)
  have hfirst : x.ratio.1 * y.ratio.2 * (2 ^ r * 2 ^ s) =
      m * 2 ^ s * (x.ratio.2 * y.ratio.2) := by
    calc x.ratio.1 * y.ratio.2 * (2 ^ r * 2 ^ s)
        = x.ratio.1 * 2 ^ r * (y.ratio.2 * 2 ^ s) := by ring
      _ = m * 2 ^ s * (x.ratio.2 * y.ratio.2) := by rw [hx.ratio]; ring
  have hsecond : y.ratio.1 * x.ratio.2 * (2 ^ r * 2 ^ s) =
      n * 2 ^ r * (x.ratio.2 * y.ratio.2) := by
    calc y.ratio.1 * x.ratio.2 * (2 ^ r * 2 ^ s)
        = y.ratio.1 * 2 ^ s * (x.ratio.2 * 2 ^ r) := by ring
      _ = n * 2 ^ r * (x.ratio.2 * y.ratio.2) := by rw [hy.ratio]; ring
  unfold less
  rw [decide_eq_true_iff, ← Nat.mul_lt_mul_right hpow, hfirst, hsecond,
    Nat.mul_lt_mul_right (Nat.mul_pos x.ratio_snd_pos y.ratio_snd_pos)]

/-- The whole number nearest to a number that is not negative, of two the larger. -/
def round (x : Binary64) : Nat := roundHalfUp x.ratio.1 x.ratio.2

theorem roundHalfUp_scale (num den : Nat) {c : Nat} (hc : 0 < c) :
    roundHalfUp (num * c) (den * c) = roundHalfUp num den := by
  unfold roundHalfUp
  rw [← Nat.mul_assoc, ← Nat.mul_assoc, ← Nat.add_mul, Nat.mul_div_mul_right _ _ hc]

theorem round_eq (hx : x.Is n s) : x.round = roundHalfUp n (2 ^ s) := by
  unfold round
  rw [← roundHalfUp_scale _ _ (Nat.two_pow_pos s), hx.ratio, Nat.mul_comm _ (2 ^ s),
    roundHalfUp_scale n (2 ^ s) x.ratio_snd_pos]

end NfsWatch.Binary64
