import Mathlib.Tactic.IntervalCases
import NfsWatch.Proofs.Number.Numeral
import NfsWatch.Proofs.Size.Steps

/-!
# The text of a size

A size is read back as a decimal number of the unit whose letter follows it (`read_text`). Read in
this way, counts are shown accurately and in order.
-/

namespace NfsWatch.Size

variable {unit count : Nat}

/-! ## Reading a size -/

/-- The decimal number with which a text begins, and what comes after it. -/
def readNumber (cs : List Char) : ℚ × List Char :=
  let digits := cs.takeWhile Char.isDigit
  match cs.dropWhile Char.isDigit with
  | '.' :: rest =>
      let decimals := rest.takeWhile Char.isDigit
      (Nat.ofDigitChars 10 (digits ++ decimals) 0 / 10 ^ decimals.length,
        rest.dropWhile Char.isDigit)
  | rest => (Nat.ofDigitChars 10 digits 0, rest)

/-- The number that a text denotes: a decimal number of the unit whose letter follows it, or of ones
if nothing follows. -/
def read? (text : String) : Option ℚ :=
  match readNumber text.toList with
  | (number, []) => some number
  | (number, [letter]) =>
      (suffixes.idxOf? letter).map fun position => number * 1024 ^ (position + 1)
  | _ => none

theorem takeWhile_digits {digits : List Char} (rest : List Char)
    (hdigits : ∀ c ∈ digits, c.isDigit = true) (hrest : ∀ c ∈ rest.head?, c.isDigit = false) :
    (digits ++ rest).takeWhile Char.isDigit = digits ∧
      (digits ++ rest).dropWhile Char.isDigit = rest := by
  rw [List.takeWhile_append_of_pos hdigits, List.dropWhile_append_of_pos hdigits]
  cases rest with
  | nil => exact ⟨List.append_nil digits, rfl⟩
  | cons c rest =>
      have hc : ¬ c.isDigit = true := by simp [hrest c rfl]
      rw [List.takeWhile_cons_of_neg hc, List.dropWhile_cons_of_neg hc, List.append_nil]
      exact ⟨rfl, rfl⟩

theorem readNumber_whole {digits : List Char} (rest : List Char)
    (hdigits : ∀ c ∈ digits, c.isDigit = true)
    (hrest : ∀ c ∈ rest.head?, c.isDigit = false ∧ c ≠ '.') :
    readNumber (digits ++ rest) = ((Nat.ofDigitChars 10 digits 0 : ℚ), rest) := by
  obtain ⟨htake, hdrop⟩ := takeWhile_digits rest hdigits fun c hc => (hrest c hc).1
  unfold readNumber
  rw [htake, hdrop]
  split
  next rest' => exact absurd rfl (hrest '.' rfl).2
  next => rfl

theorem readNumber_decimals {digits decimals : List Char} (rest : List Char)
    (hdigits : ∀ c ∈ digits, c.isDigit = true) (hdecimals : ∀ c ∈ decimals, c.isDigit = true)
    (hrest : ∀ c ∈ rest.head?, c.isDigit = false) :
    readNumber (digits ++ '.' :: (decimals ++ rest)) =
      ((Nat.ofDigitChars 10 (digits ++ decimals) 0 : ℚ) / 10 ^ decimals.length, rest) := by
  have hpoint : ∀ c ∈ ('.' :: (decimals ++ rest)).head?, c.isDigit = false := by
    intro c hc
    obtain rfl := Option.some.inj hc
    rfl
  obtain ⟨htake, hdrop⟩ := takeWhile_digits _ hdigits hpoint
  obtain ⟨htake', hdrop'⟩ := takeWhile_digits rest hdecimals hrest
  unfold readNumber
  rw [htake, hdrop]
  simp only [htake', hdrop']

/-- Each unit has a letter of its own, which is no part of a number. -/
theorem suffix_spec (hfirst : 1 ≤ unit) (hlast : unit ≤ 6) :
    ∃ letter, suffixes[unit - 1]? = some letter ∧ suffixes.idxOf? letter = some (unit - 1) ∧
      letter.isDigit = false ∧ letter ≠ '.' := by
  interval_cases unit <;> exact ⟨_, rfl, by decide, by decide, by decide⟩

/-- The last digit stands behind the point. -/
theorem ofDigitChars_tenths (count : Nat) :
    Nat.ofDigitChars 10 (Nat.toDigits 10 (count / 10) ++ Nat.toDigits 10 (count % 10)) 0 = count ∧
      (Nat.toDigits 10 (count % 10)).length = 1 := by
  have hlt : count % 10 < 10 := Nat.mod_lt count (by omega)
  rw [Nat.toDigits_of_lt_base hlt, IntegerText.ofDigitChars_concat,
    Nat.ofDigitChars_ten_toDigits, Nat.toNat_digitChar_of_lt_ten hlt]
  have hzero : '0'.toNat = 48 := rfl
  exact ⟨by omega, rfl⟩

theorem digits_write (n : Nat) : ∀ c ∈ Nat.toDigits 10 n, c.isDigit = true :=
  (IntegerText.Numeral.ofNat n).decimal

/-- Where a size has a unit, it is one that has a letter. -/
def HasLetter : Size → Prop
  | .plain _ => True
  | .tenths _ unit => 1 ≤ unit ∧ unit ≤ 6
  | .whole _ unit => 1 ≤ unit ∧ unit ≤ 6

theorem read_text {size : Size} (h : size.HasLetter) : read? size.text = some size.value := by
  cases size with
  | plain count =>
      have hnumber := readNumber_whole [] (digits_write count) nofun
      rw [List.append_nil] at hnumber
      simp only [read?, text, IntegerText.write, String.toList_ofList, hnumber, value,
        Nat.ofDigitChars_ten_toDigits]
  | tenths count unit =>
      obtain ⟨letter, hletter, hposition, hdigit, hdot⟩ := suffix_spec h.1 h.2
      have hnumber := readNumber_decimals [letter] (digits_write (count / 10))
        (digits_write (count % 10)) (by simpa using hdigit)
      obtain ⟨hvalue, hlength⟩ := ofDigitChars_tenths count
      have hunit : unit - 1 + 1 = unit := Nat.sub_add_cancel h.1
      simp [read?, text, suffix, IntegerText.write, hletter, hnumber, hvalue, hlength, value,
        hposition, hunit]
  | whole count unit =>
      obtain ⟨letter, hletter, hposition, hdigit, hdot⟩ := suffix_spec h.1 h.2
      have hnumber := readNumber_whole [letter] (digits_write count)
        (by simpa using ⟨hdigit, hdot⟩)
      have hunit : unit - 1 + 1 = unit := Nat.sub_add_cancel h.1
      simp [read?, text, suffix, IntegerText.write, hletter, hnumber, value, hposition,
        Nat.ofDigitChars_ten_toDigits, hunit]

theorem hasLetter_inUnit (n : Nat) (hfirst : 1 ≤ unit) (hlast : unit ≤ 6) :
    (inUnit n unit).HasLetter := by
  unfold inUnit
  split
  · exact ⟨hfirst, hlast⟩
  · exact ⟨hfirst, hlast⟩

/-! ## What is shown -/

/-- How a count is shown, and as which number. -/
inductive Shows (count : Nat) : String → ℚ → Prop
  | plain : count < 1024 → Shows count (IntegerText.write count) count
  /-- One decimal, from 1.0 to 10.0 of a unit, and within 0.051 of it. -/
  | tenths {unit tenths : Nat} {letter : Char} : 1024 ≤ count →
      1 ≤ unit → unit ≤ 6 → suffixes[unit - 1]? = some letter →
      10 ≤ tenths → tenths ≤ 100 →
      |(tenths / 10 * 1024 ^ unit : ℚ) - count| ≤ 0.051 * 1024 ^ unit →
      Shows count
        (IntegerText.write (tenths / 10) ++ "." ++ IntegerText.write (tenths % 10) ++
          String.singleton letter)
        (tenths / 10 * 1024 ^ unit)
  /-- A whole number, from 10 to 1024 of a unit, and within 0.501 of it. -/
  | whole {unit whole : Nat} {letter : Char} : 1024 ≤ count →
      1 ≤ unit → unit ≤ 6 → suffixes[unit - 1]? = some letter →
      10 ≤ whole → whole ≤ 1024 →
      |(whole * 1024 ^ unit : ℚ) - count| ≤ 0.501 * 1024 ^ unit →
      Shows count (IntegerText.write whole ++ String.singleton letter) (whole * 1024 ^ unit)

theorem shows_ofCount (hlimit : count < 2 ^ 64) :
    Shows count (ofCount count).text (ofCount count).value := by
  rcases Nat.lt_or_ge count 1024 with hless | hmany
  · rw [ofCount, if_pos hless]
    exact .plain hless
  · obtain ⟨hfirst, hlast⟩ := unitOf_bounds count
    obtain ⟨letter, hletter, _⟩ := suffix_spec hfirst hlast
    have hsuffix : suffix (unitOf count) = String.singleton letter := by
      rw [suffix, hletter, Option.elim_some]
    have hlow := scale_unitOf_le hmany
    have hhigh := le_scale_unitOf hlimit
    rw [ofCount_eq hmany, inUnit]
    by_cases hfew : nearest count < 10 * scale (unitOf count)
    · obtain ⟨hten, hhundred⟩ := tenthsIn_bounds hlow hfew
      rw [if_pos hfew, text, hsuffix]
      exact .tenths hmany hfirst hlast hletter hten hhundred (tenths_error hfew)
    · obtain ⟨hten, hall⟩ := wholeIn_bounds (Nat.le_of_not_lt hfew) hhigh
      rw [if_neg hfew, text, hsuffix]
      exact .whole hmany hfirst hlast hletter hten hall (whole_error hhigh)

theorem hasLetter_ofCount (count : Nat) : (ofCount count).HasLetter := by
  rcases Nat.lt_or_ge count 1024 with hless | hmany
  · rw [ofCount, if_pos hless]
    trivial
  · rw [ofCount_eq hmany]
    exact hasLetter_inUnit _ (unitOf_bounds count).1 (unitOf_bounds count).2

/-- A count is shown by steps of binary64 arithmetic. They show it as it is or accurately in a unit,
and of two counts the larger never denotes the smaller number. -/
theorem sizes_accurate_and_ordered (count : UInt64) :
    humanize count = (inSteps count.toNat).text ∧
    ∃ number, Shows count.toNat (humanize count) number ∧ read? (humanize count) = some number ∧
      ∀ more : UInt64, count ≤ more →
        ∃ larger, read? (humanize more) = some larger ∧ number ≤ larger := by
  have hlimit := count.toNat_lt
  refine ⟨congrArg text (ofCount_eq_inSteps hlimit), (ofCount count.toNat).value,
    shows_ofCount hlimit, read_text (hasLetter_ofCount _), ?_⟩
  intro more h
  refine ⟨(ofCount more.toNat).value, read_text (hasLetter_ofCount _), ?_⟩
  exact value_mono (UInt64.le_iff_toNat_le.mp h) more.toNat_lt

/-- Around the first megabyte: the smaller count is rounded up to all of it. -/
theorem next_unit_keeps_order :
    (1048575 : UInt64) ≤ 1048577 ∧ humanize 1048575 = "1024K" ∧ humanize 1048577 = "1.0M" ∧
      ∃ number larger, read? "1024K" = some number ∧ read? "1.0M" = some larger ∧
        number ≤ larger := by
  have hkilo : humanize 1048575 = "1024K" := by decide +kernel
  have hmega : humanize 1048577 = "1.0M" := by decide +kernel
  have hle : (1048575 : UInt64) ≤ 1048577 := by decide
  obtain ⟨_, number, _, hnumber, hlarger⟩ := sizes_accurate_and_ordered 1048575
  obtain ⟨larger, hread, hnumbers⟩ := hlarger 1048577 hle
  rw [hkilo] at hnumber
  rw [hmega] at hread
  exact ⟨hle, hkilo, hmega, number, larger, hnumber, hread, hnumbers⟩

end NfsWatch.Size
