import Mathlib.Data.List.Basic
import Mathlib.Data.List.Induction
import NfsWatch.Number.IntegerText

/-!
# Numerals: what is read as a natural

A numeral is an optional plus sign and one or more decimal digits. `readChars_eq_ok_iff` says that
these are the texts that are read, and as what; the bound is on the value, so leading zeros never
count against it. `readChars_eq_error_iff` says what is wrong with any other text. Of the numerals
of one value `write` gives the plain one: without sign, and without a zero in front of other digits
(`Numeral.write_value_iff`).
-/

namespace NfsWatch.IntegerText

def sign (signed : Bool) : List Char := if signed then ['+'] else []

/-- A text that denotes a natural. -/
@[ext]
structure Numeral where
  /-- Whether a plus sign comes first. -/
  signed : Bool
  digits : List Char
  nonempty : digits ≠ []
  decimal : ∀ c ∈ digits, c.isDigit = true

namespace Numeral

def chars (numeral : Numeral) : List Char := sign numeral.signed ++ numeral.digits

def text (numeral : Numeral) : String := String.ofList numeral.chars

def value (numeral : Numeral) : Nat := Nat.ofDigitChars 10 numeral.digits 0

/-- Without sign, and zero comes first only if it is all there is. -/
structure Plain (numeral : Numeral) : Prop where
  unsigned : numeral.signed = false
  leading : numeral.digits.head? = some '0' → numeral.digits = ['0']

end Numeral

/-! ## Digits -/

theorem digitChar_of_isDigit {c : Char} (h : c.isDigit = true) :
    c.toNat - '0'.toNat < 10 ∧ (c.toNat - '0'.toNat).digitChar = c := by
  obtain ⟨hlow, hhigh⟩ := Char.isDigit_iff_toNat.mp h
  have hzero : '0'.toNat = 48 := rfl
  have hnine : '9'.toNat = 57 := rfl
  have hlt : c.toNat - '0'.toNat < 10 := by omega
  refine ⟨hlt, Char.toNat_inj.mp ?_⟩
  rw [Nat.toNat_digitChar_of_lt_ten hlt]
  omega

theorem le_ofDigitChars (cs : List Char) (value : Nat) : value ≤ Nat.ofDigitChars 10 cs value := by
  induction cs generalizing value with
  | nil => exact Nat.le_refl value
  | cons c cs ih =>
      rw [Nat.ofDigitChars_cons]
      exact Nat.le_trans (by omega) (ih _)

theorem ofDigitChars_concat (cs : List Char) (c : Char) :
    Nat.ofDigitChars 10 (cs ++ [c]) 0 =
      10 * Nat.ofDigitChars 10 cs 0 + (c.toNat - '0'.toNat) := by
  rw [Nat.ofDigitChars_append, Nat.ofDigitChars_cons, Nat.ofDigitChars_nil]

theorem readDigits_ne_empty {largest value : Nat} (cs : List Char) :
    readDigits largest value cs ≠ .error .empty := by
  induction cs generalizing value with
  | nil => simp [readDigits]
  | cons c cs ih =>
      rw [readDigits]
      cases digit? c with
      | none => simp
      | some d =>
          by_cases hlarge : largest < 10 * value + d
          · simp [hlarge]
          · simp [hlarge, ih]

/-- Digits are read to the end exactly if the number that they make is within the bound. -/
theorem readDigits_eq_ok_iff {largest value n : Nat} {cs : List Char} (hvalue : value ≤ largest) :
    readDigits largest value cs = .ok n ↔
      (∀ c ∈ cs, c.isDigit = true) ∧ Nat.ofDigitChars 10 cs value = n ∧ n ≤ largest := by
  induction cs generalizing value with
  | nil =>
      simp only [readDigits, Except.ok.injEq, List.not_mem_nil, false_imp_iff, implies_true,
        true_and, Nat.ofDigitChars_nil]
      constructor
      · rintro rfl
        exact ⟨rfl, hvalue⟩
      · exact And.left
  | cons c cs ih =>
      rw [readDigits, List.forall_mem_cons, Nat.ofDigitChars_cons]
      by_cases hdigit : c.isDigit = true
      · rw [digit?, if_pos hdigit]
        by_cases hlarge : largest < 10 * value + (c.toNat - '0'.toNat)
        · -- further digits never make the number smaller
          have hle := le_ofDigitChars cs (10 * value + (c.toNat - '0'.toNat))
          simp only [if_pos hlarge, reduceCtorEq, false_iff]
          rintro ⟨_, rfl, hn⟩
          omega
        · simp only [if_neg hlarge]
          rw [ih (Nat.le_of_not_lt hlarge), and_iff_right hdigit]
      · simp [digit?, hdigit]

/-- Continued with digits up to some place of a text, a number is too large. -/
def Exceeds (largest value : Nat) (cs : List Char) : Prop :=
  ∃ digits rest, digits ++ rest = cs ∧ (∀ c ∈ digits, c.isDigit = true) ∧
    largest < Nat.ofDigitChars 10 digits value

theorem not_exceeds_nil {largest value : Nat} (hvalue : value ≤ largest) :
    ¬ Exceeds largest value [] := by
  rintro ⟨digits, rest, hcs, _, hlarge⟩
  obtain ⟨rfl, rfl⟩ := List.append_eq_nil_iff.mp hcs
  exact Nat.not_lt.mpr hvalue hlarge

theorem exceeds_of_lt {largest value : Nat} (cs : List Char) (h : largest < value) :
    Exceeds largest value cs :=
  ⟨[], cs, rfl, List.forall_mem_nil _, h⟩

theorem exceeds_cons {largest value : Nat} {c : Char} {cs : List Char} (hvalue : value ≤ largest) :
    Exceeds largest value (c :: cs) ↔
      c.isDigit = true ∧ Exceeds largest (10 * value + (c.toNat - '0'.toNat)) cs := by
  constructor
  · rintro ⟨_ | ⟨d, digits⟩, rest, hcs, hdigits, hlarge⟩
    · exact absurd hlarge (Nat.not_lt.mpr hvalue)
    · obtain ⟨rfl, hrest⟩ := List.cons.inj hcs
      obtain ⟨hdigit, hdigits⟩ := List.forall_mem_cons.mp hdigits
      rw [Nat.ofDigitChars_cons] at hlarge
      exact ⟨hdigit, digits, rest, hrest, hdigits, hlarge⟩
  · rintro ⟨hdigit, digits, rest, rfl, hdigits, hlarge⟩
    rw [← Nat.ofDigitChars_cons] at hlarge
    exact ⟨c :: digits, rest, rfl, List.forall_mem_cons.mpr ⟨hdigit, hdigits⟩, hlarge⟩

/-- Digits are given up as too large exactly if those up to some place make a number that is. -/
theorem readDigits_eq_tooLarge_iff {largest value : Nat} {cs : List Char}
    (hvalue : value ≤ largest) :
    readDigits largest value cs = .error .tooLarge ↔ Exceeds largest value cs := by
  induction cs generalizing value with
  | nil => simp [readDigits, not_exceeds_nil hvalue]
  | cons c cs ih =>
      rw [exceeds_cons hvalue, readDigits]
      by_cases hdigit : c.isDigit = true
      · rw [digit?, if_pos hdigit, and_iff_right hdigit]
        by_cases hlarge : largest < 10 * value + (c.toNat - '0'.toNat)
        · simp only [if_pos hlarge, true_iff]
          exact exceeds_of_lt cs hlarge
        · simp only [if_neg hlarge]
          exact ih (Nat.le_of_not_lt hlarge)
      · simp [digit?, hdigit]

/-! ## Numerals -/

theorem isDigit_ne_plus {c : Char} (h : c.isDigit = true) : c ≠ '+' := by
  rintro rfl
  exact absurd h (by decide)

theorem readChars_plus {largest : Nat} {digits : List Char} (h : digits ≠ []) :
    readChars largest ('+' :: digits) = readDigits largest 0 digits := by
  cases digits with
  | nil => exact absurd rfl h
  | cons c digits => rfl

theorem readChars_digits {largest : Nat} {c : Char} (h : c ≠ '+') (digits : List Char) :
    readChars largest (c :: digits) = readDigits largest 0 (c :: digits) := by
  rw [readChars]
  · exact nofun
  · intro hplus
    exact h (List.cons.inj hplus).1
  · intro _ hplus
    exact h (List.cons.inj hplus).1

/-- The sign of a numeral is passed over, whatever follows the digits. -/
theorem readChars_numeral (largest : Nat) (numeral : Numeral) (rest : List Char) :
    readChars largest (numeral.chars ++ rest) = readDigits largest 0 (numeral.digits ++ rest) := by
  obtain ⟨signed, digits, hnonempty, hdecimal⟩ := numeral
  obtain ⟨c, digits, rfl⟩ := List.exists_cons_of_ne_nil hnonempty
  cases signed with
  | true => exact readChars_plus (List.cons_ne_nil c _)
  | false => exact readChars_digits (isDigit_ne_plus (hdecimal c List.mem_cons_self)) _

/-- Where there is more than a sign, what comes after the sign is read. -/
theorem readChars_sign (largest : Nat) (cs : List Char) :
    cs = [] ∨ cs = ['+'] ∨ ∃ signed digits, digits ≠ [] ∧ sign signed ++ digits = cs ∧
      readChars largest cs = readDigits largest 0 digits := by
  rcases cs with _ | ⟨c, cs⟩
  · exact .inl rfl
  · by_cases hplus : c = '+'
    · subst hplus
      rcases cs with _ | ⟨c, cs⟩
      · exact .inr (.inl rfl)
      · have hcons := List.cons_ne_nil c cs
        exact .inr (.inr ⟨true, c :: cs, hcons, rfl, readChars_plus hcons⟩)
    · exact .inr (.inr ⟨false, c :: cs, List.cons_ne_nil c cs, rfl, readChars_digits hplus cs⟩)

/-- A text is read exactly if it is a numeral within the bound, and as the value of that. -/
theorem readChars_eq_ok_iff {largest n : Nat} {cs : List Char} :
    readChars largest cs = .ok n ↔
      ∃ numeral : Numeral, numeral.chars = cs ∧ numeral.value = n ∧ n ≤ largest := by
  constructor
  · intro h
    rcases readChars_sign largest cs with rfl | rfl | ⟨signed, digits, hnonempty, hcs, hread⟩
    · exact nomatch h
    · exact nomatch h
    · rw [hread, readDigits_eq_ok_iff (Nat.zero_le largest)] at h
      exact ⟨⟨signed, digits, hnonempty, h.1⟩, hcs, h.2⟩
  · rintro ⟨numeral, rfl, hvalue⟩
    have hread := readChars_numeral largest numeral []
    rw [List.append_nil, List.append_nil] at hread
    rw [hread, readDigits_eq_ok_iff (Nat.zero_le largest)]
    exact ⟨numeral.decimal, hvalue⟩

/-- A text is given up as too large exactly if it begins with a numeral beyond the bound. -/
theorem readChars_eq_tooLarge_iff {largest : Nat} {cs : List Char} :
    readChars largest cs = .error .tooLarge ↔
      ∃ (numeral : Numeral) (rest : List Char), numeral.chars ++ rest = cs ∧
        largest < numeral.value := by
  constructor
  · intro h
    rcases readChars_sign largest cs with rfl | rfl | ⟨signed, _, _, rfl, hread⟩
    · exact nomatch h
    · exact nomatch h
    · rw [hread, readDigits_eq_tooLarge_iff (Nat.zero_le largest)] at h
      obtain ⟨digits, rest, rfl, hdecimal, hlarge⟩ := h
      have hnonempty : digits ≠ [] := by
        rintro rfl
        exact absurd hlarge (Nat.not_lt_zero largest)
      exact ⟨⟨signed, digits, hnonempty, hdecimal⟩, rest, List.append_assoc _ _ _, hlarge⟩
  · rintro ⟨numeral, rest, rfl, hlarge⟩
    rw [readChars_numeral, readDigits_eq_tooLarge_iff (Nat.zero_le largest)]
    exact ⟨numeral.digits, rest, rfl, numeral.decimal, hlarge⟩

/-- What each fault says of a text. A number that grows too large is one also where the text goes on
to be no numeral. -/
def Fault.Of (largest : Nat) (cs : List Char) : Fault → Prop
  | .empty => cs = []
  | .invalidDigit => cs ≠ [] ∧ (∀ numeral : Numeral, numeral.chars ≠ cs) ∧
      ∀ (numeral : Numeral) (rest : List Char), numeral.chars ++ rest = cs →
        numeral.value ≤ largest
  | .tooLarge => ∃ (numeral : Numeral) (rest : List Char), numeral.chars ++ rest = cs ∧
      largest < numeral.value

theorem readChars_eq_empty_iff {largest : Nat} {cs : List Char} :
    readChars largest cs = .error .empty ↔ cs = [] := by
  constructor
  · intro h
    rcases readChars_sign largest cs with hnil | rfl | ⟨_, _, _, _, hread⟩
    · exact hnil
    · exact nomatch h
    · exact absurd (hread.symm.trans h) (readDigits_ne_empty _)
  · rintro rfl
    rfl

/-- A text that is not read has the fault that is reported. -/
theorem readChars_eq_error_iff {largest : Nat} {cs : List Char} {fault : Fault} :
    readChars largest cs = .error fault ↔ fault.Of largest cs := by
  cases fault with
  | empty => exact readChars_eq_empty_iff
  | tooLarge => exact readChars_eq_tooLarge_iff
  | invalidDigit =>
      constructor
      · intro h
        refine ⟨?_, fun numeral hcs => ?_, fun numeral rest hcs => ?_⟩
        · rintro rfl
          exact nomatch h
        · rcases Nat.lt_or_ge largest numeral.value with hlarge | hle
          · have hlarge := readChars_eq_tooLarge_iff.mpr
              ⟨numeral, [], (List.append_nil _).trans hcs, hlarge⟩
            exact nomatch h.symm.trans hlarge
          · exact nomatch h.symm.trans (readChars_eq_ok_iff.mpr ⟨numeral, hcs, rfl, hle⟩)
        · refine Nat.le_of_not_lt fun hlarge => ?_
          exact nomatch h.symm.trans (readChars_eq_tooLarge_iff.mpr ⟨numeral, rest, hcs, hlarge⟩)
      · rintro ⟨hnonempty, hnumeral, hsmall⟩
        match h : readChars largest cs with
        | .ok n =>
            obtain ⟨numeral, hcs, _⟩ := readChars_eq_ok_iff.mp h
            exact absurd hcs (hnumeral numeral)
        | .error .empty => exact absurd (readChars_eq_empty_iff.mp h) hnonempty
        | .error .invalidDigit => rfl
        | .error .tooLarge =>
            obtain ⟨numeral, rest, hcs, hlarge⟩ := readChars_eq_tooLarge_iff.mp h
            exact absurd hlarge (Nat.not_lt.mpr (hsmall numeral rest hcs))

theorem mem_sign {signed : Bool} {c : Char} : c ∈ sign signed ↔ signed = true ∧ c = '+' := by
  cases signed <;> simp [sign]

theorem Numeral.mem_chars {numeral : Numeral} {c : Char} (h : c ∈ numeral.chars) :
    c = '+' ∨ c.isDigit = true := by
  rcases List.mem_append.mp h with hsign | hdigit
  · exact .inl (mem_sign.mp hsign).2
  · exact .inr (numeral.decimal c hdigit)

theorem Numeral.plus_mem_chars (numeral : Numeral) :
    '+' ∈ numeral.chars ↔ numeral.signed = true := by
  have hdigits : '+' ∉ numeral.digits :=
    fun hmem => isDigit_ne_plus (numeral.decimal '+' hmem) rfl
  rw [chars, List.mem_append, or_iff_left hdigits, mem_sign, and_iff_left rfl]

/-- A numeral is settled by its text. -/
theorem Numeral.text_injective {first second : Numeral} (h : first.text = second.text) :
    first = second := by
  have hchars := String.ofList_inj.mp h
  have hsigned : first.signed = second.signed := by
    rw [Bool.eq_iff_iff, ← plus_mem_chars, ← plus_mem_chars, hchars]
  unfold chars at hchars
  rw [hsigned] at hchars
  exact Numeral.ext hsigned (List.append_cancel_left hchars)

/-! ## What is written -/

/-- The digits of a number begin with zero only if it is zero. -/
theorem toDigits_leading (n : Nat) (h : (Nat.toDigits 10 n).head? = some '0') :
    Nat.toDigits 10 n = ['0'] := by
  induction n using Nat.strongRecOn with
  | ind n ih =>
      rw [Nat.toDigits_eq_if (by decide)] at h ⊢
      by_cases hsmall : n < 10
      · rw [if_pos hsmall] at h ⊢
        rw [Option.some.inj h]
      · rw [if_neg hsmall, List.head?_append_of_ne_nil _ Nat.toDigits_ne_nil] at h
        have hzero := ih (n / 10) (by omega) h
        -- then the tenth part would be zero
        have hvalue := congrArg (fun cs => Nat.ofDigitChars 10 cs 0) hzero
        simp only [Nat.ofDigitChars_ten_toDigits] at hvalue
        have htenth : n / 10 = 0 := hvalue
        omega

/-- The plain numeral of a natural. -/
def Numeral.ofNat (n : Nat) : Numeral where
  signed := false
  digits := Nat.toDigits 10 n
  nonempty := Nat.toDigits_ne_nil
  decimal := fun _ => Nat.isDigit_of_mem_toDigits (by decide) (by decide)

theorem Numeral.chars_ofNat (n : Nat) : (ofNat n).chars = (write n).toList :=
  String.toList_ofList.symm

theorem Numeral.value_ofNat (n : Nat) : (ofNat n).value = n := Nat.ofDigitChars_ten_toDigits

/-- What is written reads back. -/
theorem readChars_write {largest n : Nat} (h : n ≤ largest) :
    readChars largest (write n).toList = .ok n :=
  readChars_eq_ok_iff.mpr ⟨.ofNat n, Numeral.chars_ofNat n, Numeral.value_ofNat n, h⟩

theorem toDigits_ofDigitChars {cs : List Char} (hnonempty : cs ≠ [])
    (hdecimal : ∀ c ∈ cs, c.isDigit = true) (hleading : cs.head? = some '0' → cs = ['0']) :
    Nat.toDigits 10 (Nat.ofDigitChars 10 cs 0) = cs := by
  induction cs using List.reverseRecOn with
  | nil => exact absurd rfl hnonempty
  | append_singleton cs c ih =>
      obtain ⟨hlt, hchar⟩ := digitChar_of_isDigit (hdecimal c (by simp))
      rw [ofDigitChars_concat]
      by_cases hfirst : cs = []
      · subst hfirst
        rw [Nat.ofDigitChars_nil, Nat.mul_zero, Nat.zero_add, Nat.toDigits_of_lt_base hlt, hchar]
        rfl
      · have hhead : (cs ++ [c]).head? = cs.head? := List.head?_append_of_ne_nil cs hfirst
        have hnot : cs.head? ≠ some '0' := by
          intro hzero
          have hlength := congrArg List.length (hleading (hhead.trans hzero))
          have hpos := List.length_pos_iff.mpr hfirst
          simp only [List.length_append, List.length_cons, List.length_nil] at hlength
          omega
        have hrest := ih hfirst (fun d hmem => hdecimal d (List.mem_append_left _ hmem))
          fun hzero => absurd hzero hnot
        have hpos : Nat.ofDigitChars 10 cs 0 ≠ 0 := by
          intro hzero
          rw [hzero] at hrest
          exact hnot (hrest ▸ rfl)
        rw [Nat.toDigits_of_base_le (by decide) (by omega), Nat.mul_add_div (by decide),
          Nat.div_eq_of_lt hlt, Nat.add_zero, hrest, Nat.mul_add_mod, Nat.mod_eq_of_lt hlt, hchar]

/-- A numeral is what is written for its value exactly if it is plain. -/
theorem Numeral.write_value_iff (numeral : Numeral) :
    (write numeral.value).toList = numeral.chars ↔ numeral.Plain := by
  rw [← chars_ofNat]
  constructor
  · intro h
    have hsigned : numeral.signed = false := by
      rw [← Bool.not_eq_true, ← plus_mem_chars, ← h, plus_mem_chars]
      exact Bool.false_ne_true
    have hdigits : Nat.toDigits 10 numeral.value = numeral.digits := by
      rw [chars, chars, hsigned] at h
      exact h
    refine ⟨hsigned, ?_⟩
    rw [← hdigits]
    exact toDigits_leading numeral.value
  · rintro ⟨hsigned, hleading⟩
    rw [chars, chars, hsigned]
    exact toDigits_ofDigitChars numeral.nonempty numeral.decimal hleading

end NfsWatch.IntegerText
