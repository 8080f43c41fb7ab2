import NfsWatch.Url.Path

/-!
# What percent encoding keeps

Where `%` itself is encoded, decoding gives the bytes of the text back (`decode_encode`), so no two
texts are encoded alike. What is encoded in a part never stands in it, unless it is a hexadecimal
digit (`mem_encode`). A segment that reads as `.` or `..`, however its dots are spelt, decodes to
these bytes, and so is the encoding of nothing else.
-/

namespace NfsWatch.Url

variable {forbidden : Char → Bool}

/-! ## Bytes -/

theorem hexValue?_hexDigit : ∀ n < 16, hexValue? (hexDigit n) = some n := by decide

theorem decode_cons {c : Char} (h : c ≠ '%') (rest : List Char) :
    decode (c :: rest) = String.utf8EncodeChar c ++ decode rest := by
  rw [decode]
  intro high low more hpercent
  exact absurd hpercent h

theorem decode_percent {high low : Char} {h l : Nat} (hhigh : hexValue? high = some h)
    (hlow : hexValue? low = some l) (rest : List Char) :
    decode ('%' :: high :: low :: rest) = UInt8.ofNat (16 * h + l) :: decode rest := by
  rw [decode, hhigh, hlow]

theorem decode_percentByte (byte : UInt8) (rest : List Char) :
    decode (percentByte byte ++ rest) = byte :: decode rest := by
  have hbyte : byte.toNat < 256 := byte.toNat_lt
  have hhigh := hexValue?_hexDigit (byte.toNat / 16) (by omega)
  have hlow := hexValue?_hexDigit (byte.toNat % 16) (by omega)
  show decode ('%' :: _ :: _ :: rest) = _
  rw [decode_percent hhigh hlow, Nat.div_add_mod, UInt8.ofNat_toNat]

theorem decode_percentBytes (bytes : List UInt8) (rest : List Char) :
    decode (bytes.flatMap percentByte ++ rest) = bytes ++ decode rest := by
  induction bytes with
  | nil => rfl
  | cons byte bytes ih =>
      rw [List.flatMap_cons, List.append_assoc, decode_percentByte, ih]
      rfl

/-! ## Texts -/

theorem decode_encodeChar (hpercent : forbidden '%' = true) (c : Char) (rest : List Char) :
    decode (encodeChar forbidden c ++ rest) = String.utf8EncodeChar c ++ decode rest := by
  unfold encodeChar
  split
  · rename_i hkept
    have hc : c ≠ '%' := by
      rintro rfl
      simp [hpercent] at hkept
    exact decode_cons hc rest
  · exact decode_percentBytes (String.utf8EncodeChar c) rest

/-- Decoding reads the bytes of the text back. -/
theorem decode_encode (hpercent : forbidden '%' = true) (cs : List Char) :
    decode (encode forbidden cs) = cs.flatMap String.utf8EncodeChar := by
  induction cs with
  | nil => rw [encode, List.flatMap_nil, decode, List.flatMap_nil]
  | cons c cs ih =>
      show decode (encodeChar forbidden c ++ encode forbidden cs) = _
      rw [decode_encodeChar hpercent, ih, List.flatMap_cons]

/-- The bytes of a text determine it. -/
theorem eq_of_utf8 {first second : List Char}
    (h : first.flatMap String.utf8EncodeChar = second.flatMap String.utf8EncodeChar) :
    first = second := by
  have hbytes : (String.ofList first).toByteArray = (String.ofList second).toByteArray := by
    rw [String.toByteArray_ofList, String.toByteArray_ofList, List.utf8Encode, h, List.utf8Encode]
  exact String.ofList_inj.mp (String.toByteArray_inj.mp hbytes)

theorem encode_inj (hpercent : forbidden '%' = true) {first second : List Char} :
    encode forbidden first = encode forbidden second ↔ first = second := by
  refine ⟨fun h => eq_of_utf8 ?_, congrArg _⟩
  rw [← decode_encode hpercent, h, decode_encode hpercent]

/-! ## What stands in a part -/

theorem mem_encode {cs : List Char} {c : Char} (h : c ∈ encode forbidden cs) :
    forbidden c = false ∨ c = '%' ∨ ∃ n < 16, c = hexDigit n := by
  obtain ⟨d, _, hd⟩ := List.mem_flatMap.mp h
  unfold encodeChar at hd
  split at hd
  · rename_i hkept
    rw [List.mem_singleton.mp hd]
    exact Or.inl (by simpa using (Bool.and_eq_true_iff.mp hkept).2)
  · obtain ⟨byte, _, hbyte⟩ := List.mem_flatMap.mp hd
    have hlt : byte.toNat < 256 := byte.toNat_lt
    simp only [percentByte, List.mem_cons, List.not_mem_nil, or_false] at hbyte
    rcases hbyte with rfl | rfl | rfl
    · exact Or.inr (Or.inl rfl)
    · exact Or.inr (Or.inr ⟨byte.toNat / 16, by omega, rfl⟩)
    · exact Or.inr (Or.inr ⟨byte.toNat % 16, by omega, rfl⟩)

/-- No slash stands in an encoded segment. -/
theorem slash_not_mem_encode (hslash : forbidden '/' = true) (cs : List Char) :
    '/' ∉ encode forbidden cs := by
  intro h
  rcases mem_encode h with hkept | hpercent | ⟨n, hn, hdigit⟩
  · rw [hslash] at hkept
    exact nomatch hkept
  · exact absurd hpercent (by decide)
  · have hdigits : ∀ n < 16, '/' ≠ hexDigit n := by decide
    exact hdigits n hn hdigit

/-! ## Dots -/

theorem eq_nil_of_plainDots {cs : List Char} (h : plainDots cs = []) : cs = [] := by
  unfold plainDots at h
  split at h
  · exact nomatch h
  · exact nomatch h
  · exact nomatch h
  · rfl

/-- A dot in front decodes to a dot, however it is spelt. -/
theorem decode_of_plainDots {cs tail : List Char} (h : plainDots cs = '.' :: tail) :
    ∃ rest, plainDots rest = tail ∧ decode cs = 0x2E :: decode rest := by
  unfold plainDots at h
  split at h
  · rename_i rest
    exact ⟨rest, (List.cons.inj h).2, @decode_percent '2' 'e' 2 14 rfl rfl rest⟩
  · rename_i rest
    exact ⟨rest, (List.cons.inj h).2, @decode_percent '2' 'E' 2 14 rfl rfl rest⟩
  · rename_i c rest _ _
    obtain ⟨rfl, hrest⟩ := List.cons.inj h
    exact ⟨rest, hrest, decode_cons (by decide) rest⟩
  · exact nomatch h

theorem decode_of_isHere {segment : List Char} (h : isHere segment = true) :
    decode segment = ['.'].flatMap String.utf8EncodeChar := by
  obtain ⟨rest, hrest, hdecode⟩ := decode_of_plainDots (beq_iff_eq.mp h)
  rw [hdecode, eq_nil_of_plainDots hrest, decode]
  rfl

theorem decode_of_isAbove {segment : List Char} (h : isAbove segment = true) :
    decode segment = ['.', '.'].flatMap String.utf8EncodeChar := by
  obtain ⟨rest, hrest, hdecode⟩ := decode_of_plainDots (beq_iff_eq.mp h)
  obtain ⟨last, hlast, hsecond⟩ := decode_of_plainDots hrest
  rw [hdecode, hsecond, eq_nil_of_plainDots hlast, decode]
  rfl

theorem isHere_encode (hpercent : forbidden '%' = true) {cs : List Char}
    (h : isHere (encode forbidden cs) = true) : cs = ['.'] := by
  rw [← eq_of_utf8 ((decode_encode hpercent cs).symm.trans (decode_of_isHere h))]

theorem isAbove_encode (hpercent : forbidden '%' = true) {cs : List Char}
    (h : isAbove (encode forbidden cs) = true) : cs = ['.', '.'] := by
  rw [← eq_of_utf8 ((decode_encode hpercent cs).symm.trans (decode_of_isAbove h))]

end NfsWatch.Url
