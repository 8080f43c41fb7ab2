import Mathlib.Data.String.Basic
import Mathlib.Tactic.SplitIfs
import NfsWatch.Table

/-!
# The order of texts and of their bytes

Tables compare their keys by code points. UTF-8 keeps that order: the first byte of a character
tells how many follow, more for a greater code point, and from there on the bytes are its digits to
base 64, the highest first. So the entries of a table stand in the order of the bytes of their keys
(`Table.keys_in_byte_order`).
-/

namespace NfsWatch

namespace Text

/-- The UTF-8 bytes of a text. -/
def bytes (text : String) : List UInt8 := text.toUTF8.data.toList

theorem bytes_eq (text : String) : bytes text = text.toList.flatMap String.utf8EncodeChar := by
  unfold bytes
  rw [String.toUTF8_eq_toByteArray, ← String.utf8Encode_toList]
  exact List.toList_data_toByteArray

/-- The bytes of two characters decide, whatever follows them. -/
theorem encodeChar_lt {c d : Char} (h : c < d) (first second : List UInt8) :
    String.utf8EncodeChar c ++ first < String.utf8EncodeChar d ++ second := by
  have hlt : c.val.toNat < d.val.toNat := h
  have hvalid : d.val.toNat < 0x110000 := by
    have hchar := d.valid
    simp only [UInt32.isValidChar, Nat.isValidChar] at hchar
    omega
  have hdigits : ∀ n : Nat,
      n = 262144 * (n / 262144) + 4096 * (n / 4096 % 64) + 64 * (n / 64 % 64) + n % 64 := by
    omega
  unfold String.utf8EncodeChar
  generalize c.val.toNat = low at hlt ⊢
  generalize d.val.toNat = high at hlt hvalid ⊢
  have hlow := hdigits low
  have hhigh := hdigits high
  dsimp only
  -- one case for each pair of lengths; those with the longer character first cannot be
  split_ifs
  all_goals
    simp only [List.cons_append, List.nil_append, List.cons_lt_cons_iff, UInt8.lt_iff_toNat_lt,
      ← UInt8.toNat_inj, UInt8.toNat_ofNat']
    simp (disch := omega) only [Nat.mod_eq_of_lt]
    omega

theorem encode_lt {first second : List Char} (h : first < second) :
    first.flatMap String.utf8EncodeChar < second.flatMap String.utf8EncodeChar := by
  induction h with
  | @nil c rest =>
      rw [List.flatMap_cons, List.flatMap_nil]
      cases hbytes : String.utf8EncodeChar c with
      | nil => exact absurd hbytes String.utf8EncodeChar_ne_nil
      | cons byte more => exact List.nil_lt_cons ..
  | rel hlt => exact encodeChar_lt hlt _ _
  | cons _ ih => exact List.append_left_lt ih

/-- Texts are ordered as their bytes are. -/
theorem bytes_lt_iff {first second : String} : bytes first < bytes second ↔ first < second := by
  have hkept : ∀ {first second : String}, first < second → bytes first < bytes second := by
    intro first second h
    rw [bytes_eq, bytes_eq]
    exact encode_lt (String.lt_iff_toList_lt.mp h)
  -- texts are totally ordered, so it is enough that their bytes follow them
  refine ⟨fun h => ?_, hkept⟩
  rcases lt_trichotomy first second with hlt | rfl | hgt
  · exact hlt
  · exact absurd h (List.lt_irrefl _)
  · exact absurd h (List.lt_asymm (hkept hgt))

end Text

/-- The keys of a table strictly increase in the order of their bytes. -/
theorem Table.keys_in_byte_order {β : Type} (table : Table β) :
    table.keys.Pairwise fun first second => Text.bytes first < Text.bytes second := by
  unfold keys
  rw [List.pairwise_map]
  exact table.sorted.imp Text.bytes_lt_iff.mpr

end NfsWatch
