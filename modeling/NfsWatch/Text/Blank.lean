/-!
# Blank — white space around a text

`trim` drops the characters with the Unicode property White_Space from both ends; all of them
lie in the Basic Multilingual Plane. `lower` changes the case of ASCII letters only, so that it
never changes the length of a text.
-/

namespace NfsWatch.Text

/-- The Unicode property White_Space. -/
def isBlank (c : Char) : Bool :=
  let n := c.toNat
  (0x09 ≤ n && n ≤ 0x0D) || n == 0x20 || n == 0x85 || n == 0xA0 || n == 0x1680 ||
    (0x2000 ≤ n && n ≤ 0x200A) || n == 0x2028 || n == 0x2029 || n == 0x202F || n == 0x205F ||
    n == 0x3000

def trimChars (cs : List Char) : List Char :=
  ((cs.dropWhile isBlank).reverse.dropWhile isBlank).reverse

def trim (s : String) : String := String.ofList (trimChars s.toList)

def isBlankText (s : String) : Bool := s.toList.all isBlank

/-- The text with its ASCII capitals as small letters. -/
def lower (s : String) : String := String.ofList (s.toList.map Char.toLower)

theorem dropWhile_eq_nil_iff {p : Char → Bool} {cs : List Char} :
    cs.dropWhile p = [] ↔ ∀ c ∈ cs, p c = true := by
  induction cs with
  | nil => simp
  | cons c cs ih => by_cases h : p c <;> simp [h, ih]

/-- Nothing stays of a text exactly if it is white space only. -/
theorem trimChars_eq_nil_iff {cs : List Char} :
    trimChars cs = [] ↔ ∀ c ∈ cs, isBlank c = true := by
  have hsplit := List.takeWhile_append_dropWhile (p := isBlank) (l := cs)
  constructor
  · intro h
    rw [trimChars, List.reverse_eq_nil_iff, dropWhile_eq_nil_iff] at h
    intro c hc
    rw [← hsplit, List.mem_append] at hc
    rcases hc with hc | hc
    · exact List.all_eq_true.mp (List.all_takeWhile) c hc
    · exact h c (List.mem_reverse.mpr hc)
  · intro h
    rw [trimChars, dropWhile_eq_nil_iff.mpr h]
    rfl

end NfsWatch.Text
