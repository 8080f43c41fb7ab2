/-!
# Parts — a text between separators

`parts` cuts a text at its separators, so that there is always one part more than separators and
no part holds one.
-/

namespace NfsWatch.Url

/-- The parts of a text between separators. -/
def parts (isSeparator : Char → Bool) : List Char → List (List Char)
  | [] => [[]]
  | c :: cs =>
      if isSeparator c then [] :: parts isSeparator cs
      else
        match parts isSeparator cs with
        | [] => [[c]]
        | part :: rest => (c :: part) :: rest

theorem parts_eq_singleton {isSeparator : Char → Bool} {cs : List Char}
    (h : ∀ c ∈ cs, isSeparator c = false) : parts isSeparator cs = [cs] := by
  induction cs with
  | nil => rfl
  | cons c cs ih =>
      have hc := h c List.mem_cons_self
      rw [parts, if_neg (by simp [hc]), ih fun d hd => h d (List.mem_cons_of_mem c hd)]

/-- The first separator ends the first part. -/
theorem parts_append {isSeparator : Char → Bool} {cs : List Char} {separator : Char}
    (h : ∀ c ∈ cs, isSeparator c = false) (hseparator : isSeparator separator = true)
    (rest : List Char) :
    parts isSeparator (cs ++ separator :: rest) = cs :: parts isSeparator rest := by
  induction cs with
  | nil => rw [List.nil_append, parts, if_pos hseparator]
  | cons c cs ih =>
      have hc := h c List.mem_cons_self
      rw [List.cons_append, parts, if_neg (by simp [hc]),
        ih fun d hd => h d (List.mem_cons_of_mem c hd)]

end NfsWatch.Url
