import NfsWatch.Server.Filesystem

/-!
# Entries of objects, and what a decoder that succeeded has read

Objects list their entries in key order, so an entry is found under its key and only there; that
survives collecting entries anew, leaving out those that are read as fields. Decoders read one part
after the other, and each part of what they give comes from one that succeeded on its own.
-/

namespace NfsWatch

/-! ## Look-ups -/

namespace Entries

variable {β : Type} {key : String} {value : β}

theorem find?_cons_self {rest : List (String × β)} :
    find? key ((key, value) :: rest) = some value := if_pos rfl

theorem find?_cons_ne {other : String} {rest : List (String × β)} (h : other ≠ key) :
    find? key ((other, value) :: rest) = find? key rest := if_neg h

/-- The first key of sorted entries does not occur again. -/
theorem Sorted.find?_first {rest : List (String × β)} (h : Sorted ((key, value) :: rest)) :
    find? key rest = none := by
  refine find?_eq_none_of_forall_ne ?_
  intro entry hmem heq
  exact absurd (heq ▸ (List.pairwise_cons.mp h).1 entry hmem) Std.lt_irrefl

/-- Of entries collected after others, those with different keys all stay and win. -/
theorem find?_ofList_append (first : List (String × β)) {second : List (String × β)}
    (h : Sorted second) (key : String) :
    find? key (ofList (first ++ second)) = (find? key second).or (find? key (ofList first)) := by
  suffices hfold : ∀ table : List (String × β),
      find? key (second.foldl (fun table entry => insert entry.1 entry.2 table) table) =
        (find? key second).or (find? key table) by
    unfold ofList
    rw [List.foldl_append]
    exact hfold _
  induction second with
  | nil => exact fun _ => rfl
  | cons entry rest ih =>
      obtain ⟨first, value⟩ := entry
      intro table
      rw [List.foldl_cons, ih (List.pairwise_cons.mp h).2, find?_insert]
      by_cases hkey : first = key
      · subst hkey
        simp [find?, h.find?_first]
      · simp [find?, hkey]

/-- Collecting entries with different keys loses none. -/
theorem find?_ofList {entries : List (String × β)} (h : Sorted entries) (key : String) :
    find? key (ofList entries) = find? key entries :=
  (find?_ofList_append [] h key).trans Option.or_none

/-- What is not among the entries is not found once they are collected. -/
theorem find?_ofList_eq_none {entries : List (String × β)}
    (h : ∀ entry ∈ entries, entry.1 ≠ key) : find? key (ofList entries) = none := by
  suffices hfold : ∀ table : List (String × β), find? key table = none →
      find? key (entries.foldl (fun table entry => insert entry.1 entry.2 table) table) = none from
    hfold [] rfl
  induction entries with
  | nil => exact fun _ hnone => hnone
  | cons entry rest ih =>
      intro table hnone
      rw [List.foldl_cons]
      refine ih (fun other hmem => h other (List.mem_cons_of_mem entry hmem)) _ ?_
      rw [find?_insert, if_neg (h entry List.mem_cons_self), hnone]

end Entries

/-! ## Decoders that succeeded -/

namespace Decode

/-- The entries left over are those whose key is no field. -/
theorem find?_unmodelled (fields : List String) {entries : List (String × Json)}
    (h : Entries.Sorted entries) (key : String) :
    (unmodelled fields entries).find? key =
      if key ∈ fields then none else Entries.find? key entries := by
  have hleft := Table.find?_filterKeys ⟨entries, h⟩ (fun key => key ∉ fields) key
  have hsorted := (Table.filterKeys ⟨entries, h⟩ fun key => key ∉ fields).sorted
  refine (Entries.find?_ofList hsorted key).trans (hleft.trans ?_)
  by_cases hkey : key ∈ fields <;> simp [hkey, Table.find?]

theorem bind_eq_ok {α β : Type} {first : Decoded α} {rest : α → Decoded β} {value : β}
    (h : first >>= rest = .ok value) : ∃ a, first = .ok a ∧ rest a = .ok value := by
  cases first with
  | ok a => exact ⟨a, rfl, h⟩
  | error error => exact nomatch h

variable {α : Type} {decode : Json → Decoded α}

/-- What holds of whatever decodes holds of all that a list of it gives. -/
theorem forall_of_mapM {P : α → Prop} (hitem : ∀ {value a}, decode value = .ok a → P a)
    {items : List Json} {all : List α} (h : items.mapM decode = .ok all) : ∀ a ∈ all, P a := by
  induction items generalizing all with
  | nil =>
      cases h
      exact fun a hmem => nomatch hmem
  | cons item rest ih =>
      rw [List.mapM_cons] at h
      obtain ⟨first, hfirst, h⟩ := bind_eq_ok h
      obtain ⟨others, hothers, h⟩ := bind_eq_ok h
      cases h
      exact List.forall_mem_cons.mpr ⟨hitem hfirst, ih hothers⟩

theorem forall_of_list {P : α → Prop} (hitem : ∀ {value a}, decode value = .ok a → P a)
    {value : Option Json} {all : List α} (h : orDefault [] (list decode) value = .ok all) :
    ∀ a ∈ all, P a := by
  cases value with
  | none =>
      cases h
      exact fun a hmem => nomatch hmem
  | some value =>
      cases value with
      | arr items => exact forall_of_mapM hitem h
      | _ => exact nomatch h

/-- A record comes as an object or as an array. -/
theorem record_cases {name : String} {count : Nat} {ofEntries : List (String × Json) → Decoded α}
    {ofItems : List Json → Decoded α} {value : Json} {a : α}
    (h : record name count ofEntries ofItems value = .ok a) :
    (∃ entries, ofEntries entries = .ok a) ∨ ∃ items, ofItems items = .ok a := by
  cases value with
  | obj entries => exact Or.inl ⟨entries, h⟩
  | arr items =>
      obtain ⟨read, hread, hlength⟩ := bind_eq_ok h
      refine Or.inr ⟨items, ?_⟩
      split at hlength
      · exact nomatch hlength
      · rw [hread]
        exact hlength
  | _ => exact nomatch h

end Decode

end NfsWatch
