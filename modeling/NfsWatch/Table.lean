/-!
# Table — values under text keys, in byte order

A `Table β` is a finite map from texts to `β`, kept as its list of entries in strictly
increasing key order. Texts are ordered by code points, which is the order of their UTF-8
bytes. The representation is canonical: `Table.ext_find?` says that two tables with the
same look-ups are equal, so equality of tables is equality of maps.

`insert` is a single pass that replaces on collision, so its look-up law
(`find?_insert`) needs no sortedness.
-/

namespace NfsWatch

/-! ## Entry lists -/

namespace Entries

variable {β : Type}

/-- The value under `key`: the first entry with that key decides. -/
def find? (key : String) : List (String × β) → Option β
  | [] => none
  | (k, v) :: rest => if k = key then some v else find? key rest

/-- Puts `value` under `key`, keeping the key order and replacing an older value. -/
def insert (key : String) (value : β) : List (String × β) → List (String × β)
  | [] => [(key, value)]
  | (k, v) :: rest =>
      if key < k then (key, value) :: (k, v) :: rest
      else if key = k then (key, value) :: rest
      else (k, v) :: insert key value rest

def Sorted (entries : List (String × β)) : Prop :=
  entries.Pairwise (fun a b => a.1 < b.1)

instance (entries : List (String × β)) : Decidable (Sorted entries) :=
  inferInstanceAs (Decidable (entries.Pairwise _))

/-- The entries in key order; of several with one key the last one stays. -/
def ofList (entries : List (String × β)) : List (String × β) :=
  entries.foldl (fun table entry => insert entry.1 entry.2 table) []

theorem mem_insert {key : String} {value : β} {entry : String × β}
    {entries : List (String × β)} (h : entry ∈ insert key value entries) :
    entry = (key, value) ∨ entry ∈ entries := by
  induction entries with
  | nil => simpa [insert] using h
  | cons head rest ih =>
      obtain ⟨k, v⟩ := head
      rw [insert] at h
      split at h
      · simpa using h
      · split at h
        · rcases List.mem_cons.mp h with rfl | h
          · exact Or.inl rfl
          · exact Or.inr (List.mem_cons_of_mem _ h)
        · rcases List.mem_cons.mp h with rfl | h
          · exact Or.inr List.mem_cons_self
          · exact (ih h).imp_right (List.mem_cons_of_mem _)

theorem Sorted.insert {entries : List (String × β)} (h : Sorted entries) (key : String)
    (value : β) : Sorted (insert key value entries) := by
  induction entries with
  | nil => simp [Entries.insert, Sorted]
  | cons head rest ih =>
      obtain ⟨k, v⟩ := head
      obtain ⟨hhead, hrest⟩ := List.pairwise_cons.mp h
      rw [Entries.insert]
      split
      · rename_i hlt
        refine List.pairwise_cons.mpr ⟨fun entry hmem => ?_, h⟩
        rcases List.mem_cons.mp hmem with rfl | hmem
        · exact hlt
        · exact Std.lt_trans hlt (hhead entry hmem)
      · split
        · rename_i heq
          subst heq
          exact List.pairwise_cons.mpr ⟨hhead, hrest⟩
        · rename_i hlt hne
          refine List.pairwise_cons.mpr ⟨fun entry hmem => ?_, ih hrest⟩
          rcases mem_insert hmem with rfl | hmem
          · exact Std.lt_of_le_of_ne (Std.not_lt.mp hlt) (Ne.symm hne)
          · exact hhead entry hmem

theorem sorted_ofList (entries : List (String × β)) : Sorted (ofList entries) := by
  suffices h : ∀ table : List (String × β), Sorted table →
      Sorted (entries.foldl (fun table entry => insert entry.1 entry.2 table) table) from
    h [] List.Pairwise.nil
  induction entries with
  | nil => exact fun _ h => h
  | cons entry rest ih => exact fun table h => ih _ (h.insert entry.1 entry.2)

theorem find?_insert (key other : String) (value : β) (entries : List (String × β)) :
    find? other (insert key value entries) =
      if key = other then some value else find? other entries := by
  induction entries with
  | nil => simp [insert, find?]
  | cons head rest ih =>
      obtain ⟨k, v⟩ := head
      rw [insert]
      split
      · simp [find?]
      · split
        · rename_i heq
          subst heq
          simp only [find?]
          split <;> simp_all
        · rename_i hne
          simp only [find?, ih]
          split
          · rename_i hk
            subst hk
            rw [if_neg hne]
          · rfl

theorem find?_eq_none_of_forall_ne {key : String} {entries : List (String × β)}
    (h : ∀ entry ∈ entries, entry.1 ≠ key) : find? key entries = none := by
  induction entries with
  | nil => rfl
  | cons head rest ih =>
      obtain ⟨k, v⟩ := head
      rw [find?, if_neg (h (k, v) List.mem_cons_self)]
      exact ih fun entry hmem => h entry (List.mem_cons_of_mem _ hmem)

/-- In a sorted list the look-up finds every entry. -/
theorem Sorted.find?_eq_some_iff {entries : List (String × β)} (h : Sorted entries)
    {key : String} {value : β} :
    find? key entries = some value ↔ (key, value) ∈ entries := by
  induction entries with
  | nil => simp [find?]
  | cons head rest ih =>
      obtain ⟨k, v⟩ := head
      obtain ⟨hhead, hrest⟩ := List.pairwise_cons.mp h
      rw [find?]
      split
      · rename_i heq
        subst heq
        constructor
        · rintro hv
          cases hv
          exact List.mem_cons_self
        · intro hmem
          rcases List.mem_cons.mp hmem with heq | hmem
          · cases heq
            rfl
          · exact absurd (hhead _ hmem) Std.lt_irrefl
      · rename_i hne
        rw [ih hrest]
        constructor
        · exact List.mem_cons_of_mem _
        · intro hmem
          rcases List.mem_cons.mp hmem with heq | hmem
          · cases heq
            exact absurd rfl hne
          · exact hmem

/-- Sorted lists with the same look-ups are equal. -/
theorem Sorted.ext {first second : List (String × β)} (hfirst : Sorted first)
    (hsecond : Sorted second) (h : ∀ key, find? key first = find? key second) :
    first = second := by
  have hmem : ∀ entry, entry ∈ first ↔ entry ∈ second := fun entry => by
    rw [show entry = (entry.1, entry.2) from rfl, ← hfirst.find?_eq_some_iff,
      ← hsecond.find?_eq_some_iff, h]
  induction first generalizing second with
  | nil =>
      cases second with
      | nil => rfl
      | cons entry rest => exact absurd ((hmem entry).mpr List.mem_cons_self) (by simp)
  | cons a as ih =>
      cases second with
      | nil => exact absurd ((hmem a).mp List.mem_cons_self) (by simp)
      | cons b bs =>
          obtain ⟨ha, has⟩ := List.pairwise_cons.mp hfirst
          obtain ⟨hb, hbs⟩ := List.pairwise_cons.mp hsecond
          have hab : a = b := by
            rcases List.mem_cons.mp ((hmem a).mp List.mem_cons_self) with h1 | h1
            · exact h1
            · rcases List.mem_cons.mp ((hmem b).mpr List.mem_cons_self) with h2 | h2
              · exact h2.symm
              · exact absurd (Std.lt_trans (ha b h2) (hb a h1)) Std.lt_irrefl
          subst hab
          congr 1
          have hrest : ∀ entry, entry ∈ as ↔ entry ∈ bs := fun entry => by
            constructor
            · intro hin
              rcases List.mem_cons.mp ((hmem entry).mp (List.mem_cons_of_mem _ hin)) with h1 | h1
              · exact absurd (h1 ▸ ha entry hin) Std.lt_irrefl
              · exact h1
            · intro hin
              rcases List.mem_cons.mp ((hmem entry).mpr (List.mem_cons_of_mem _ hin)) with h1 | h1
              · exact absurd (h1 ▸ hb entry hin) Std.lt_irrefl
              · exact h1
          refine ih has hbs (fun key => ?_) hrest
          apply Option.ext
          intro value
          rw [Sorted.find?_eq_some_iff has, Sorted.find?_eq_some_iff hbs, hrest]

end Entries

/-! ## Tables -/

/-- A finite map from texts to `β`, as its entries in increasing key order. -/
structure Table (β : Type) where
  entries : List (String × β)
  /-- No key occurs twice, and the order is the byte order. -/
  sorted : Entries.Sorted entries
deriving DecidableEq

namespace Table

variable {β : Type}

def empty : Table β := ⟨[], List.Pairwise.nil⟩

instance : Inhabited (Table β) := ⟨empty⟩

def ofList (entries : List (String × β)) : Table β :=
  ⟨Entries.ofList entries, Entries.sorted_ofList entries⟩

def find? (table : Table β) (key : String) : Option β :=
  Entries.find? key table.entries

def insert (table : Table β) (key : String) (value : β) : Table β :=
  ⟨Entries.insert key value table.entries, table.sorted.insert key value⟩

def filterKeys (table : Table β) (keep : String → Bool) : Table β :=
  ⟨table.entries.filter (fun entry => keep entry.1), table.sorted.filter _⟩

def erase (table : Table β) (key : String) : Table β :=
  table.filterKeys (fun other => other != key)

def keys (table : Table β) : List String := table.entries.map Prod.fst

def values (table : Table β) : List β := table.entries.map Prod.snd

theorem find?_insert (table : Table β) (key other : String) (value : β) :
    (table.insert key value).find? other =
      if key = other then some value else table.find? other :=
  Entries.find?_insert key other value table.entries

theorem find?_eq_some_iff {table : Table β} {key : String} {value : β} :
    table.find? key = some value ↔ (key, value) ∈ table.entries :=
  table.sorted.find?_eq_some_iff

/-- Tables with the same look-ups are equal. -/
theorem ext_find? {first second : Table β} (h : ∀ key, first.find? key = second.find? key) :
    first = second := by
  obtain ⟨entries, hsorted⟩ := first
  obtain ⟨entries', hsorted'⟩ := second
  have := Entries.Sorted.ext hsorted hsorted' h
  subst this
  rfl

theorem find?_filterKeys (table : Table β) (keep : String → Bool) (key : String) :
    (table.filterKeys keep).find? key = if keep key then table.find? key else none := by
  apply Option.ext
  intro value
  rw [find?_eq_some_iff]
  simp only [filterKeys, List.mem_filter]
  split
  · rename_i hkeep
    simp [hkeep, find?_eq_some_iff]
  · rename_i hkeep
    simp [hkeep]

theorem find?_erase (table : Table β) (key other : String) :
    (table.erase key).find? other = if other = key then none else table.find? other := by
  rw [erase, find?_filterKeys]
  by_cases h : other = key <;> simp [h]

end Table

end NfsWatch
