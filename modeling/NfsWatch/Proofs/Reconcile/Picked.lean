import NfsWatch.Proofs.Reconcile.Reported

/-!
# What becomes of a pick

One equation for each of the three cases of a pass over the list: the pick is listed, it is gone,
or there was none. In the last case the first entry is picked whichever rule the selection follows,
so the two rules differ only for a pick that is gone. Hence one pass over a list settles a pick
under the one rule and two passes settle it under the other.
-/

namespace NfsWatch.Selection

variable {α : Type} [DecidableEq α] {selection : Selection α} {items : List α} {value : α}

/-! ## A pass over the list -/

theorem reconcile_listed (h : selection.selected = some value) (hlisted : value ∈ items) :
    selection.reconcile items = (selection, false) := by
  simp [reconcile, h, hlisted]

theorem reconcile_gone (h : selection.selected = some value) (hgone : value ∉ items) :
    (selection.reconcile items).1.selected =
      if selection.reselect = .immediate then items.head? else none := by
  cases hreselect : selection.reselect <;> simp [reconcile, h, hgone, hreselect]

theorem reconcile_none (h : selection.selected = none) :
    (selection.reconcile items).1.selected = items.head? := by
  simp [reconcile, h]

@[simp] theorem reconcile_reselect (selection : Selection α) (items : List α) :
    (selection.reconcile items).1.reselect = selection.reselect := by
  unfold reconcile
  split
  · split
    · rfl
    · split <;> rfl
  · rfl

/-- Whatever is picked after a pass is listed. -/
theorem mem_of_reconcile (h : (selection.reconcile items).1.selected = some value) :
    value ∈ items := by
  cases hpicked : selection.selected with
  | none =>
      rw [reconcile_none hpicked] at h
      exact List.mem_of_head? h
  | some current =>
      by_cases hlisted : current ∈ items
      · rw [reconcile_listed hpicked hlisted, hpicked] at h
        exact Option.some.inj h ▸ hlisted
      · rw [reconcile_gone hpicked hlisted] at h
        split at h
        · exact List.mem_of_head? h
        · exact nomatch h

/-- Nothing is picked after a pass only if nothing is listed, or if the pick went and is to be
replaced in the next pass. -/
theorem reconcile_eq_none (h : (selection.reconcile items).1.selected = none) :
    items = [] ∨ selection.reselect = .nextPass ∧
      ∃ gone, selection.selected = some gone ∧ gone ∉ items := by
  cases hpicked : selection.selected with
  | none =>
      rw [reconcile_none hpicked] at h
      exact Or.inl (List.head?_eq_none_iff.mp h)
  | some current =>
      by_cases hlisted : current ∈ items
      · rw [reconcile_listed hpicked hlisted, hpicked] at h
        exact nomatch h
      · rw [reconcile_gone hpicked hlisted] at h
        cases hreselect : selection.reselect with
        | immediate =>
            rw [hreselect, if_pos rfl] at h
            exact Or.inl (List.head?_eq_none_iff.mp h)
        | nextPass => exact Or.inr ⟨rfl, current, rfl, hlisted⟩

theorem reconcile_moved : (selection.reconcile items).2 = true ↔
    (selection.reconcile items).1.selected ≠ selection.selected := by
  refine ⟨reconcile_visible, fun hmoved => ?_⟩
  by_contra hquiet
  rw [reconcile_quiet (Bool.eq_false_iff.mpr hquiet)] at hmoved
  exact hmoved rfl

/-! ## Passes over the same list -/

/-- A further pass over this list leaves the pick alone. -/
def Settled (selection : Selection α) (items : List α) : Prop :=
  selection.reconcile items = (selection, false)

theorem settled_nil (h : selection.selected = none) : selection.Settled [] := by
  obtain ⟨selected, reselect⟩ := selection
  subst h
  rfl

/-- A pass settles the pick, unless the pick went and is to be replaced in the next pass. -/
theorem reconcile_settles (selection : Selection α) (items : List α) :
    (selection.reconcile items).1.Settled items ∨
      selection.reselect = .nextPass ∧ (selection.reconcile items).1.selected = none ∧
        ∃ gone, selection.selected = some gone ∧ gone ∉ items := by
  cases hpicked : (selection.reconcile items).1.selected with
  | some value => exact Or.inl (reconcile_listed hpicked (mem_of_reconcile hpicked))
  | none =>
      rcases reconcile_eq_none hpicked with rfl | ⟨hnext, hgone⟩
      · exact Or.inl (settled_nil hpicked)
      · exact Or.inr ⟨hnext, rfl, hgone⟩

/-- Two passes settle it under either rule. -/
theorem reconcile_again_settles (selection : Selection α) (items : List α) :
    ((selection.reconcile items).1.reconcile items).1.Settled items := by
  rcases reconcile_settles selection items with hsettled | ⟨_, hnone, _⟩
  · rw [show (selection.reconcile items).1.reconcile items = _ from hsettled]
    exact hsettled
  · rcases reconcile_settles (selection.reconcile items).1 items with hsettled | ⟨_, _, _, hsome, _⟩
    · exact hsettled
    · exact nomatch hnone.symm.trans hsome

/-! ## Operator input -/

theorem select_listed (h : value ∈ items) :
    (selection.select value items).1.selected = some value := by
  by_cases hpicked : selection.selected = some value <;> simp [select, h, hpicked]

theorem select_unlisted (h : value ∉ items) :
    selection.select value items = (selection, false) := by
  simp [select, h]

@[simp] theorem select_reselect (selection : Selection α) (value : α) (items : List α) :
    (selection.select value items).1.reselect = selection.reselect := by
  unfold select
  split <;> rfl

theorem select_moved : (selection.select value items).2 = true ↔
    value ∈ items ∧ selection.selected ≠ some value := by
  unfold select
  split
  · rename_i hkept
    simpa [imp_iff_not_or] using hkept
  · rename_i hmoves
    simpa [not_or] using hmoves

end NfsWatch.Selection
