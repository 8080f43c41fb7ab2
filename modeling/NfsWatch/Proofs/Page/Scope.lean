import NfsWatch.Page.Scope
import NfsWatch.Proofs.Poll.Live

/-!
# What a scope holds

The loop of a scope moves on its own and the target stays; pointing the scope at another target
exchanges the loop for one that has not run yet. `Holds` is for what is true of whatever loop the
scope holds: each way in which a scope changes keeps it if it is true of new loops and the loops
keep it themselves.
-/

namespace NfsWatch.Scope

variable {K P V C : Type}

/-- The loop of a scope moves. -/
inductive Moves (scope : Scope K P V C) : Scope K P V C → Prop
  | loop {key : K} {live after : LiveLoop P V C} :
      scope.current = some (key, live) → live.Moves after → Moves scope ⟨some (key, after)⟩

/-- What a scope holds serves its target. -/
def Holds (serves : K → LiveLoop P V C → Prop) (scope : Scope K P V C) : Prop :=
  ∀ key live, scope.current = some (key, live) → serves key live

variable {serves : K → LiveLoop P V C → Prop} {scope after : Scope K P V C}

theorem Moves.target_eq (h : scope.Moves after) : after.target = scope.target := by
  cases h with
  | loop hcurrent _ => simp [target, hcurrent]

theorem Holds.moves (h : scope.Holds serves)
    (hkeeps : ∀ {key live after}, serves key live → live.Moves after → serves key after)
    (hmoves : scope.Moves after) : after.Holds serves := by
  cases hmoves with
  | loop hcurrent hmoves =>
      intro key live hafter
      cases hafter
      exact hkeeps (h _ _ hcurrent) hmoves

@[simp] theorem acknowledge_target (scope : Scope K P V C) :
    scope.acknowledge.target = scope.target := by
  simp [acknowledge, update, target, Function.comp_def]

theorem Holds.acknowledge (h : scope.Holds serves)
    (hkeeps : ∀ {key live}, serves key live → serves key live.acknowledge) :
    scope.acknowledge.Holds serves := by
  intro key live hafter
  obtain ⟨entry, hcurrent, heq⟩ := Option.map_eq_some_iff.mp hafter
  obtain ⟨rfl, rfl⟩ := Prod.mk.inj heq
  exact hkeeps (h _ _ hcurrent)

theorem Holds.acknowledge_same {monitor : K → Monitor P V C} (h : scope.Holds serves)
    (hruns : ∀ {key live}, serves key live → live.Runs (monitor key))
    (hnone : scope.hasUnseen = false) : scope.acknowledge = scope := by
  obtain ⟨current⟩ := scope
  cases current with
  | none => rfl
  | some entry =>
      have hunseen : entry.2.hasUnseen = false := by simpa [hasUnseen, live] using hnone
      have hsame := (hruns (h entry.1 entry.2 rfl)).acknowledge_same hunseen
      simp [Scope.acknowledge, update, hsame]

section retarget

variable [DecidableEq K]

@[simp] theorem retarget_target (scope : Scope K P V C) (target : Option K)
    (spawn : K → LiveLoop P V C) : (scope.retarget target spawn).1.target = target := by
  unfold retarget
  split
  · assumption
  · cases target <;> rfl

/-- A scope that is on its target stays as it is. -/
theorem retarget_same {scope : Scope K P V C} {target : Option K} (h : scope.target = target)
    (spawn : K → LiveLoop P V C) : scope.retarget target spawn = (scope, false) :=
  if_pos h

/-- A scope that is not on its target moves there, to a new loop. -/
theorem retarget_other {scope : Scope K P V C} {target : Option K} (h : scope.target ≠ target)
    (spawn : K → LiveLoop P V C) :
    scope.retarget target spawn = (⟨target.map fun key => (key, spawn key)⟩, true) :=
  if_neg h

theorem retarget_moved_iff {scope : Scope K P V C} {target : Option K}
    {spawn : K → LiveLoop P V C} :
    (scope.retarget target spawn).2 = true ↔ scope.target ≠ target := by
  by_cases h : scope.target = target
  · simp [retarget_same h, h]
  · simp [retarget_other h, h]

theorem Holds.retarget (h : scope.Holds serves) (target : Option K) {spawn : K → LiveLoop P V C}
    (hspawn : ∀ key, serves key (spawn key)) : (scope.retarget target spawn).1.Holds serves := by
  unfold Scope.retarget
  split
  · exact h
  · intro key live hafter
    obtain ⟨picked, _, heq⟩ := Option.map_eq_some_iff.mp hafter
    obtain ⟨rfl, rfl⟩ := Prod.mk.inj heq
    exact hspawn picked

end retarget

end NfsWatch.Scope
