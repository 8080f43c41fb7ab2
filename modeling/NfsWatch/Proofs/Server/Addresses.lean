import Mathlib.Data.List.Nodup
import Mathlib.Data.List.Induction
import NfsWatch.Server.Channel

/-!
# Each address once

Dropping repetitions keeps the first occurrence of each item (`listsOnce_eraseDups`), so the
addresses of sessions are all addresses of their channels, each once, in the order in which they
occur first.
-/

namespace NfsWatch

/-- `firsts` are the items of `all`, each once, in the order in which they occur first. -/
structure ListsOnce {α : Type} [DecidableEq α] (all firsts : List α) : Prop where
  nodup : firsts.Nodup
  mem_iff : ∀ item, item ∈ firsts ↔ item ∈ all
  inOrder : firsts.Pairwise fun earlier later => all.idxOf earlier < all.idxOf later

section eraseDups

variable {α : Type} [DecidableEq α]

theorem eraseDups_concat (items : List α) (last : α) :
    (items ++ [last]).eraseDups =
      if last ∈ items then items.eraseDups else items.eraseDups ++ [last] := by
  rw [List.eraseDups_append]
  by_cases hmem : last ∈ items
  · simp [List.removeAll, hmem]
  · simp [List.removeAll, hmem, List.eraseDups_cons]

theorem eraseDups_sublist (items : List α) : items.eraseDups.Sublist items := by
  induction items using List.reverseRecOn with
  | nil => exact List.Sublist.refl []
  | append_singleton items last ih =>
      rw [eraseDups_concat]
      split
      · exact ih.trans (List.sublist_append_left items [last])
      · exact ih.append_right [last]

/-- The item that comes last is the last one to occur first, if it is new. -/
theorem listsOnce_eraseDups (items : List α) : ListsOnce items items.eraseDups := by
  induction items using List.reverseRecOn with
  | nil => exact ⟨List.nodup_nil, fun item => by simp, List.Pairwise.nil⟩
  | append_singleton items last ih =>
      -- what occurred before keeps the position at which it occurred first
      have hkept : ∀ item ∈ items.eraseDups, (items ++ [last]).idxOf item = items.idxOf item := by
        intro item hmem
        exact List.idxOf_append_of_mem ((ih.mem_iff item).mp hmem)
      have hinOrder : items.eraseDups.Pairwise fun earlier later =>
          (items ++ [last]).idxOf earlier < (items ++ [last]).idxOf later := by
        refine ih.inOrder.imp_of_mem ?_
        intro earlier later hearlier hlater hlt
        rwa [hkept earlier hearlier, hkept later hlater]
      rw [eraseDups_concat]
      by_cases hmem : last ∈ items
      · rw [if_pos hmem]
        refine ⟨ih.nodup, ?_, hinOrder⟩
        intro item
        rw [ih.mem_iff, List.mem_append, List.mem_singleton]
        constructor
        · exact Or.inl
        · rintro (hold | rfl)
          · exact hold
          · exact hmem
      · rw [if_neg hmem]
        have hnew : last ∉ items.eraseDups := by
          intro hold
          exact hmem ((ih.mem_iff last).mp hold)
        refine ⟨?_, ?_, ?_⟩
        · rw [← List.concat_eq_append]
          exact ih.nodup.concat hnew
        · intro item
          rw [List.mem_append, List.mem_append, ih.mem_iff]
        · refine List.pairwise_append.mpr ⟨hinOrder, List.pairwise_singleton .., ?_⟩
          intro earlier hearlier later hlater
          rw [List.mem_singleton] at hlater
          subst hlater
          rw [hkept earlier hearlier, List.idxOf_append_of_notMem hmem]
          have hlt := List.idxOf_lt_length_of_mem ((ih.mem_iff earlier).mp hearlier)
          omega

end eraseDups

/-- The addresses of sessions are those of their channels, each once, in the order of first
occurrence. -/
theorem SessionDetail.listsOnce_addresses (sessions : List SessionDetail) :
    ListsOnce ((sessions.flatMap SessionDetail.channels).map Channel.address)
      (SessionDetail.addresses sessions) :=
  listsOnce_eraseDups _

end NfsWatch
