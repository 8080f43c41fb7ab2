import Mathlib.Data.Finset.Card
import NfsWatch.Proofs.Server.Addresses
import NfsWatch.Proofs.Server.ChannelForms

/-!
# The addresses of several sessions

Repetitions are dropped among the addresses, not among the channels. As no two channels share an
address, that comes to the same (`addresses_eq_map`): there is one address for each host and port,
in the order in which the channels occur first. Of further sessions only what is new is added
(`addresses_append`).
-/

namespace NfsWatch

section eraseDups

variable {α β : Type} [DecidableEq α] [DecidableEq β]

theorem eraseDups_map {f : α → β} (hf : Function.Injective f) (items : List α) :
    (items.map f).eraseDups = items.eraseDups.map f := by
  induction items using List.reverseRecOn with
  | nil => rfl
  | append_singleton items last ih =>
      have hmapped : f last ∈ items.map f ↔ last ∈ items := List.mem_map_of_injective hf
      rw [List.map_append, List.map_singleton, eraseDups_concat, eraseDups_concat, ih]
      by_cases hmem : last ∈ items
      · rw [if_pos hmem, if_pos (hmapped.mpr hmem)]
      · rw [if_neg hmem, if_neg fun h => hmem (hmapped.mp h), List.map_append, List.map_singleton]

theorem eraseDups_filter (p : α → Bool) (items : List α) :
    (items.filter p).eraseDups = items.eraseDups.filter p := by
  induction items using List.reverseRecOn with
  | nil => rfl
  | append_singleton items last ih =>
      rw [List.filter_append, eraseDups_concat]
      cases hlast : p last with
      | true =>
          rw [List.filter_cons_of_pos hlast, List.filter_nil, eraseDups_concat, ih]
          by_cases hmem : last ∈ items
          · rw [if_pos hmem, if_pos (List.mem_filter.mpr ⟨hmem, hlast⟩)]
          · rw [if_neg hmem, if_neg fun h => hmem (List.mem_filter.mp h).1, List.filter_append,
              List.filter_cons_of_pos hlast, List.filter_nil]
      | false =>
          have hdropped : ¬ p last = true := Bool.not_eq_true _ ▸ hlast
          rw [List.filter_cons_of_neg hdropped, List.filter_nil, List.append_nil, ih]
          split
          · rfl
          · rw [List.filter_append, List.filter_cons_of_neg hdropped, List.filter_nil,
              List.append_nil]

/-- What occurs first in the second part of a list is what is new there. -/
theorem eraseDups_append_filter (first second : List α) :
    (first ++ second).eraseDups =
      first.eraseDups ++ second.eraseDups.filter fun item => item ∉ first.eraseDups := by
  rw [List.eraseDups_append, List.removeAll, eraseDups_filter]
  refine congrArg _ (List.filter_congr fun item _ => ?_)
  simp [List.mem_eraseDups]

/-- As many items are listed once as there are different ones. -/
theorem ListsOnce.length_eq {all firsts : List α} (h : ListsOnce all firsts) :
    firsts.length = all.toFinset.card := by
  have hsame : all.toFinset = firsts.toFinset := by
    ext item
    rw [List.mem_toFinset, List.mem_toFinset, h.mem_iff]
  rw [hsame, List.toFinset_card_of_nodup h.nodup]

end eraseDups

namespace SessionDetail

/-- The addresses are those of the channels, each channel taken once. -/
theorem addresses_eq_map (sessions : List SessionDetail) :
    addresses sessions =
      ((sessions.flatMap SessionDetail.channels).eraseDups).map Channel.address :=
  eraseDups_map Channel.address_injective _

theorem addresses_append (first second : List SessionDetail) :
    addresses (first ++ second) =
      addresses first ++ (addresses second).filter fun address => address ∉ addresses first := by
  unfold addresses Channel.addresses
  rw [List.flatMap_append, List.map_append, eraseDups_append_filter]

/-- Aggregating sessions lists the address of each of their channels and nothing else, each once:
one for each host and port, in the order in which the channels occur first when the sessions are
read in order. Aggregating further sessions appends those of their addresses that are new. -/
theorem addresses_aggregate (sessions : List SessionDetail) :
    (addresses sessions).Nodup ∧
    (∀ address, address ∈ addresses sessions ↔
      ∃ session ∈ sessions, ∃ channel ∈ session.channels, channel.address = address) ∧
    (addresses sessions).length =
      ((sessions.flatMap SessionDetail.channels).map fun channel =>
        (channel.host, channel.port)).toFinset.card ∧
    (∃ firsts : List Channel, ListsOnce (sessions.flatMap SessionDetail.channels) firsts ∧
      addresses sessions = firsts.map Channel.address) ∧
    ∀ more, addresses (sessions ++ more) =
      addresses sessions ++
        (addresses more).filter fun address => address ∉ addresses sessions := by
  have hlists := listsOnce_addresses sessions
  refine ⟨hlists.nodup, ?_, ?_, ?_, addresses_append sessions⟩
  · intro address
    rw [hlists.mem_iff]
    simp only [List.mem_map, List.mem_flatMap]
    constructor
    · rintro ⟨channel, ⟨session, hsession, hchannel⟩, rfl⟩
      exact ⟨session, hsession, channel, hchannel, rfl⟩
    · rintro ⟨session, hsession, channel, hchannel, rfl⟩
      exact ⟨channel, ⟨session, hsession, hchannel⟩, rfl⟩
  · have hpair : Function.Injective fun channel : Channel => (channel.host, channel.port) := by
      rintro ⟨host, port⟩ ⟨host', port'⟩ h
      obtain ⟨rfl, rfl⟩ := Prod.mk.inj h
      rfl
    rw [← (listsOnce_eraseDups _).length_eq, eraseDups_map hpair, addresses_eq_map,
      List.length_map, List.length_map]
  · exact ⟨_, listsOnce_eraseDups _, addresses_eq_map sessions⟩

end SessionDetail

end NfsWatch
