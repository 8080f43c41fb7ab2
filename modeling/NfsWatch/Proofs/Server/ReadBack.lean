import NfsWatch.Proofs.Decode
import NfsWatch.Server.Client
import NfsWatch.Server.Operations
import NfsWatch.Server.State

/-!
# What is encoded reads back

Several forms on the wire stand for one value: ids and expiries may be numbers, channels joined
texts, records arrays of their fields, and most fields may be left out or `null`. Encoding picks one
form of each. The law is that this form decodes to the value that was encoded; it holds of each way
to combine values as soon as it holds of what is combined.

A health state is the one value for which it depends on where the value comes from. `other "dead"`
is written like `dead` and read as that, but no decoder makes it.
-/

namespace NfsWatch

/-- Whatever decodes is read back from its encoding. -/
def ReadsBack {α : Type} (decode : Json → Decoded α) (encode : α → Json) : Prop :=
  ∀ value a, decode value = .ok a → decode (encode a) = .ok a

namespace Decode

/-! ## Numbers -/

theorem unsigned_nat {bits n : Nat} (h : n < Nat.pow 2 bits) : unsigned bits (.nat n) = .ok n := by
  show (if 0 ≤ (n : Int) ∧ (n : Int).toNat < Nat.pow 2 bits then _ else _) = _
  rw [if_pos ⟨Int.natCast_nonneg n, h⟩]
  rfl

theorem word32_nat (word : UInt32) : word32 (.nat word.toNat) = .ok word := by
  unfold word32
  rw [unsigned_nat word.toNat_lt]
  exact congrArg Except.ok UInt32.ofNat_toNat

theorem word64_nat (word : UInt64) : word64 (.nat word.toNat) = .ok word := by
  unfold word64
  rw [unsigned_nat word.toNat_lt]
  exact congrArg Except.ok UInt64.ofNat_toNat

/-! ## Values that may be missing, lists and tables -/

section

variable {α β : Type} {decode : Json → Decoded α} {encode : α → Json}

theorem nullable_option (hread : ∀ a, decode (encode a) = .ok a) (hnull : ∀ a, encode a ≠ .null)
    (value : Option α) : nullable decode (Json.option encode value) = .ok value := by
  cases value with
  | none => rfl
  | some a =>
      show nullable decode (encode a) = _
      unfold nullable
      split
      · rename_i heq
        exact absurd heq (hnull a)
      · rw [hread]
        rfl

/-- If each item reads back as something in view, the list reads back as what is in view of its
items. -/
theorem list_map_view {view seen : α → β} {items : List α}
    (h : ∀ item ∈ items, ∃ again, decode (encode item) = .ok again ∧ view again = seen item) :
    ∃ all, list decode (.arr (items.map encode)) = .ok all ∧ all.map view = items.map seen := by
  show ∃ all, (items.map encode).mapM decode = .ok all ∧ all.map view = items.map seen
  induction items with
  | nil => exact ⟨[], rfl, rfl⟩
  | cons item rest ih =>
      obtain ⟨again, hagain, hview⟩ := h item List.mem_cons_self
      obtain ⟨all, hall, hviews⟩ := ih fun other hmem => h other (List.mem_cons_of_mem item hmem)
      refine ⟨again :: all, ?_, ?_⟩
      · rw [List.map_cons, List.mapM_cons, hagain, hall]
        rfl
      · rw [List.map_cons, List.map_cons, hview, hviews]

theorem list_map (hread : ∀ a, decode (encode a) = .ok a) (items : List α) :
    list decode (.arr (items.map encode)) = .ok items := by
  obtain ⟨all, hall, hitems⟩ := @list_map_view _ _ decode encode id id items
    fun item _ => ⟨item, hread item, rfl⟩
  rw [List.map_id, List.map_id] at hitems
  rw [hall, hitems]

theorem list_strings (texts : List String) : list text (.strings texts) = .ok texts :=
  @list_map _ text Json.str (fun _ => rfl) texts

theorem table_map (hread : ∀ a, decode (encode a) = .ok a) (values : Table α) :
    table decode (.obj (values.entries.map fun entry => (entry.1, encode entry.2))) =
      .ok values := by
  have hentries : ∀ entries : List (String × α),
      (entries.map fun entry => (entry.1, encode entry.2)).mapM
        (fun entry => (decode entry.2).map (entry.1, ·)) = .ok entries := by
    intro entries
    induction entries with
    | nil => rfl
    | cons entry rest ih =>
        rw [List.map_cons, List.mapM_cons, hread, ih]
        rfl
  show (List.mapM _ (values.entries.map _) >>= fun all => Except.ok (Table.ofList all)) = _
  rw [hentries]
  refine congrArg Except.ok (Table.ext_find? fun key => ?_)
  exact Entries.find?_ofList values.sorted key

end

theorem optionalWord_encoded (word : Option UInt64) :
    optionalWord (some (Json.optionalWord word)) = .ok word :=
  nullable_option word64_nat (fun _ => nofun) word

end Decode

/-! ## Clients -/

theorem ClientDetail.decode_encode (client : ClientDetail) :
    decode client.encode = .ok client := by
  have hids : ∀ texts, ids (some (.strings texts)) = .ok texts := Decode.list_strings
  unfold decode encode Decode.record
  simp only [Entries.find?_cons_self, Entries.find?_cons_ne, ne_eq, String.reduceEq,
    not_false_eq_true, hids]
  rfl

/-! ## Channels and sessions -/

theorem Channel.decode_encode (channel : Channel) : decode channel.encode = .ok channel := by
  have hport : 0 ≤ (channel.port.toNat : Int) ∧ (channel.port.toNat : Int) < 65536 :=
    ⟨Int.natCast_nonneg _, Int.ofNat_lt.mpr channel.port.toNat_lt⟩
  unfold decode encode
  simp only [Entries.find?_cons_self, Entries.find?_cons_ne, ne_eq, String.reduceEq,
    not_false_eq_true, Json.nat, if_pos hport, Int.toNat_natCast, UInt16.ofNat_toNat]

theorem Decode.optionalChannels_encoded (channels : Option (List Channel)) :
    optionalChannels (some (Json.optionalChannels channels)) = .ok channels :=
  nullable_option (list_map Channel.decode_encode) (fun _ => nofun) channels

theorem SessionDetail.decode_encode (session : SessionDetail) :
    decode session.encode = .ok session := by
  have hchannels : Decode.orDefault [] (Decode.list Channel.decode)
      (some (.arr (session.channels.map Channel.encode))) = .ok session.channels :=
    Decode.list_map Channel.decode_encode session.channels
  unfold decode encode Decode.record
  simp only [Entries.find?_cons_self, hchannels]
  rfl

/-! ## States -/

theorem AccessMask.decode_encode (mask : AccessMask) : decode mask.encode = .ok mask := by
  unfold decode encode
  rw [Decode.word32_nat]
  rfl

theorem StateDetail.decode_encode (state : StateDetail) : decode state.encode = .ok state := by
  have hmask : ∀ mask : AccessMask,
      Decode.orDefault .none AccessMask.decode (some mask.encode) = .ok mask :=
    AccessMask.decode_encode
  unfold decode encode Decode.record
  simp only [Entries.find?_cons_self, Entries.find?_cons_ne, ne_eq, String.reduceEq,
    not_false_eq_true, hmask]
  rfl

/-! ## Capacity -/

theorem FsStats.decode_encode (stats : FsStats) : decode stats.encode = .ok stats := by
  unfold decode encode Decode.record
  simp only [Entries.find?_cons_self, Entries.find?_cons_ne, ne_eq, String.reduceEq,
    not_false_eq_true, Decode.optionalWord_encoded]
  rfl

/-! ## Counters -/

theorem OperationCount.decode_encode (row : OperationCount) : decode row.encode = .ok row := by
  have hcount : Decode.orDefault none (fun v => (Decode.word64 v).map some)
      (some (.nat row.count.toNat)) = .ok (some row.count) :=
    congrArg (Except.map some) (Decode.word64_nat row.count)
  unfold decode encode Decode.record
  simp only [Entries.find?_cons_self, Entries.find?_cons_ne, ne_eq, String.reduceEq,
    not_false_eq_true, hcount]
  rfl

theorem OperationCounters.decode_encode (counters : OperationCounters) :
    decode counters.encode = .ok counters := by
  have htable : Decode.orDefault .empty (Decode.table Decode.word64)
      (some (.obj (counters.operations.entries.map fun entry =>
        (entry.1, Json.nat entry.2.toNat)))) = .ok counters.operations :=
    Decode.table_map Decode.word64_nat counters.operations
  unfold decode encode Decode.record
  simp only [Entries.find?_cons_self, htable]
  rfl

/-! ## Health -/

namespace HealthState

/-- The state that is read for its own name. -/
def Canonical (state : HealthState) : Prop := ofName state.name = state

theorem canonical_ofName (name : String) : (ofName name).Canonical := by
  unfold Canonical
  by_cases hknown : name = "healthy" ∨ name = "restoring" ∨ name = "missing" ∨ name = "dead"
  · rcases hknown with rfl | rfl | rfl | rfl <;> rfl
  · -- any other name is kept as it is
    have hother : ofName name = .other name := by
      simp only [not_or] at hknown
      simp only [ofName, hknown, if_false]
    rw [hother]
    exact hother

theorem canonical_of_decode {value : Json} {state : HealthState} (h : decode value = .ok state) :
    state.Canonical := by
  unfold decode at h
  cases htext : Decode.text value with
  | error error =>
      rw [htext] at h
      exact nomatch h
  | ok name =>
      rw [htext] at h
      cases h
      exact canonical_ofName name

theorem canonical_of_optional {value : Option Json} {state : HealthState}
    (h : Decode.orDefault unknown decode value = .ok state) : state.Canonical := by
  cases value with
  | none =>
      cases h
      exact canonical_ofName "unknown"
  | some value => exact canonical_of_decode h

theorem decode_encode {state : HealthState} (h : state.Canonical) :
    decode state.encode = .ok state :=
  congrArg Except.ok h

end HealthState

end NfsWatch
