import NfsWatch.Proofs.Number.Numeral
import NfsWatch.Proofs.Server.ReadBack

/-!
# The two forms of a channel

A host may hold colons, so a joined text is split at the last one, and what comes after it never
holds another. `ofText_eq_ok_iff` says which joined texts are read and as which channel. As the
address of a channel is one of them and is read as that channel, no two channels share an address
(`address_injective`); the other texts of the same channel have a sign or leading zeros.
-/

namespace NfsWatch.Channel

open IntegerText

/-- The parts of a text around its last colon. -/
structure AroundLastColon (text before after : String) : Prop where
  joined : text = before ++ ":" ++ after
  last : ':' ∉ after.toList

theorem splitAtLastColon_join {before after : List Char} (hlast : ':' ∉ after) :
    splitAtLastColon (before ++ ':' :: after) = some (before, after) := by
  have hafter : ∀ c ∈ after.reverse, (c != ':') = true := by
    intro c hmem
    refine bne_iff_ne.mpr ?_
    rintro rfl
    exact hlast (List.mem_reverse.mp hmem)
  have hreverse : (before ++ ':' :: after).reverse = after.reverse ++ ':' :: before.reverse := by
    simp
  unfold splitAtLastColon
  rw [hreverse, List.dropWhile_append_of_pos hafter, List.takeWhile_append_of_pos hafter]
  simp

theorem join_of_splitAtLastColon {cs before after : List Char}
    (h : splitAtLastColon cs = some (before, after)) :
    cs = before ++ ':' :: after ∧ ':' ∉ after := by
  have hjoined := List.takeWhile_append_dropWhile (p := (· != ':')) (l := cs.reverse)
  have htaken : ':' ∉ cs.reverse.takeWhile (· != ':') := by
    intro hmem
    have hkept := List.all_eq_true.mp List.all_takeWhile ':' hmem
    exact absurd hkept (by decide)
  unfold splitAtLastColon at h
  generalize cs.reverse.takeWhile (· != ':') = taken at h hjoined htaken
  cases hrest : cs.reverse.dropWhile (· != ':') with
  | nil =>
      rw [hrest] at h
      exact nomatch h
  | cons c rest =>
      have hcolon : c = ':' := by
        have hfirst := List.head?_dropWhile_not (· != ':') cs.reverse
        rw [hrest] at hfirst
        simpa using hfirst
      rw [hrest] at h hjoined
      obtain ⟨rfl, rfl⟩ := Prod.mk.inj (Option.some.inj h)
      refine ⟨?_, fun hmem => htaken (List.mem_reverse.mp hmem)⟩
      rw [← List.reverse_reverse cs, ← hjoined, hcolon]
      simp

theorem aroundLastColon_iff {text before after : String} :
    AroundLastColon text before after ↔
      splitAtLastColon text.toList = some (before.toList, after.toList) := by
  have hjoined : (before ++ ":" ++ after).toList = before.toList ++ ':' :: after.toList := by simp
  constructor
  · rintro ⟨rfl, hlast⟩
    rw [hjoined]
    exact splitAtLastColon_join hlast
  · intro h
    obtain ⟨htext, hlast⟩ := join_of_splitAtLastColon h
    rw [← hjoined, String.toList_inj] at htext
    exact ⟨htext, hlast⟩

/-- A text has one last colon. -/
theorem AroundLastColon.unique {text before after before' after' : String}
    (h : AroundLastColon text before after) (h' : AroundLastColon text before' after') :
    before = before' ∧ after = after' := by
  have hsame := (aroundLastColon_iff.mp h).symm.trans (aroundLastColon_iff.mp h')
  obtain ⟨hbefore, hafter⟩ := Prod.mk.inj (Option.some.inj hsame)
  exact ⟨String.toList_inj.mp hbefore, String.toList_inj.mp hafter⟩

theorem aroundLastColon_numeral (host : String) (numeral : Numeral) :
    AroundLastColon (host ++ ":" ++ numeral.text) host numeral.text where
  joined := rfl
  last := by
    rw [Numeral.text, String.toList_ofList]
    intro hmem
    rcases Numeral.mem_chars hmem with hplus | hdigit
    · exact absurd hplus (by decide)
    · exact absurd hdigit (by decide)

/-! ## Reading a joined text -/

/-- A joined text is read exactly if a numeral within the bound comes after its last colon. -/
theorem ofText_eq_ok_iff {text : String} {channel : Channel} :
    ofText text = .ok channel ↔
      ∃ numeral : Numeral, AroundLastColon text channel.host numeral.text ∧
        numeral.value = channel.port.toNat := by
  constructor
  · intro h
    unfold ofText at h
    split at h
    · exact nomatch h
    · rename_i host port hsplit
      split at h
      · exact nomatch h
      · rename_i n hread
        cases h
        obtain ⟨numeral, rfl, rfl, hle⟩ := readChars_eq_ok_iff.mp hread
        refine ⟨numeral, aroundLastColon_iff.mpr ?_, ?_⟩
        · rw [hsplit, String.toList_ofList, Numeral.text, String.toList_ofList]
        · rw [UInt16.toNat_ofNat', Nat.mod_eq_of_lt (Nat.lt_succ_of_le hle)]
  · rintro ⟨numeral, haround, hvalue⟩
    have hsplit := aroundLastColon_iff.mp haround
    rw [Numeral.text, String.toList_ofList] at hsplit
    have hle : channel.port.toNat ≤ 65535 := Nat.le_of_lt_succ channel.port.toNat_lt
    have hread := readChars_eq_ok_iff.mpr ⟨numeral, rfl, hvalue, hle⟩
    simp only [ofText, hsplit, hread, String.ofList_toList, UInt16.ofNat_toNat]

theorem address_eq (channel : Channel) :
    channel.address = channel.host ++ ":" ++ (Numeral.ofNat channel.port.toNat).text := rfl

theorem ofText_address (channel : Channel) : ofText channel.address = .ok channel := by
  rw [address_eq, ofText_eq_ok_iff]
  exact ⟨_, aroundLastColon_numeral channel.host _, Numeral.value_ofNat channel.port.toNat⟩

/-- No two channels share an address. -/
theorem address_injective : Function.Injective address := by
  intro first second h
  have hread := ofText_address first
  rw [h, ofText_address] at hread
  exact (Except.ok.inj hread).symm

/-- Of the joined texts of a channel its address is the one with a plain numeral. -/
theorem address_eq_iff {channel : Channel} {numeral : Numeral}
    (hvalue : numeral.value = channel.port.toNat) :
    channel.address = channel.host ++ ":" ++ numeral.text ↔ numeral.Plain := by
  rw [← numeral.write_value_iff, hvalue, address_eq]
  constructor
  · intro h
    have haround := h ▸ aroundLastColon_numeral channel.host (.ofNat channel.port.toNat)
    obtain ⟨_, htext⟩ := haround.unique (aroundLastColon_numeral channel.host numeral)
    rw [← Numeral.chars_ofNat]
    exact String.ofList_inj.mp htext
  · intro h
    rw [← Numeral.chars_ofNat] at h
    rw [Numeral.text, Numeral.text, h]

/-! ## Both forms -/

/-- Both forms of a channel are read as the channel, which is written as the object, and no two
channels share an address. A text is read exactly if it has a last colon and what comes after that
is a numeral up to 65535. The host is then what comes before the colon, the port is the value of the
numeral, and the address of the channel is the text exactly if the numeral is plain. -/
theorem channel_forms_agree :
    (∀ (host : String) (port : UInt16),
      decode (.obj [("host", .str host), ("port", .nat port.toNat)]) = .ok ⟨host, port⟩ ∧
      decode (.str (host ++ ":" ++ write port.toNat)) = .ok ⟨host, port⟩ ∧
      encode ⟨host, port⟩ = .obj [("host", .str host), ("port", .nat port.toNat)]) ∧
    Function.Injective address ∧
    (∀ text, (∃ channel, decode (.str text) = .ok channel) ↔
      ∃ host port, AroundLastColon text host port ∧
        ∃ numeral : Numeral, numeral.text = port ∧ numeral.value ≤ 65535) ∧
    ∀ text channel, decode (.str text) = .ok channel →
      ∀ host (numeral : Numeral), AroundLastColon text host numeral.text →
        channel.host = host ∧ channel.port.toNat = numeral.value ∧
          (channel.address = text ↔ numeral.Plain) := by
  refine ⟨?_, address_injective, ?_, ?_⟩
  · intro host port
    exact ⟨decode_encode ⟨host, port⟩, ofText_address ⟨host, port⟩, rfl⟩
  · intro text
    constructor
    · rintro ⟨channel, hread⟩
      obtain ⟨numeral, haround, hvalue⟩ := ofText_eq_ok_iff.mp hread
      refine ⟨channel.host, numeral.text, haround, numeral, rfl, ?_⟩
      rw [hvalue]
      exact Nat.le_of_lt_succ channel.port.toNat_lt
    · rintro ⟨host, _, haround, numeral, rfl, hle⟩
      refine ⟨⟨host, UInt16.ofNat numeral.value⟩, ofText_eq_ok_iff.mpr ⟨numeral, haround, ?_⟩⟩
      rw [UInt16.toNat_ofNat', Nat.mod_eq_of_lt (Nat.lt_succ_of_le hle)]
  · intro text channel hread host numeral haround
    obtain ⟨other, hother, hvalue⟩ := ofText_eq_ok_iff.mp hread
    obtain ⟨rfl, htext⟩ := hother.unique haround
    obtain rfl := Numeral.text_injective htext
    refine ⟨rfl, hvalue.symm, ?_⟩
    rw [haround.joined]
    exact address_eq_iff hvalue

/-- A host with colons, and a port with a sign and a leading zero. -/
theorem signed_port_read :
    decode (.str "fe80::1:+02049") = .ok ⟨"fe80::1", 2049⟩ ∧
      AroundLastColon "fe80::1:+02049" "fe80::1" "+02049" ∧
      address ⟨"fe80::1", 2049⟩ ≠ "fe80::1:+02049" := by
  let numeral : Numeral :=
    ⟨true, ['0', '2', '0', '4', '9'], by decide, List.all_eq_true.mp (by decide)⟩
  have haround : AroundLastColon "fe80::1:+02049" "fe80::1" numeral.text :=
    aroundLastColon_numeral "fe80::1" numeral
  have hread : ofText "fe80::1:+02049" = .ok ⟨"fe80::1", 2049⟩ :=
    ofText_eq_ok_iff.mpr ⟨numeral, haround, rfl⟩
  obtain ⟨_, _, _, hport⟩ := channel_forms_agree
  obtain ⟨_, _, hplain⟩ :=
    hport "fe80::1:+02049" ⟨"fe80::1", 2049⟩ hread "fe80::1" numeral haround
  exact ⟨hread, haround, fun h => nomatch (hplain.mp h).unsigned⟩

end NfsWatch.Channel
