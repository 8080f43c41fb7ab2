import Mathlib.Data.List.Forall2
import NfsWatch.Proofs.Url.Percent
import NfsWatch.Url.Basic

/-!
# Ids as segments of a path

The texts of an endpoint are appended to the base one by one, and each is to become one segment
that decodes to it. A text that names a directory is left out instead, and tabs and line breaks in
a text are lost. Every other text is plain and arrives: `carries_iff` says that these are the only
ones that do not, for any base but one whose path is `//`. Plain texts take different endpoints of
one base to different targets.
-/

namespace NfsWatch.Url

/-! ## Plain texts -/

/-- A text that is kept whole as a segment: it names no directory, and there are no tabs and no
line breaks in it. -/
def Plain (text : String) : Prop :=
  text ≠ "." ∧ text ≠ ".." ∧ ∀ c ∈ text.toList, isIgnored c = false

-- only the characters of the text are gone through
instance (text : String) : Decidable (Plain text) :=
  haveI : Decidable (∀ c ∈ text.toList, isIgnored c = false) := List.decidableBAll _ _
  inferInstanceAs (Decidable (_ ∧ _))

/-- What is encoded in a segment that is given by itself. -/
def inOwnSegment (special : Bool) : Char → Bool :=
  if special then inSpecialSegment else inSegment

/-- A plain text as a segment. -/
def segment (special : Bool) (text : String) : String :=
  String.ofList (encode (inOwnSegment special) text.toList)

variable {special : Bool}

theorem inOwnSegment_percent (special : Bool) : inOwnSegment special '%' = true := by
  cases special <;> decide

theorem inOwnSegment_slash (special : Bool) : inOwnSegment special '/' = true := by
  cases special <;> decide

theorem segment_inj {first second : String} :
    segment special first = segment special second ↔ first = second := by
  unfold segment
  rw [String.ofList_inj, encode_inj (inOwnSegment_percent special), String.toList_inj]

/-- A plain text is read back. -/
theorem decode_segment (text : String) :
    (decode (segment special text).toList).toByteArray = text.toUTF8 := by
  unfold segment
  rw [String.toList_ofList, decode_encode (inOwnSegment_percent special)]
  exact String.utf8Encode_toList

/-! ## Appending one text -/

theorem appendable_of_ne {path : Path} (h : path ≠ [""]) : appendable path = path := if_neg h

theorem appendable_length_le (path : Path) : (appendable path).length ≤ path.length := by
  by_cases h : path = [""]
  · rw [h]
    exact Nat.zero_le 1
  · exact Nat.le_of_eq (by rw [appendable_of_ne h])

theorem push_named {text : String} (h : text = "." ∨ text = "..") (path : Path) :
    push special path text = path := if_pos h

theorem push_text {text : String} (h : ¬ (text = "." ∨ text = "..")) (path : Path) :
    push special path text =
      addSegment (appendable path) (encode (inOwnSegment special) (withoutIgnored text.toList))
        true := if_neg h

theorem push_plain {text : String} (h : Plain text) (path : Path) :
    push special path text = appendable path ++ [segment special text] := by
  obtain ⟨hhere, habove, hignored⟩ := h
  have hwhole : withoutIgnored text.toList = text.toList :=
    List.filter_eq_self.mpr fun c hc => by rw [hignored c hc, Bool.not_false]
  have hpercent := inOwnSegment_percent special
  rw [push_text (not_or.mpr ⟨hhere, habove⟩), hwhole, addSegment, if_neg, if_neg]
  · rfl
  · intro hdot
    exact hhere (String.toList_inj.mp (isHere_encode hpercent hdot))
  · intro hdots
    exact habove (String.toList_inj.mp (isAbove_encode hpercent hdots))

/-! ## Appending any text -/

theorem above_cases (path : Path) : above path = path ∨ (above path).length < path.length := by
  unfold above
  split
  · exact Or.inl rfl
  · cases path with
    | nil => exact Or.inl rfl
    | cons first rest => exact Or.inr (by simp)

theorem addSegment_cases (path : Path) (cs : List Char) :
    (addSegment path cs true).length ≤ path.length ∨
      ∃ last, addSegment path cs true = path ++ [last] ∧ (last = "" ∨ last = String.ofList cs) := by
  unfold addSegment
  split
  · rw [if_pos rfl]
    rcases above_cases path with habove | hshorter
    · exact Or.inr ⟨"", by rw [habove], Or.inl rfl⟩
    · exact Or.inl (by rw [List.length_append]; exact hshorter)
  · split
    · exact Or.inr ⟨"", rfl, Or.inl rfl⟩
    · exact Or.inr ⟨String.ofList cs, rfl, Or.inr rfl⟩

/-- An empty segment stands for no text but the empty one. -/
theorem plain_of_empty {text : String}
    (h : (decode "".toList).toByteArray = text.toUTF8) : Plain text := by
  have htext : text = "" := by
    rw [← String.toByteArray_inj, ← String.toUTF8_eq_toByteArray, ← h, String.toList_empty, decode]
    rfl
  rw [htext]
  decide

/-- A segment that decodes to the text has all its characters, so none of them was left out. -/
theorem plain_of_decode {text : String} (hnamed : ¬ (text = "." ∨ text = ".."))
    (h : (decode (encode (inOwnSegment special) (withoutIgnored text.toList))).toByteArray =
      text.toUTF8) : Plain text := by
  obtain ⟨hhere, habove⟩ := not_or.mp hnamed
  rw [decode_encode (inOwnSegment_percent special), String.toUTF8_eq_toByteArray] at h
  change (withoutIgnored text.toList).utf8Encode = _ at h
  rw [← String.toByteArray_ofList, String.toByteArray_inj] at h
  refine ⟨hhere, habove, fun c hc => ?_⟩
  rw [← h, String.toList_ofList] at hc
  simpa using (List.mem_filter.mp hc).2

/-- A text makes the path no longer, or it becomes one more segment, and this decodes to the text
only if it is plain. -/
theorem push_cases (special : Bool) (path : Path) (text : String) :
    (push special path text).length ≤ path.length ∨
      ∃ last, push special path text = path ++ [last] ∧
        ((decode last.toList).toByteArray = text.toUTF8 → Plain text) := by
  by_cases hnamed : text = "." ∨ text = ".."
  · exact Or.inl (Nat.le_of_eq (by rw [push_named hnamed]))
  rw [push_text hnamed]
  rcases addSegment_cases (appendable path)
    (encode (inOwnSegment special) (withoutIgnored text.toList)) with hshort | ⟨last, hgrown, hlast⟩
  · exact Or.inl (Nat.le_trans hshort (appendable_length_le path))
  by_cases hroot : path = [""]
  · refine Or.inl ?_
    rw [hgrown, hroot]
    exact Nat.le_refl 1
  rw [appendable_of_ne hroot] at hgrown ⊢
  refine Or.inr ⟨last, hgrown, ?_⟩
  rcases hlast with rfl | rfl
  · exact plain_of_empty
  · rw [String.toList_ofList]
    exact plain_of_decode hnamed

/-! ## Appending several texts -/

/-- Behind a path that is more than a slash, plain texts become a segment each. -/
theorem foldl_push_plain {texts : List String} (hplain : ∀ text ∈ texts, Plain text) {path : Path}
    (hempty : path ≠ []) (hroot : path ≠ [""]) :
    texts.foldl (push special) path = path ++ texts.map (segment special) := by
  induction texts generalizing path with
  | nil => exact (List.append_nil path).symm
  | cons text texts ih =>
      obtain ⟨htext, htexts⟩ := List.forall_mem_cons.mp hplain
      have hmore : path ++ [segment special text] ≠ [""] := by
        intro h
        have hlength := congrArg List.length h
        exact hempty (by simpa using hlength)
      rw [List.foldl_cons, push_plain htext, appendable_of_ne hroot, ih htexts (by simp) hmore,
        List.append_assoc]
      rfl

/-- Each of the segments decodes to its text only if that is plain. -/
def ShowPlain (texts segments : List String) : Prop :=
  List.Forall₂ (fun text last => (decode last.toList).toByteArray = text.toUTF8 → Plain text)
    texts segments

theorem ShowPlain.plain {texts segments : List String} (h : ShowPlain texts segments)
    (hdecoded : segments.map (fun last => (decode last.toList).toByteArray) =
      texts.map String.toUTF8) : ∀ text ∈ texts, Plain text := by
  induction h with
  | nil => exact fun _ hmem => nomatch hmem
  | cons hfirst _ ih =>
      obtain ⟨hlast, hmore⟩ := List.cons.inj hdecoded
      exact List.forall_mem_cons.mpr ⟨hfirst hlast, ih hmore⟩

/-- Several texts make the path shorter than they should, or they become a segment each. -/
theorem foldl_push_cases (special : Bool) (texts : List String) (path : Path) :
    (texts.foldl (push special) path).length < path.length + texts.length ∨
      ∃ segments, texts.foldl (push special) path = path ++ segments ∧
        ShowPlain texts segments := by
  induction texts generalizing path with
  | nil => exact Or.inr ⟨[], (List.append_nil path).symm, .nil⟩
  | cons text texts ih =>
      rw [List.foldl_cons, List.length_cons]
      have hrest := ih (push special path text)
      rcases push_cases special path text with hshort | ⟨last, hgrown, hlast⟩
      · refine Or.inl ?_
        rcases hrest with hless | ⟨segments, hsegments, hshown⟩
        · omega
        · rw [hsegments, List.length_append, ← hshown.length_eq]
          omega
      · rw [hgrown] at hrest ⊢
        rcases hrest with hless | ⟨segments, hsegments, hshown⟩
        · rw [List.length_append, List.length_singleton] at hless
          exact Or.inl (by omega)
        · refine Or.inr ⟨last :: segments, ?_, .cons hlast hshown⟩
          rw [hsegments, List.append_assoc]
          rfl

/-! ## Appending an endpoint -/

/-- A path without an empty segment at its end. -/
def directory (path : Path) : Path := if path.getLast? = some "" then path.dropLast else path

/-- What an endpoint is appended to. -/
def root (path : Path) : Path :=
  appendable (if 1 < path.length ∧ path.getLast? = some "" then path.dropLast else path)

/-- That is the path without an empty segment at its end, but of the path `//` nothing is left. -/
theorem root_eq {path : Path} (h : path ≠ ["", ""]) : root path = directory path := by
  unfold root directory
  cases path with
  | nil => rfl
  | cons first rest =>
      cases rest with
      | nil =>
          rw [if_neg (fun hlong => absurd hlong.1 (Nat.lt_irrefl 1))]
          by_cases hfirst : first = "" <;> simp [appendable, hfirst]
      | cons second rest =>
          by_cases hlast : (first :: second :: rest).getLast? = some ""
          · rw [if_pos ⟨by simp, hlast⟩, if_pos hlast]
            refine appendable_of_ne fun hslash => h ?_
            rw [← List.dropLast_append_getLast? "" hlast, hslash]
            rfl
          · rw [if_neg (fun hlong => hlast hlong.2), if_neg hlast]
            exact appendable_of_ne (by simp)

theorem endpoint_segments (endpoint : Endpoint) :
    ∃ first rest, endpoint.segments = first :: rest ∧ Plain first ∧ first ≠ "" := by
  cases endpoint with
  | operations family => cases family <;> exact ⟨_, _, rfl, by decide, by decide⟩
  | _ => exact ⟨_, _, rfl, by decide, by decide⟩

theorem extend_cons {first : String} (h : Plain first) (path : Path) (rest : List String) :
    extend special path (first :: rest) =
      rest.foldl (push special) (root path ++ [segment special first]) := by
  unfold extend root
  rw [List.foldl_cons, push_plain h]

theorem extend_plain {endpoint : Endpoint} (h : ∀ text ∈ endpoint.segments, Plain text)
    (path : Path) : extend special path endpoint.segments =
      root path ++ endpoint.segments.map (segment special) := by
  obtain ⟨first, rest, hsegments, hfirst, hne⟩ := endpoint_segments endpoint
  rw [hsegments] at h ⊢
  have hnamed : segment special first ≠ "" := by
    intro hempty
    exact hne (segment_inj.mp (hempty.trans (by cases special <;> rfl)))
  have hslash : root path ++ [segment special first] ≠ [""] := by
    intro hslash
    have hlast := congrArg List.getLast? hslash
    rw [List.getLast?_concat] at hlast
    exact hnamed (Option.some.inj hlast)
  rw [extend_cons hfirst, foldl_push_plain (List.forall_mem_cons.mp h).2 (by simp) hslash,
    List.append_assoc]
  rfl

theorem length_root_le (path : Path) : (root path).length ≤ (directory path).length := by
  by_cases h : path = ["", ""]
  · subst h
    decide
  · exact Nat.le_of_eq (congrArg List.length (root_eq h))

/-- Only plain texts arrive, and none arrives whole behind the path `//`. -/
theorem plain_of_extend {endpoint : Endpoint} {path segments : Path}
    (hpath : extend special path endpoint.segments = directory path ++ segments)
    (hdecoded : segments.map (fun last => (decode last.toList).toByteArray) =
      endpoint.segments.map String.toUTF8) :
    path ≠ ["", ""] ∧ ∀ text ∈ endpoint.segments, Plain text := by
  obtain ⟨first, rest, htexts, hfirst, -⟩ := endpoint_segments endpoint
  rw [htexts] at hpath hdecoded ⊢
  rw [extend_cons hfirst] at hpath
  have hcount : segments.length = rest.length + 1 := by
    simpa using congrArg List.length hdecoded
  have hroot := length_root_le path
  rcases foldl_push_cases special rest (root path ++ [segment special first]) with
    hless | ⟨others, hgrown, hshown⟩
  · rw [hpath] at hless
    simp only [List.length_append, List.length_singleton] at hless
    omega
  · rw [hgrown] at hpath
    have hlength := congrArg List.length hpath
    simp only [List.length_append, List.length_singleton, ← hshown.length_eq] at hlength
    have hbase : path ≠ ["", ""] := by
      rintro rfl
      have hshorter : (root ["", ""]).length < (directory ["", ""]).length := by decide
      omega
    rw [root_eq hbase, List.append_assoc, List.append_cancel_left_eq] at hpath
    rw [← hpath] at hdecoded
    exact ⟨hbase, List.forall_mem_cons.mpr ⟨hfirst, hshown.plain (List.cons.inj hdecoded).2⟩⟩

/-- The URL of an endpoint carries the texts of the endpoint, each in a segment of its own behind
the path of the base, and is that of the base otherwise. -/
structure Carries (base : Url) (endpoint : Endpoint) (url : Url) : Prop where
  path : ∃ segments : Path, url.path = directory base.path ++ segments ∧
    segments.map (fun last => (decode last.toList).toByteArray) =
      endpoint.segments.map String.toUTF8
  scheme : url.scheme = base.scheme
  authority : url.authority = base.authority
  query : url.query = base.query
  fragment : url.fragment = base.fragment

/-- That is so for plain texts and for no others. -/
theorem carries_iff (base : Url) (endpoint : Endpoint) :
    Carries base endpoint (base.forEndpoint endpoint) ↔
      base.path ≠ ["", ""] ∧ ∀ text ∈ endpoint.segments, Plain text := by
  constructor
  · rintro ⟨⟨segments, hpath, hdecoded⟩, -⟩
    exact plain_of_extend hpath hdecoded
  · rintro ⟨hbase, hplain⟩
    refine ⟨⟨endpoint.segments.map (segment (isSpecial base.scheme)), ?_, ?_⟩, rfl, rfl, rfl, rfl⟩
    · rw [← root_eq hbase]
      exact extend_plain hplain base.path
    · rw [List.map_map]
      exact List.map_congr_left fun text _ => decode_segment text

/-! ## Endpoints apart -/

theorem pathText_append (first second : Path) :
    pathText (first ++ second) = pathText first ++ pathText second := by
  unfold pathText
  rw [List.map_append, String.join_append]

/-- A path is read off its text, cut at the slashes. -/
theorem parts_pathText {path : Path} (h : ∀ last ∈ path, '/' ∉ last.toList) :
    parts (isSlash false) (pathText path).toList = [] :: path.map String.toList := by
  have htext : (pathText path).toList = path.flatMap fun last => '/' :: last.toList := by
    unfold pathText
    rw [String.toList_join, List.flatMap_map]
    exact List.flatMap_congr fun last _ => by simp
  rw [htext]
  -- the part before the first slash is arbitrary
  suffices hparts : ∀ cs : List Char, '/' ∉ cs →
      parts (isSlash false) (cs ++ path.flatMap fun last => '/' :: last.toList) =
        cs :: path.map String.toList from hparts [] (by simp)
  have hkept : ∀ cs : List Char, '/' ∉ cs → ∀ c ∈ cs, isSlash false c = false := by
    intro cs hcs c hc
    simpa [isSlash] using ne_of_mem_of_not_mem hc hcs
  clear htext
  induction path with
  | nil =>
      intro cs hcs
      rw [List.flatMap_nil, List.append_nil]
      exact parts_eq_singleton (hkept cs hcs)
  | cons last path ih =>
      intro cs hcs
      obtain ⟨hlast, hpath⟩ := List.forall_mem_cons.mp h
      rw [List.flatMap_cons, List.cons_append, parts_append (hkept cs hcs) (by decide),
        ih hpath last.toList hlast]
      rfl

theorem slash_not_mem_segment (special : Bool) (text : String) :
    '/' ∉ (segment special text).toList := by
  unfold segment
  rw [String.toList_ofList]
  exact slash_not_mem_encode (inOwnSegment_slash special) _

theorem segments_injective {first second : Endpoint} (h : first.segments = second.segments) :
    first = second := by
  have hroute : ∀ family : ProtocolFamily, family.name ≠ "version" ∧ family.name ≠ "fsattr" := by
    intro family
    cases family <;> decide
  have hfamily : ∀ one other : ProtocolFamily, one.name = other.name ↔ one = other := by
    intro one other
    cases one <;> cases other <;> decide
  cases first <;> cases second <;> simp_all [Endpoint.segments]

/-- The target of a request tells the endpoint. -/
theorem endpoint_of_target {base : Url} {first second : Endpoint}
    (hfirst : ∀ text ∈ first.segments, Plain text)
    (hsecond : ∀ text ∈ second.segments, Plain text)
    (h : (base.forEndpoint first).target = (base.forEndpoint second).target) : first = second := by
  let written := fun endpoint : Endpoint => endpoint.segments.map (segment (isSpecial base.scheme))
  have htext : pathText (base.forEndpoint first).path = pathText (base.forEndpoint second).path :=
    (String.append_left_inj _).mp h
  change pathText (extend _ _ first.segments) = pathText (extend _ _ second.segments) at htext
  rw [extend_plain hfirst, extend_plain hsecond, pathText_append, pathText_append,
    String.append_right_inj] at htext
  have hslash : ∀ endpoint : Endpoint, ∀ last ∈ written endpoint, '/' ∉ last.toList := by
    intro endpoint last hmem
    obtain ⟨text, _, rfl⟩ := List.mem_map.mp hmem
    exact slash_not_mem_segment _ text
  have hparts : ([] : List Char) :: (written first).map String.toList =
      [] :: (written second).map String.toList := by
    rw [← parts_pathText (hslash first), ← parts_pathText (hslash second), htext]
  have hwritten : written first = written second :=
    List.map_injective_iff.mpr (fun _ _ => String.toList_inj.mp) (List.cons.inj hparts).2
  exact segments_injective
    (List.map_injective_iff.mpr (fun _ _ => segment_inj.mp) hwritten)

/-- A base with a path gives every endpoint a URL. Behind any path but `//`, this carries the texts
of the endpoint as single segments exactly if all of them are plain; and whatever the base, two
endpoints with plain texts are never reached under one target. -/
theorem ids_travel_as_segments (base : Url) :
    (∀ endpoint, ∃ url, (Parsed.base base).forEndpoint endpoint = .ok url ∧
      (Carries base endpoint url ↔
        base.path ≠ ["", ""] ∧ ∀ text ∈ endpoint.segments, Plain text)) ∧
    ∀ first second : Endpoint, (∀ text ∈ first.segments, Plain text) →
      (∀ text ∈ second.segments, Plain text) → first ≠ second →
        (base.forEndpoint first).target ≠ (base.forEndpoint second).target := by
  refine ⟨fun endpoint => ⟨base.forEndpoint endpoint, rfl, carries_iff base endpoint⟩, ?_⟩
  intro first second hfirst hsecond hne htarget
  exact hne (endpoint_of_target hfirst hsecond htarget)

/-- The server that is asked unless another one is named. -/
def localServer : Url :=
  { scheme := "http", authority := some ⟨"", none, .ipv4 0x7F000001, some 8080⟩, setOff := false
    path := [""], query := none, fragment := none }

/-- Slashes, percent signs and dots in an id stay in its segment, also where the id would spell
another route. -/
theorem revoke_apart :
    localServer.text = "http://127.0.0.1:8080/" ∧
      Carries localServer (.client "c1/revoke") (localServer.forEndpoint (.client "c1/revoke")) ∧
      (localServer.forEndpoint (.client "c1/revoke")).target = "/nfs4/client/c1%2Frevoke" ∧
      (localServer.forEndpoint (.client "c1/revoke")).target ≠
        (localServer.forEndpoint (.revoke "c1")).target := by
  obtain ⟨hcarries, hapart⟩ := ids_travel_as_segments localServer
  obtain ⟨url, hurl, hiff⟩ := hcarries (.client "c1/revoke")
  cases hurl
  refine ⟨by decide +kernel, hiff.mpr (by decide), by decide +kernel, ?_⟩
  exact hapart (.client "c1/revoke") (.revoke "c1") (by decide) (by decide) (by decide)

/-- A tab in an id is lost on the way, and an id that is a dot leads to the clients instead. -/
theorem tabs_and_dots_lost :
    ¬ Carries localServer (.client "a\tb") (localServer.forEndpoint (.client "a\tb")) ∧
      (localServer.forEndpoint (.client "a\tb")).text = "http://127.0.0.1:8080/nfs4/client/ab" ∧
      localServer.forEndpoint (.client ".") = localServer.forEndpoint .clients ∧
      localServer.forEndpoint (.revoke "..") = localServer.forEndpoint (.client "revoke") := by
  refine ⟨fun h => ?_, by decide +kernel, by decide +kernel, by decide +kernel⟩
  exact absurd ((carries_iff _ _).mp h).2 (by decide)

end NfsWatch.Url
