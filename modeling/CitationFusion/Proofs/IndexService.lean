import CitationFusion.IndexService
import CitationFusion.Proofs.Deeds
import CitationFusion.Proofs.Url

/-!
# URLs of records

The URL of a record is that of the service, with a segment for the identifier. Whatever the
identifier is, nothing but the path changes, and nothing in the segment ends it. The identifier can
be read back from the URL if and only if it is no dot segment and has no tabs and line ends; of such
identifiers no two have the same URL.

* `made_fetch` : the only request for a record is one for its URL, without the user.
* `blobUrl_confined` : an identifier cannot redirect a request.
* `IsPlain`, `blobUrl_faithful` : which identifiers can be read back from their URLs.
* `blobUrl_collides` : others share theirs, or leave the path of the service.
-/

namespace CitationFusion

open Ascii Plan Plan.Deed

namespace IndexService

open Url

/-! ## 1. Services of the web -/

theorem parse_of_ofText {base : String} {s : IndexService} (h : ofText base = .ok s) :
    Url.parse base = .ok s.base := by
  unfold ofText at h
  split at h
  · cases h
  · rename_i u hparse
    split at h
    · cases h
      exact hparse
    · cases h

theorem special_of_ofText {base : String} {s : IndexService} (h : ofText base = .ok s)
    (hs : s.base.IsWeb) : ∃ a list, Special s.base a list :=
  special_of_parse (parse_of_ofText h) hs.special

section Requests

variable {σ : Type} (w : World WireCall WireCall.Answer σ) (deadline : Option Instant)
  (drift : Nat → Duration) (n : Nat)

/-- A plan that sends a request, and nothing else, makes one call. -/
theorem made_request {α : Type} {url : Url}
    {next : Url → Http.Reply → WirePlan (Except Failure α)}
    (h : ∀ u reply, ∃ a, next u reply = .done a) (sc : Scene σ) :
    made ((request url next).deeds w deadline drift n sc) = [.get (withoutUser url)] := by
  unfold request
  rw [deeds_call]
  split
  · cases (w.respond sc.world (.get (withoutUser url))).2.answer with
    | none => rfl
    | some reply =>
      obtain ⟨a, ha⟩ := h (withoutUser url) reply
      simp only [ha]
      rfl
  · rfl

/-- **The only request for a record is one for its URL**, without the user that it names, whoever
    answers it and when. -/
theorem made_fetch (s : IndexService) (id : String) (sc : Scene σ) :
    made ((s.fetch id).deeds w deadline drift n sc) = [.get (withoutUser (s.blobUrl id))] :=
  made_request w deadline drift n (fun _ _ => ⟨_, rfl⟩) sc

end Requests

/-! ## 2. What an identifier cannot do -/

/-- **An identifier cannot redirect a request.** The URL of a record is that of the service, but for
    the path; of that, some of the first segments are left, and at most one is added, in which
    nothing ends it. The path is ASCII and does not begin a query or a fragment, so it stands in the
    text of the URL where that of the service does; and the only request for the record is the one
    to the service, with that path and the query of the service. -/
theorem blobUrl_confined {base : String} {s : IndexService} (h : ofText base = .ok s)
    (hs : s.base.IsWeb) (id : String) :
    (∃ list kept added, s.base.path = .segments list ∧ kept <+: list ∧ added.length ≤ 1 ∧
      (∀ seg ∈ added, Confined seg) ∧
      s.blobUrl id = { s.base with path := .segments (kept ++ added) }) ∧
    (∀ b ∈ (s.blobUrl id).path.write, b.toNat < 0x80 ∧ b ≠ 0x3F ∧ b ≠ 0x23) ∧
    (s.blobUrl id).write =
      s.base.scheme ++ colon :: s.base.writeAuthority ++
        ((s.blobUrl id).path.write ++ writeMarked 0x3F s.base.query) ++
        writeMarked 0x23 s.base.fragment ∧
    ∀ (σ : Type) (w : World WireCall WireCall.Answer σ) (deadline : Option Instant)
      (drift : Nat → Duration) (n : Nat) (sc : Scene σ),
      made ((s.fetch id).deeds w deadline drift n sc) =
        [.get { withoutUser s.base with path := (s.blobUrl id).path }] := by
  obtain ⟨a, list, special⟩ := special_of_ofText h hs
  obtain ⟨list', hurl, hext⟩ := special.extend id
  obtain ⟨kept, added, rfl, hkept, hadded, hconfined⟩ := hext.confined
  have hblob : s.blobUrl id = { s.base with path := .segments (kept ++ added) } := hurl
  refine ⟨⟨list, kept, added, special.path, hkept, hadded, hconfined, hblob⟩, ?_, ?_, ?_⟩
  · rw [hblob]
    intro b hb
    rcases mem_write hb with rfl | ⟨seg, hseg, hb⟩
    · decide
    rcases List.mem_append.1 hseg with hseg | hseg
    · obtain ⟨hlt, hsharp, hmark⟩ := (special.tidy seg (hkept.subset hseg)).plain hb
      exact ⟨by omega, hmark, hsharp⟩
    · obtain ⟨-, hlt, -, hsharp, -, hmark, -⟩ := (hconfined seg hseg).plain b hb
      exact ⟨by omega, hmark, hsharp⟩
  · rw [hblob]
    exact special.write_path _
  · intro σ w deadline drift n sc
    rw [made_fetch, hblob]
    rfl

/-- A service with a user, a query and a fragment in its URL, and an empty segment at its end. -/
def elaborate : IndexService where
  base :=
    { scheme := Utf8.ofString "http"
      authority := some ⟨Utf8.ofString "u", none, .domain (Utf8.ofString "localhost"), some 8820⟩
      path := .segments [Utf8.ofString "index", []]
      query := some (Utf8.ofString "k=v")
      fragment := some (Utf8.ofString "f") }

theorem ofText_elaborate : ofText "http://u@localhost:8820/index/?k=v#f" = .ok elaborate := by
  decide +kernel

theorem blobUrl_confined_elaborate :
    (elaborate.blobUrl "../?#").write =
      Utf8.ofString "http://u@localhost:8820/index/..%2F%3F%23?k=v#f" := by
  obtain ⟨-, -, hwrite, -⟩ := blobUrl_confined ofText_elaborate (.inl rfl) "../?#"
  rw [hwrite]
  decide +kernel

/-! ## 3. What can be read back -/

/-- Whether an identifier is no dot segment, and has no characters that are dropped. -/
def IsPlain (id : String) : Prop :=
  id ≠ "." ∧ id ≠ ".." ∧ id.toList.any isIgnored = false

section Plain

variable {id : String}

theorem IsPlain.visible (h : IsPlain id) : visible id = id.toList :=
  List.filter_eq_self.2 fun c hc => by simpa using List.any_eq_false.1 h.2.2 c hc

theorem IsPlain.visible_ne (h : IsPlain id) :
    Url.visible id ≠ ['.'] ∧ Url.visible id ≠ ['.', '.'] := by
  rw [h.visible]
  exact ⟨fun e => h.1 (String.toList_inj.1 e), fun e => h.2.1 (String.toList_inj.1 e)⟩

theorem isPlain_of_visible (hdots : ¬ (id = "." ∨ id = "..")) (h : visible id = id.toList) :
    IsPlain id := by
  refine ⟨fun e => hdots (.inl e), fun e => hdots (.inr e), List.any_eq_false.2 fun c hc => ?_⟩
  simpa using List.filter_eq_self.1 h c hc

theorem IsPlain.decode (h : IsPlain id) : Percent.decode (segmentOf id) = Utf8.ofString id := by
  rw [decode_segmentOf, h.visible]
  rfl

theorem IsPlain.ne_nil (h : IsPlain id) (hid : id ≠ "") : segmentOf id ≠ [] := by
  refine (segmentOf_writes id).ne_nil fun hnil => hid ?_
  rw [h.visible] at hnil
  exact String.toList_inj.1 (Utf8.encode_inj hnil)

/-- **A plain identifier is a segment behind those of the path.** -/
theorem IsPlain.extension {list list' : List Bytes} (h : IsPlain id)
    (hext : Extension list id list') :
    list' = UrlPath.beforePush (UrlPath.dropEmptyLast list) ++ [segmentOf id] := by
  cases hext with
  | unchanged dots => exact absurd dots (not_or.2 ⟨h.1, h.2.1⟩)
  | here dot => exact absurd dot h.visible_ne.1
  | up dots => exact absurd dots h.visible_ne.2
  | segment => rfl

/-- **Only a plain identifier can be read back** from a segment behind those of the path. -/
theorem isPlain_of_extension {list : List Bytes} {seg : Bytes} (hid : id ≠ "")
    (hext : Extension list id (trimmed list ++ [seg]))
    (hdecode : Percent.decode seg = Utf8.ofString id) : IsPlain id := by
  have hseg : seg ≠ [] := by
    rintro rfl
    exact hid (String.toList_inj.1 (Utf8.encode_inj hdecode.symm))
  generalize hlist' : trimmed list ++ [seg] = list' at hext
  cases hext with
  | unchanged =>
    by_cases hlist : list = [[]]
    · rw [hlist] at hlist'
      exact absurd (List.singleton_inj.1 hlist') hseg
    · rw [dropEmptyLast_eq hlist] at hlist'
      exact absurd (List.append_right_eq_self.1 hlist') (List.cons_ne_nil seg [])
  | here => exact absurd (List.singleton_inj.1 (List.append_inj_right' hlist' rfl)) hseg
  | up => exact absurd (List.singleton_inj.1 (List.append_inj_right' hlist' rfl)) hseg
  | segment plain =>
    obtain rfl := List.singleton_inj.1 (List.append_inj_right' hlist' rfl)
    exact isPlain_of_visible plain (visible_of_decode hdecode)

/-- Whether a segment of a path is read as that segment: it has no slash and is no dot segment. -/
structure Proper (seg : Bytes) : Prop where
  ne_nil : seg ≠ []
  whole : 0x2F ∉ seg
  notDot : isDot seg = false
  notDotDot : isDotDot seg = false

theorem IsPlain.proper (h : IsPlain id) (hid : id ≠ "") : Proper (segmentOf id) where
  ne_nil := h.ne_nil hid
  whole hmem := by
    obtain ⟨-, -, -, -, hslash, -⟩ := (confined_segmentOf id).plain _ hmem
    exact hslash rfl
  notDot := Bool.eq_false_iff.2 fun hdot =>
    h.visible_ne.1 (visible_of_decode (decode_isDot hdot))
  notDotDot := Bool.eq_false_iff.2 fun hdots =>
    h.visible_ne.2 (visible_of_decode (decode_isDotDot hdots))

end Plain

/-- **An identifier can be read back from its URL if and only if it is plain.** The URL of a plain
    identifier stands for something beneath the path of the service, and not for the service itself;
    and no two plain identifiers have the same URL. -/
theorem blobUrl_faithful {base : String} {s : IndexService} (h : ofText base = .ok s)
    (hs : s.base.IsWeb) (hend : ¬ [0x2F, 0x2F] <:+ s.base.path.write) :
    ∃ list, s.base.path = .segments list ∧ ∀ id : String, id ≠ "" →
      ((∃ seg, (s.blobUrl id).path = .segments (trimmed list ++ [seg]) ∧
        Percent.decode seg = Utf8.ofString id) ↔ IsPlain id) ∧
      (IsPlain id →
        (∃ seg, s.blobUrl id = { s.base with path := .segments (trimmed list ++ [seg]) } ∧
          Proper seg) ∧
        (s.blobUrl id).text ≠ s.base.text ∧
        ∀ id' : String, id' ≠ "" → IsPlain id' → (s.blobUrl id).text = (s.blobUrl id').text →
          id = id') := by
  obtain ⟨a, list, special⟩ := special_of_ofText h hs
  rw [special.path] at hend
  -- the URL of a plain identifier is known, and the rest is read off it
  have plain : ∀ {id}, IsPlain id →
      s.blobUrl id = { s.base with path := .segments (trimmed list ++ [segmentOf id]) } := by
    intro id hid
    obtain ⟨list', hurl, hext⟩ := special.extend id
    rw [← beforePush_eq hend, ← hid.extension hext]
    exact hurl
  refine ⟨list, special.path, fun id hid => ⟨⟨?_, fun hplain => ?_⟩, fun hplain => ⟨?_, ?_, ?_⟩⟩⟩
  · rintro ⟨seg, hpath, hdecode⟩
    obtain ⟨list', hurl, hext⟩ := special.extend id
    have hlist' : list' = trimmed list ++ [seg] := by
      rw [blobUrl, hurl] at hpath
      exact UrlPath.segments.inj hpath
    exact isPlain_of_extension hid (hlist' ▸ hext) hdecode
  · exact ⟨segmentOf id, by rw [plain hplain], hplain.decode⟩
  · exact ⟨segmentOf id, plain hplain, hplain.proper hid⟩
  · intro htext
    rw [plain hplain] at htext
    have hwrite : _ = s.base.path.write := special.path_of_text htext
    rw [special.path] at hwrite
    exact write_ne (hplain.ne_nil hid) hwrite
  · intro id' hid' hplain' htext
    rw [plain hplain, plain hplain'] at htext
    have hwrite := special.path_of_text htext
    rw [write_append, write_append] at hwrite
    have hseg := (List.cons.inj (List.append_cancel_left hwrite)).2
    have hdecode : Utf8.ofString id = Utf8.ofString id' := by
      rw [← hplain.decode, hseg, hplain'.decode]
    exact String.toList_inj.1 (Utf8.encode_inj hdecode)

theorem blobUrl_faithful_elaborate :
    ∃ seg, (elaborate.blobUrl "a/%").path = .segments [Utf8.ofString "index", seg] ∧
      Percent.decode seg = Utf8.ofString "a/%" := by
  obtain ⟨list, hlist, h⟩ := blobUrl_faithful ofText_elaborate (.inl rfl) (by decide)
  obtain rfl := UrlPath.segments.inj hlist
  exact (h "a/%" (by decide)).1.2 ⟨by decide, by decide, by decide⟩

/-- A service with nothing but a path in its URL. -/
def bare : IndexService where
  base :=
    { scheme := Utf8.ofString "http"
      authority := some ⟨[], none, .domain (Utf8.ofString "localhost"), some 8820⟩
      path := .segments [Utf8.ofString "index"]
      query := none
      fragment := none }

/-- Tabs vanish, so that two identifiers have one URL; a dot stands for the service itself, and two
    dots and a tab for what is above it. -/
theorem blobUrl_collides :
    ofText "http://localhost:8820/index" = .ok bare ∧
      bare.blobUrl "a\tb" = bare.blobUrl "ab" ∧ bare.blobUrl "." = bare.base ∧
      (bare.blobUrl "..\t").text = "http://localhost:8820/" := by
  decide +kernel

end IndexService

end CitationFusion
