import CitationFusion.Proofs.Percent
import CitationFusion.Url.Parse

/-!
# Segments of URLs

Of a URL of a special scheme that was read, the path is a list of segments in which nothing ends the
path. A text that is added to it becomes one more segment, unless it is a dot segment or has
characters that are dropped.

* `Tidy` : nothing in a segment ends its path.
* `Special`, `special_of_parse` : what is known of a URL of a special scheme that was read.
* `Confined`, `confined_segmentOf` : nothing in the segment of a text ends the segment.
* `Extension`, `Special.extend` : what a path becomes when a text is added to it.
* `Extension.confined` : at most one segment is added, and nothing in it ends it.
* `beforePush_eq` : the segment is put in the place of an empty one at the end.
-/

namespace CitationFusion

open Ascii

/-- Whether a URL is one of the web. -/
def Url.IsWeb (u : Url) : Prop :=
  u.scheme = Utf8.ofString "http" ∨ u.scheme = Utf8.ofString "https"

namespace Url

theorem IsWeb.special {u : Url} (h : u.IsWeb) : SchemeKind.of u.scheme = .special := by
  rcases h with h | h <;> rw [h] <;> decide

/-! ## 1. Segments that are read -/

/-- Whether nothing in a segment ends its path: it is ASCII without control characters, spaces,
    question marks and number signs. -/
def Tidy (s : Bytes) : Prop := ∀ b ∈ s, inPath b = false

theorem tidy_nil : Tidy [] := fun _ h => absurd h List.not_mem_nil

theorem inPath_eq_false {b : UInt8} : inPath b = false ↔
    0x20 < b.toNat ∧ b.toNat < 0x7F ∧ b.toNat ≠ 0x22 ∧ b.toNat ≠ 0x23 ∧ b.toNat ≠ 0x3C ∧
      b.toNat ≠ 0x3E ∧ b.toNat ≠ 0x3F ∧ b.toNat ≠ 0x60 ∧ b.toNat ≠ 0x7B ∧ b.toNat ≠ 0x7D := by
  simp only [inPath, inFragment, isControl, UInt8.lt_iff_toNat_lt, UInt8.reduceToNat,
    Bool.or_eq_false_iff, decide_eq_false_iff_not, not_lt, beq_eq_false_iff_ne, ne_eq,
    ← UInt8.toNat_inj]
  omega

theorem Tidy.plain {s : Bytes} (h : Tidy s) {b : UInt8} (hb : b ∈ s) :
    b.toNat < 0x7F ∧ b ≠ 0x23 ∧ b ≠ 0x3F := by
  have hpath := inPath_eq_false.1 (h b hb)
  refine ⟨hpath.2.1, ?_, ?_⟩
  · rintro rfl
    exact absurd hpath (by decide)
  · rintro rfl
    exact absurd hpath (by decide)

theorem mem_encodeChars {inClass : UInt8 → Bool} {cs : List Char} {b : UInt8}
    (h : b ∈ encodeChars inClass cs) :
    inClass b = false ∨ b = 0x25 ∨ (hexValue? b).isSome := by
  have := (Percent.encode_writes (fun b => !inClass b) (Utf8.encode cs)).mem h
  simpa using this

/-- **Nothing in a segment that is read ends its path.** -/
theorem tidy_encodeChars (cs : List Char) : Tidy (encodeChars inPath cs) := by
  intro b hb
  rcases mem_encodeChars hb with hclass | rfl | hdigit
  · exact hclass
  · decide
  · have := Percent.isUnreserved_iff.1 (Percent.unreserved_of_hexValue hdigit)
    rw [inPath_eq_false]
    omega

/-- The segments above are some of the first ones. -/
theorem above_initial (list : List Bytes) : above list <+: list := by
  unfold above
  split
  · split
    · exact List.prefix_refl list
    · exact List.dropLast_prefix list
  · exact List.nil_prefix

theorem pushSegment_special (list : List Bytes) (last : Bool) (s : Bytes) :
    pushSegment .special list last s =
      if isDotDot s then if last then above list ++ [[]] else above list
      else if isDot s then if last then list ++ [[]] else list
      else list ++ [s] := rfl

theorem tidy_append {list : List Bytes} {s : Bytes} (h : ∀ x ∈ list, Tidy x) (hs : Tidy s) :
    ∀ x ∈ list ++ [s], Tidy x :=
  List.forall_mem_append.2 ⟨h, List.forall_mem_singleton.2 hs⟩

/-- What one segment does to a path. -/
theorem tidy_pushSegment {list : List Bytes} {s : Bytes} (h : ∀ x ∈ list, Tidy x) (hs : Tidy s)
    (last : Bool) : ∀ x ∈ pushSegment .special list last s, Tidy x := by
  have habove : ∀ x ∈ above list, Tidy x := fun x hx => h x ((above_initial list).subset hx)
  rw [pushSegment_special]
  split
  · split
    · exact tidy_append habove tidy_nil
    · exact habove
  · split
    · split
      · exact tidy_append h tidy_nil
      · exact h
    · exact tidy_append h hs

theorem tidy_pushSegments {list written : List Bytes} (h : ∀ x ∈ list, Tidy x)
    (hw : ∀ s ∈ written, Tidy s) : ∀ x ∈ pushSegments .special list written, Tidy x := by
  fun_induction pushSegments SchemeKind.special list written with
  | case1 => exact h
  | case2 list s => exact tidy_pushSegment h (hw s (by simp)) true
  | case3 list s t rest ih =>
    exact ih (tidy_pushSegment h (hw s (by simp)) false) fun x hx => hw x (by simp_all)

/-! ## 2. URLs that are read -/

/-- What is known of a URL of a special scheme that was read: it has an authority, and nothing in
    its segments ends its path. -/
structure Special (u : Url) (a : Authority) (list : List Bytes) : Prop where
  kind : SchemeKind.of u.scheme = .special
  authority : u.authority = some a
  path : u.path = .segments list
  tidy : ∀ s ∈ list, Tidy s

theorem special_of_read {scheme : Bytes} {cs : List Char} {u : Url}
    (h : readBehindSlashes scheme cs = .ok u) (hk : SchemeKind.of scheme = .special) :
    ∃ a list, Special u a list := by
  simp only [readBehindSlashes, hk, bind, Except.bind, pure, Except.pure] at h
  split at h
  · cases h
  · rename_i a _
    cases h
    refine ⟨a, _, hk, rfl, rfl, ?_⟩
    split
    · exact List.forall_mem_singleton.2 tidy_nil
    · refine tidy_pushSegments (fun x hx => absurd hx List.not_mem_nil) fun s hs => ?_
      obtain ⟨cs, -, rfl⟩ := List.mem_map.1 hs
      exact tidy_encodeChars cs

theorem scheme_of_read {scheme : Bytes} {cs : List Char} {u : Url}
    (h : readBehindSlashes scheme cs = .ok u) : u.scheme = scheme := by
  simp only [readBehindSlashes, bind, Except.bind, pure, Except.pure] at h
  split at h
  · cases h
  · cases h
    rfl

theorem scheme_of_readFile {scheme : Bytes} {cs : List Char} {u : Url}
    (h : readFile scheme cs = .ok u) : u.scheme = scheme := by
  simp only [readFile, bind, Except.bind, pure, Except.pure] at h
  split at h
  · split at h
    · split at h
      · cases h
        rfl
      · split at h
        · cases h
        · cases h
          rfl
    · cases h
      rfl
  · cases h
    rfl

/-- **A URL of a special scheme has an authority and a path of segments**, in which nothing ends the
    path. -/
theorem special_of_parse {text : String} {u : Url} (h : Url.parse text = .ok u)
    (hk : SchemeKind.of u.scheme = .special) : ∃ a list, Special u a list := by
  unfold Url.parse at h
  split at h
  · cases h
  · rename_i scheme rest _
    split at h
    · rename_i hspecial
      exact special_of_read h hspecial
    · rename_i hfile
      rw [scheme_of_readFile h, hfile] at hk
      cases hk
    · rename_i hother
      have hscheme : u.scheme = scheme := by
        split at h
        · exact scheme_of_read h
        · obtain rfl := Except.ok.inj h
          simp only [readWithoutAuthority]
          split <;> rfl
      rw [hscheme, hother] at hk
      cases hk

theorem mem_write {list : List Bytes} {b : UInt8} (h : b ∈ (UrlPath.segments list).write) :
    b = 0x2F ∨ ∃ s ∈ list, b ∈ s := by
  obtain ⟨s, hs, hb⟩ := List.mem_flatMap.1 h
  exact (List.mem_cons.1 hb).imp_right fun hb => ⟨s, hs, hb⟩

/-- Two URLs of one text are written alike. -/
theorem write_of_text {u v : Url} (h : u.text = v.text) : u.write = v.write := by
  refine List.map_injective_iff.2 (fun a b hab => ?_) (String.ofList_inj.1 h)
  have := congrArg Char.toNat hab
  rwa [Utf8.toNat_char, Utf8.toNat_char, UInt8.toNat_inj] at this

namespace Special

variable {u : Url} {a : Authority} {list list' : List Bytes}

/-- **Only the path of a URL changes between its front and its back.** -/
theorem write_path (h : Special u a list) (path : UrlPath) :
    ({ u with path } : Url).write =
      u.scheme ++ colon :: u.writeAuthority ++ (path.write ++ writeMarked 0x3F u.query) ++
        writeMarked 0x23 u.fragment := by
  simp only [Url.write, Url.writeTarget, Url.writeAuthority, h.authority]

/-- So two paths in it give one text only if they are written alike. -/
theorem path_of_text (h : Special u a list) {path path' : UrlPath}
    (htext : ({ u with path } : Url).text = ({ u with path := path' } : Url).text) :
    path.write = path'.write := by
  have hwrite := write_of_text htext
  rw [h.write_path, h.write_path] at hwrite
  have htarget := List.append_cancel_left (List.append_cancel_right hwrite)
  exact List.append_cancel_right htarget

end Special

/-! ## 3. Segments that are added -/

/-- The characters of a text that are not dropped. -/
def visible (text : String) : List Char := text.toList.filter (!isIgnored ·)

/-- The segment for a text. -/
def segmentOf (text : String) : Bytes := encodeChars (inSegment true) (visible text)

/-- Whether nothing in a segment ends it: it is ASCII without control characters, spaces, quotation
    marks, number signs, slashes, question marks and backslashes, and each percent sign begins an
    escape. -/
structure Confined (s : Bytes) : Prop where
  plain : ∀ b ∈ s, 0x20 < b.toNat ∧ b.toNat < 0x7F ∧ b ≠ 0x22 ∧ b ≠ 0x23 ∧ b ≠ 0x2F ∧ b ≠ 0x3F ∧
    b ≠ 0x5C
  escapes : ∀ x y, s = x ++ 0x25 :: y →
    ∃ hi lo rest, y = hi :: lo :: rest ∧ (hexValue? hi).isSome ∧ (hexValue? lo).isSome

theorem inSegment_eq_false {b : UInt8} :
    inSegment true b = false ↔
      inPath b = false ∧ b.toNat ≠ 0x2F ∧ b.toNat ≠ 0x25 ∧ b.toNat ≠ 0x5C := by
  simp [inSegment, and_assoc, ← UInt8.toNat_inj]

theorem segmentOf_writes (text : String) :
    Percent.Writes (fun b => !inSegment true b) (Utf8.encode (visible text)) (segmentOf text) :=
  Percent.encode_writes _ _

/-- **Nothing in the segment of a text ends the segment.** -/
theorem confined_segmentOf (text : String) : Confined (segmentOf text) where
  plain b hb := by
    simp only [ne_eq, ← UInt8.toNat_inj]
    show 0x20 < b.toNat ∧ b.toNat < 0x7F ∧ b.toNat ≠ 0x22 ∧ b.toNat ≠ 0x23 ∧ b.toNat ≠ 0x2F ∧
      b.toNat ≠ 0x3F ∧ b.toNat ≠ 0x5C
    rcases mem_encodeChars hb with hclass | rfl | hdigit
    · have := inSegment_eq_false.1 hclass
      rw [inPath_eq_false] at this
      omega
    · decide
    · have := Percent.isUnreserved_iff.1 (Percent.unreserved_of_hexValue hdigit)
      omega
  escapes _ _ h := (segmentOf_writes text).escapes (by decide) h

theorem confined_nil : Confined [] := ⟨by simp, by simp⟩

/-- **What is read back from the segment of a text is what of it is not dropped.** -/
theorem decode_segmentOf (text : String) :
    Percent.decode (segmentOf text) = Utf8.encode (visible text) :=
  (segmentOf_writes text).decode (by decide)

theorem isDot_cases {s : Bytes} (h : isDot s = true) :
    s = [0x2E] ∨ s = [0x25, 0x32, 0x65] ∨ s = [0x25, 0x32, 0x45] := by
  simpa [isDot, or_assoc] using h

/-- Two dots are one dot after another. -/
theorem isDotDot_split {s : Bytes} (h : isDotDot s = true) :
    ∃ x y, s = x ++ y ∧ isDot x = true ∧ isDot y = true := by
  simp only [isDotDot, Bool.or_eq_true, Bool.and_eq_true, beq_iff_eq] at h
  rcases h with (⟨-, rfl⟩ | ⟨-, ⟨hx, hy⟩ | ⟨hx, hy⟩⟩) | ⟨⟨-, hx⟩, hy⟩
  · exact ⟨[0x2E], [0x2E], rfl, rfl, rfl⟩
  · exact ⟨_, _, (List.take_append_drop 1 s).symm, hx, hy⟩
  · exact ⟨_, _, (List.take_append_drop 3 s).symm, hx, hy⟩
  · exact ⟨_, _, (List.take_append_drop 3 s).symm, hx, hy⟩

theorem decode_isDot {s : Bytes} (h : isDot s = true) : Percent.decode s = Utf8.encode ['.'] := by
  rcases isDot_cases h with rfl | rfl | rfl <;> decide

theorem decode_isDotDot {s : Bytes} (h : isDotDot s = true) :
    Percent.decode s = Utf8.encode ['.', '.'] := by
  obtain ⟨x, y, rfl, hx, hy⟩ := isDotDot_split h
  rcases isDot_cases hx with rfl | rfl | rfl <;> rcases isDot_cases hy with rfl | rfl | rfl <;>
    decide

/-- So what is read back says which characters were not dropped. -/
theorem visible_of_decode {text : String} {cs : List Char}
    (h : Percent.decode (segmentOf text) = Utf8.encode cs) : visible text = cs := by
  rw [decode_segmentOf] at h
  exact Utf8.encode_inj h

/-- What the segments of a path become when a text is added to them. -/
inductive Extension (list : List Bytes) (text : String) : List Bytes → Prop where
  /-- A dot segment adds nothing. -/
  | unchanged (dots : text = "." ∨ text = "..") :
      Extension list text (UrlPath.dropEmptyLast list)
  /-- Nor does one of which characters are dropped, but for the slash behind it. -/
  | here (dot : visible text = ['.']) :
      Extension list text (UrlPath.beforePush (UrlPath.dropEmptyLast list) ++ [[]])
  /-- One of two dots leaves the last segment. -/
  | up (dots : visible text = ['.', '.']) :
      Extension list text (above (UrlPath.beforePush (UrlPath.dropEmptyLast list)) ++ [[]])
  | segment (plain : ¬ (text = "." ∨ text = "..")) :
      Extension list text (UrlPath.beforePush (UrlPath.dropEmptyLast list) ++ [segmentOf text])

/-- **Adding a text changes only the path.** -/
theorem Special.extend {u : Url} {a : Authority} {list : List Bytes} (h : Special u a list)
    (text : String) :
    ∃ list', u.extend text = { u with path := .segments list' } ∧ Extension list text list' := by
  unfold Url.extend
  simp only [h.path, h.kind]
  split
  · rename_i hdots
    exact ⟨_, rfl, .unchanged (by simpa using hdots)⟩
  · rename_i hplain
    have hsegment : encodeChars (inSegment SchemeKind.special.isSpecial)
        (text.toList.filter (!isIgnored ·)) = segmentOf text := rfl
    have hsettle : ∀ added, settleFile .special added = added := fun _ => rfl
    rw [hsegment, hsettle, pushSegment_special]
    refine ⟨_, rfl, ?_⟩
    split
    · rename_i hup
      exact .up (visible_of_decode (decode_isDotDot hup))
    · split
      · rename_i hhere
        exact .here (visible_of_decode (decode_isDot hhere))
      · exact .segment (by simpa using hplain)

theorem dropEmptyLast_initial (list : List Bytes) : UrlPath.dropEmptyLast list <+: list := by
  unfold UrlPath.dropEmptyLast
  split
  · split
    · exact List.prefix_refl list
    · exact List.dropLast_prefix list
  · exact List.prefix_refl list

theorem beforePush_initial (list : List Bytes) : UrlPath.beforePush list <+: list := by
  unfold UrlPath.beforePush
  split
  · exact List.nil_prefix
  · exact List.prefix_refl list

/-- **Whatever the text, at most one segment is added** to some of the first ones, and nothing in it
    ends it. -/
theorem Extension.confined {list list' : List Bytes} {text : String}
    (h : Extension list text list') :
    ∃ kept added, list' = kept ++ added ∧ kept <+: list ∧ added.length ≤ 1 ∧
      ∀ s ∈ added, Confined s := by
  have hroom : UrlPath.beforePush (UrlPath.dropEmptyLast list) <+: list :=
    (beforePush_initial _).trans (dropEmptyLast_initial list)
  cases h with
  | unchanged =>
    exact ⟨_, [], (List.append_nil _).symm, dropEmptyLast_initial list, Nat.zero_le 1, by simp⟩
  | here => exact ⟨_, [[]], rfl, hroom, le_rfl, List.forall_mem_singleton.2 confined_nil⟩
  | up =>
    exact ⟨_, [[]], rfl, (above_initial _).trans hroom, le_rfl,
      List.forall_mem_singleton.2 confined_nil⟩
  | segment =>
    exact ⟨_, [segmentOf text], rfl, hroom, le_rfl,
      List.forall_mem_singleton.2 (confined_segmentOf text)⟩

/-! ## 4. Room for a segment -/

/-- The segments of a path without an empty one at the end. -/
def trimmed (list : List Bytes) : List Bytes :=
  if list.getLast? = some [] then list.dropLast else list

/-- The segments of a path are those without an empty one at the end, or have one. -/
theorem eq_trimmed (list : List Bytes) : list = trimmed list ∨ list = trimmed list ++ [[]] := by
  unfold trimmed
  split
  · rename_i h
    exact .inr (List.dropLast_append_getLast? [] h).symm
  · exact .inl rfl

/-- An empty segment at the end makes room, but for the only one. -/
theorem dropEmptyLast_eq {list : List Bytes} (h : list ≠ [[]]) :
    UrlPath.dropEmptyLast list = trimmed list := by
  unfold UrlPath.dropEmptyLast trimmed
  split
  · rename_i hlast
    have hlength : ¬ list.length ≤ 1 := by
      intro hle
      obtain ⟨front, rfl⟩ := List.getLast?_eq_some_iff.1 hlast
      have : front = [] := by
        rw [List.length_append, List.length_singleton] at hle
        exact List.eq_nil_of_length_eq_zero (by omega)
      exact h (by rw [this]; rfl)
    rw [if_neg hlength, if_pos hlast]
  · rename_i hlast
    rw [if_neg fun e => hlast e]

theorem write_append (list : List Bytes) (s : Bytes) :
    (UrlPath.segments (list ++ [s])).write = (UrlPath.segments list).write ++ 0x2F :: s := by
  simp [UrlPath.write]

/-- **A segment is put in the place of an empty one at the end**, unless two of them are all that a
    path has. -/
theorem beforePush_eq {list : List Bytes}
    (h : ¬ [0x2F, 0x2F] <:+ (UrlPath.segments list).write) :
    UrlPath.beforePush (UrlPath.dropEmptyLast list) = trimmed list := by
  by_cases hlist : list = [[]]
  · rw [hlist]
    rfl
  · rw [dropEmptyLast_eq hlist, UrlPath.beforePush, if_neg]
    intro htrimmed
    rw [beq_iff_eq] at htrimmed
    rcases eq_trimmed list with e | e
    · exact hlist (e.trans htrimmed)
    · rw [htrimmed] at e
      exact h (e ▸ List.suffix_refl _)

/-- The text of a path with one more segment is another one. -/
theorem write_ne {list : List Bytes} {s : Bytes} (hs : s ≠ []) :
    (UrlPath.segments (trimmed list ++ [s])).write ≠ (UrlPath.segments list).write := by
  intro h
  rw [write_append] at h
  rcases eq_trimmed list with e | e
  · conv_rhs at h => rw [e, ← List.append_nil (UrlPath.write _)]
    cases List.append_cancel_left h
  · conv_rhs at h => rw [e, write_append]
    exact hs (List.cons.inj (List.append_cancel_left h)).2

end Url

end CitationFusion
