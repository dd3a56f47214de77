import CitationFusion.Proofs.Acceptance
import CitationFusion.Proofs.Cache
import CitationFusion.Proofs.Json.Grammar
import CitationFusion.Proofs.Resolve

/-!
# Which texts are intact

A text passes two gates: metadata is accepted of an index data store, and an answer that was kept
is served again. Both ask for one document, so nothing that was let in is thrown out later.

* `Lookup` : what is found under a key, `resolve_run_lookup` : and what a request makes of it.
* `Blob.accept_eq_ok_iff` : what is accepted as metadata, and what is kept of it.
* `gates_agree` : both gates are open for exactly what the grammar derives.
-/

namespace CitationFusion

open Json Plan

/-! ## 1. What is found under a key -/

/-- What is found under a key of the cache. -/
inductive Lookup where
  /-- A text that can be served. -/
  | hit (value : Bytes)
  /-- A text that cannot. -/
  | corrupt
  | miss
  deriving DecidableEq, Repr

/-- A text that was found can be served if it is a document. -/
def Lookup.ofFound : Option Bytes → Lookup
  | none => .miss
  | some value => if isDocument value then .hit value else .corrupt

/-- What is found under a key, and what is left of the cache. -/
def Cache.lookup (c : Cache) (now : Instant) (key : String) : Lookup × Cache :=
  (.ofFound (c.get now key).1, (c.get now key).2)

section Run

variable {σ : Type} (w : World (StoreCall IndexCall) (StoreCall.Answer IndexCall.Answer) σ)
  (deadline : Option Instant) (s : Settings) (id : String) (scene : Scene σ)

/-- **A request goes by what is found**: it serves a hit, removes what is corrupt, and resolves
    the record afresh unless it was a hit. -/
theorem resolve_run_lookup :
    (resolve s true id).run w deadline scene =
      let left := { scene with cache := (scene.cache.lookup scene.now id).2 }
      match (scene.cache.lookup scene.now id).1 with
      | .hit body =>
        (.finished (.ok (.cached (Took.patch body (scene.now.since scene.now)))),
          { left with watch := scene.watch.record scene.now "served from cache" })
      | .corrupt =>
        (fresh s true scene.now id).run w deadline
          { left with
            cache := left.cache.delete id
            events := scene.events ++ [.evictedCorrupt id] }
      | .miss => (fresh s true scene.now id).run w deadline left := by
  cases hget : (scene.cache.get scene.now id).1 with
  | none => simp only [resolve, if_true, Plan.run, Cache.lookup, hget, Lookup.ofFound]
  | some body =>
    cases hdoc : isDocument body with
    | true => simp only [resolve, if_true, Plan.run, Cache.lookup, hget, Lookup.ofFound, hdoc]
    | false =>
      simp only [resolve, if_true, Plan.run, Cache.lookup, hget, Lookup.ofFound, hdoc,
        Bool.false_eq_true, if_false]

end Run

/-! ## 2. What is read verbatim -/

namespace Json

variable {v ws t rest bs : Bytes}

theorem Derives.head (h : Derives .value v) : ∃ b r, v = b :: r ∧ isSpace b = false := by
  have scalar : IsScalar v → ∃ b r, v = b :: r ∧ isSpace b = false := by
    rintro ⟨b, r, hv, hb, -⟩
    exact ⟨b, r, hv, hb⟩
  cases h with
  | word hv => exact scalar (isScalar_word hv)
  | number hv => exact scalar (isScalar_number hv)
  | string hv => exact scalar (isScalar_string hv)
  | empty f | filled f => exact ⟨_, _, rfl, by cases f <;> decide⟩

/-- There is no white space before a value. -/
theorem Derives.skipSpace (h : Derives .value v) (t : Bytes) :
    Json.skipSpace (v ++ t) = v ++ t := by
  obtain ⟨b, r, rfl, hb⟩ := h.head
  exact skipSpace_cons (r ++ t) hb

theorem Blank.ascii (h : Blank ws) : ∀ b ∈ ws, b.toNat < 0x80 :=
  fun b hb => toNat_of_isSpace (blank_iff.1 h b hb)

/-- **What is read verbatim is a value**, with white space before it. -/
theorem derives_of_readVerbatim (h : readVerbatim bs = .ok (v, rest)) :
    ∃ ws, bs = ws ++ (v ++ rest) ∧ Blank ws ∧ Derives .value v := by
  unfold readVerbatim at h
  simp only at h
  split at h
  · cases h
  · rename_i rest' hskim
    obtain ⟨ws, u, hstart, before, value⟩ := derives_of_skim hskim
    have hbare : Json.skipSpace bs = u ++ rest' := by
      rw [← skipSpace_skipSpace, hstart, before.skipSpace, value.skipSpace]
    rw [hbare, List.length_append, Nat.add_sub_cancel, List.take_left] at h
    split at h
    · cases h
      refine ⟨bs.takeWhile isSpace, ?_, blank_iff.2 fun b => List.mem_takeWhile_imp, value⟩
      rw [← hbare]
      exact List.takeWhile_append_dropWhile.symm
    · cases h

/-- And a value is read verbatim if it is UTF-8. -/
theorem Derives.readVerbatim {cs : List Char} (h : Derives .value v) (before : Blank ws)
    (ht : Closed t) (htext : Utf8.decode v = .ok cs) :
    Json.readVerbatim (ws ++ (v ++ t)) = .ok (v, t) := by
  have hskim : skim (v ++ t) = .ok t := h.skim_append .nil ht
  unfold Json.readVerbatim
  simp only [before.skipSpace, h.skipSpace, hskim, List.length_append, Nat.add_sub_cancel,
    List.take_left, htext]

theorem finish_eq_ok_iff {u : Unit} : finish rest = .ok u ↔ Blank rest := by
  constructor
  · intro h
    unfold finish at h
    split at h
    · rename_i hs
      exact blank_of_skipSpace hs
    · cases h
  · intro h
    have hs : Json.skipSpace rest = [] := by
      rw [← List.append_nil rest, h.skipSpace]
      rfl
    rw [finish, hs]

/-- **A whole text is read verbatim exactly if it is one value between white space**, and the value
    is UTF-8. -/
theorem readDocument_verbatim_iff : readDocument readVerbatim bs = .ok v ↔
    (∃ cs, Utf8.decode v = .ok cs) ∧
      ∃ ws ws', bs = ws ++ (v ++ ws') ∧ Blank ws ∧ Derives .value v ∧ Blank ws' := by
  constructor
  · intro h
    unfold readDocument at h
    split at h
    · cases h
    · rename_i u rest hread
      obtain ⟨_, -, hutf8⟩ := readVerbatim_inv hread
      obtain ⟨ws, hbs, before, value⟩ := derives_of_readVerbatim hread
      cases hfinish : finish rest with
      | error stop =>
        rw [hfinish] at h
        cases h
      | ok =>
        rw [hfinish] at h
        cases h
        exact ⟨hutf8, ws, rest, hbs, before, value, finish_eq_ok_iff.1 hfinish⟩
  · rintro ⟨⟨cs, htext⟩, ws, ws', rfl, before, value, behind⟩
    have hfinish : finish ws' = .ok () := finish_eq_ok_iff.2 behind
    simp only [readDocument, value.readVerbatim before behind.closed_self htext, hfinish]
    rfl

end Json

/-! ## 3. What is accepted as metadata -/

section Metadata

variable {answer : Bytes} {id : String}

theorem Utf8.decode_isOk_iff :
    (∃ cs, Utf8.decode answer = .ok cs) ↔ ∃ s : String, answer = Utf8.ofString s := by
  constructor
  · rintro ⟨cs, h⟩
    exact ⟨String.ofList cs,
      by rw [Utf8.decode_eq_ok_iff.1 h, Utf8.ofString, String.toList_ofList]⟩
  · rintro ⟨s, rfl⟩
    exact ⟨_, Utf8.decode_encode _⟩

/-- **Accepted as metadata is one value between white space, all of it UTF-8**, and what is kept is
    that value. -/
theorem Blob.accept_eq_ok_iff {b : Blob} :
    Blob.accept id answer = .ok b ↔ (∃ s : String, answer = Utf8.ofString s) ∧
      ∃ ws ws', answer = ws ++ (b.text ++ ws') ∧ Blank ws ∧ Derives .value b.text ∧ Blank ws' := by
  rw [← Utf8.decode_isOk_iff]
  constructor
  · intro h
    unfold Blob.accept at h
    simp only at h
    split at h
    · cases h
    · rename_i cs htext
      split at h
      · cases h
      · rename_i text hread
        cases h
        exact ⟨⟨cs, htext⟩, (readDocument_verbatim_iff.1 hread).2⟩
  · rintro ⟨⟨cs, htext⟩, ws, ws', hanswer, before, value, behind⟩
    -- the value is UTF-8 because the white space around it is ASCII
    have hvalue := htext
    rw [hanswer] at hvalue
    have hbetween := Utf8.decode_between before.ascii behind.ascii hvalue
    have hread :=
      readDocument_verbatim_iff.2 ⟨hbetween, ws, ws', hanswer, before, value, behind⟩
    unfold Blob.accept
    simp only [htext, hread]

end Metadata

/-! ## 4. Both gates -/

section Gates

variable {c : Cache} {now expires : Instant} {key id : String} {v : Bytes}

/-- What is found under the key of a living entry. -/
theorem Cache.lookup_of_alive (stored : c.find? key = some ⟨v, expires⟩)
    (alive : now.nanos < expires.nanos) : c.lookup now key = (.ofFound (some v), c) := by
  rw [Cache.lookup, Cache.get_of_alive stored (decide_eq_true alive)]

theorem Lookup.ofFound_eq_hit : Lookup.ofFound (some v) = .hit v ↔ IsText v := by
  rw [← isDocument_iff_isText]
  simp only [Lookup.ofFound]
  split <;> simp_all

theorem Lookup.ofFound_eq_corrupt : Lookup.ofFound (some v) = .corrupt ↔ ¬ IsText v := by
  rw [← isDocument_iff_isText]
  simp only [Lookup.ofFound]
  split <;> simp_all

/-- **Both gates are open for exactly the documents.** A text that lives in the cache is served if
    the grammar derives it, and thrown out otherwise. It is accepted as metadata if it is UTF-8 and
    would be served, and kept is the value in it. -/
theorem gates_agree (stored : c.find? key = some ⟨v, expires⟩)
    (alive : now.nanos < expires.nanos) (id : String) :
    (c.lookup now key = (.hit v, c) ↔ IsText v) ∧
    (c.lookup now key = (.corrupt, c) ↔ ¬ IsText v) ∧
    ((∃ b, Blob.accept id v = .ok b) ↔
      (∃ s : String, v = Utf8.ofString s) ∧ c.lookup now key = (.hit v, c)) ∧
    ∀ b, Blob.accept id v = .ok b →
      ∃ ws ws', v = ws ++ (b.text ++ ws') ∧ Blank ws ∧ Derives .value b.text ∧ Blank ws' := by
  have hlookup := Cache.lookup_of_alive stored alive
  have hit : c.lookup now key = (.hit v, c) ↔ IsText v := by
    rw [hlookup, Prod.mk.injEq, Lookup.ofFound_eq_hit]
    exact and_iff_left rfl
  refine ⟨hit, ?_, ?_, fun b hb => (Blob.accept_eq_ok_iff.1 hb).2⟩
  · rw [hlookup, Prod.mk.injEq, Lookup.ofFound_eq_corrupt]
    exact and_iff_left rfl
  · rw [hit]
    constructor
    · rintro ⟨b, hb⟩
      obtain ⟨htext, ws, ws', hv, before, value, behind⟩ := Blob.accept_eq_ok_iff.1 hb
      exact ⟨htext, ws, b.text, ws', hv, before, value, behind⟩
    · rintro ⟨htext, ws, u, ws', hv, before, value, behind⟩
      exact ⟨⟨u⟩, Blob.accept_eq_ok_iff.2 ⟨htext, ws, ws', hv, before, value, behind⟩⟩

/-- ` ["\ud800" , 1E+999]` and a line feed: half a surrogate pair, and a number beyond all
    doubles. -/
def oddities : Bytes :=
  [0x20, 0x5B, 0x22, 0x5C, 0x75, 0x64, 0x38, 0x30, 0x30, 0x22, 0x20, 0x2C, 0x20,
    0x31, 0x45, 0x2B, 0x39, 0x39, 0x39, 0x5D, 0x0A]

theorem isText_oddities : IsText oddities := by
  have half : Derives .value [0x22, 0x5C, 0x75, 0x64, 0x38, 0x30, 0x30, 0x22] :=
    .string (.unicode (by simp [IsHex]) .close)
  have beyond : Derives .value ([0x31] ++ ([] ++ 0x45 :: ([0x2B] ++ [0x39, 0x39, 0x39]))) :=
    .number (.positive (.digits (by decide) (by simp [AllDigits, Ascii.isDigit])) .none
      (.some (.inr rfl) .plus (by simp [AllDigits, Ascii.isDigit])))
  have space : Blank [Ascii.space] := by decide
  exact ⟨[Ascii.space], _, [Ascii.lineFeed], rfl, space,
    .filled .list (.more .item .nil half space (.last .item space beyond .nil)), by decide⟩

/-- They are served, and accepted as metadata. -/
theorem gates_agree_oddities :
    let kept := Cache.empty.put "1" ⟨oddities, ⟨5⟩⟩
    kept.lookup ⟨3⟩ "1" = (.hit oddities, kept) ∧ ∃ b, Blob.accept "1" oddities = .ok b := by
  have stored : (Cache.empty.put "1" ⟨oddities, ⟨5⟩⟩).find? "1" = some ⟨oddities, ⟨5⟩⟩ :=
    Cache.find?_put.trans (if_pos rfl)
  obtain ⟨hit, -, accepted, -⟩ := gates_agree stored (by decide : 3 < 5) "1"
  have utf8 : ∃ t : String, oddities = Utf8.ofString t :=
    ⟨" [\"\\ud800\" , 1E+999]\n", by decide⟩
  exact ⟨hit.2 isText_oddities, accepted.2 ⟨utf8, hit.2 isText_oddities⟩⟩

end Gates

end CitationFusion
