import CitationFusion.Proofs.Json.Double
import CitationFusion.Resolve
import CitationFusion.Response.Read

/-!
# Responses are read back

The text of a response is the octets before its time, the time, and the octets behind it. With
any number in that place it is read back as the response that it was, with another time.

* `Blob.Accepted` : metadata that the index data store may answer; it is one value.
* `Response.head`, `Response.tail` : what stands before and behind the time.
* `Response.written` : what is read of a response, whatever number stands for its time.
-/

namespace CitationFusion

open Json Ascii

/-! ## 1. Metadata -/

/-- Whether some metadata was accepted, of any record and from any answer. -/
def Blob.Accepted (b : Blob) : Prop := ∃ id answer, Blob.accept id answer = .ok b

/-- A value at the head of a text without white space before it has none either. -/
theorem skipSpace_of_append {v r : Bytes} (h : IsValue v) (hs : skipSpace (v ++ r) = v ++ r) :
    skipSpace v = v := by
  obtain ⟨b, u, hu, -⟩ := h.begins
  have he := Json.skipSpace_append hu r
  rw [hs, ← List.cons_append] at he
  rw [hu]
  exact (List.append_cancel_right he).symm

/-- **Metadata that is kept verbatim is one UTF-8 value without white space before it.** -/
theorem readVerbatim_inv {bs v rest : Bytes} (h : readVerbatim bs = .ok (v, rest)) :
    IsValue v ∧ skipSpace v = v ∧ ∃ s, Utf8.decode v = .ok s := by
  unfold readVerbatim at h
  simp only at h
  split at h
  · cases h
  · rename_i rest' hskim
    obtain ⟨w, hw, hv⟩ := isValue_of_skim hskim
    have hbare : skipSpace (w ++ rest') = w ++ rest' := by
      rw [← hw]
      exact skipSpace_skipSpace bs
    rw [hw, List.length_append, Nat.add_sub_cancel, List.take_left] at h
    split at h
    · rename_i s hs
      cases h
      exact ⟨hv, skipSpace_of_append hv hbare, s, hs⟩
    · cases h

/-- **One UTF-8 value without white space before it is accepted as metadata.** -/
theorem Blob.accept_of_isValue (id : String) {v : Bytes} (hv : IsValue v)
    (hbare : skipSpace v = v) {cs : List Char} (hs : Utf8.decode v = .ok cs) :
    Blob.accept id v = .ok ⟨v⟩ := by
  have hread : readVerbatim v = .ok (v, []) := by
    unfold readVerbatim
    simp only [hbare, hv.skim_eq, List.length_nil, Nat.sub_zero, List.take_length, hs]
  unfold Blob.accept
  simp only [hs, readDocument, hread, finish, skipSpace, List.dropWhile_nil]
  rfl

/-- **Accepted metadata is read back as it is.** -/
theorem Blob.Accepted.written {b : Blob} (h : b.Accepted) : Written Blob.read b.text b := by
  obtain ⟨id, answer, h⟩ := h
  have hb : ∃ rest, readVerbatim answer = .ok (b.text, rest) := by
    unfold Blob.accept at h
    simp only at h
    split at h
    · cases h
    · split at h
      · cases h
      · rename_i v hdoc
        cases h
        unfold readDocument at hdoc
        split at hdoc
        · cases hdoc
        · rename_i a rest hread
          cases hf : finish rest with
          | error stop => rw [hf] at hdoc; cases hdoc
          | ok u =>
            rw [hf] at hdoc
            cases hdoc
            exact ⟨rest, hread⟩
  obtain ⟨rest, hb⟩ := hb
  obtain ⟨hone, hbare, s, hs⟩ := readVerbatim_inv hb
  have hverb : Written readVerbatim b.text b.text := by
    refine ⟨hone, hbare, fun t ht => ?_⟩
    obtain ⟨c, r, hc, -⟩ := hone.begins
    have hsp := Json.skipSpace_append hc t
    rw [← List.cons_append, ← hc, hbare] at hsp
    unfold readVerbatim
    simp only [hsp, hone.skim_append ht, List.length_append, Nat.add_sub_cancel, List.take_left, hs]
  exact hverb.map Blob.mk

/-! ## 2. Stubs -/

theorem Stub.written (s : Stub) : Written Stub.shape.read s.write s :=
  Shape.written (d := some s.doi)
    (.required rfl rfl (written_string s.doi) (.done _)) rfl

theorem written_stubs (l : List Stub) :
    Written (readList Stub.shape.read) (writeList (l.map Stub.write)) l := by
  apply written_list
  induction l with
  | nil => exact .nil
  | cons s l ih => exact .cons s.written ih

theorem Unmatched.written (u : Unmatched) : Written Unmatched.shape.read u.write u :=
  Shape.written (d := ⟨some u.citing, some u.cited⟩)
    (.optional rfl rfl (written_stubs u.citing)
      (.optional rfl rfl (written_stubs u.cited) (.done _))) rfl

theorem written_blobs {l : List Blob} (h : ∀ b ∈ l, b.Accepted) :
    Written (readList Blob.read) (writeList (l.map Blob.text)) l := by
  apply written_list
  induction l with
  | nil => exact .nil
  | cons b l ih => exact .cons (h b (by simp)).written (ih fun c hc => h c (by simp [hc]))

/-! ## 3. Responses -/

namespace Response

/-- The response with another time. -/
def withTook (r : Response) (x : Binary64) : Response :=
  { r with extra := { r.extra with took := x } }

@[simp] theorem withTook_id (r : Response) (x : Binary64) : (r.withTook x).id = r.id := rfl
@[simp] theorem withTook_doi (r : Response) (x : Binary64) : (r.withTook x).doi = r.doi := rfl
@[simp] theorem withTook_citing (r : Response) (x : Binary64) :
    (r.withTook x).citing = r.citing := rfl
@[simp] theorem withTook_cited (r : Response) (x : Binary64) : (r.withTook x).cited = r.cited := rfl
@[simp] theorem withTook_unmatched (r : Response) (x : Binary64) :
    (r.withTook x).unmatched = r.unmatched := rfl
@[simp] theorem withTook_withTook (r : Response) (x y : Binary64) :
    (r.withTook x).withTook y = r.withTook y := rfl

/-- The members of a response before its facts. -/
def members (r : Response) : List Bytes :=
  [ writeMember "id" (writeString r.id),
    writeMember "doi" (writeString r.doi),
    writeMember "citing" (writeList (r.citing.map Blob.text)),
    writeMember "cited" (writeList (r.cited.map Blob.text)),
    writeMember "unmatched" r.unmatched.write ]

/-- The facts about a response behind its time. -/
def facts (e : Extra) : List Bytes :=
  [ writeMember "unmatched_citing_count" (writeNat e.unmatchedCitingCount),
    writeMember "unmatched_cited_count" (writeNat e.unmatchedCitedCount),
    writeMember "citing_count" (writeNat e.citingCount),
    writeMember "cited_count" (writeNat e.citedCount),
    writeMember "cached" (writeBool e.cached) ]

/-- The octets before `"extra":{"took":`. -/
def front (r : Response) : Bytes := openBrace :: (separated r.members ++ [comma])

/-- The octets before the time. -/
def head (r : Response) : Bytes := r.front ++ Took.marker

/-- The octets behind the time. -/
def tail (r : Response) : Bytes := comma :: (separated (facts r.extra) ++ [closeBrace, closeBrace])

/-- The facts about a response with some octets as its time. -/
def timed (e : Extra) (tok : Bytes) : Bytes := writeObject (writeMember "took" tok :: facts e)

/-- **The time of a response stands between its head and its tail.** -/
theorem head_tail (r : Response) (tok : Bytes) :
    r.head ++ (tok ++ r.tail) =
      writeObject (r.members ++ [writeMember "extra" (timed r.extra tok)]) := by
  have hm : Took.marker =
      writeString "extra" ++ colon :: openBrace :: (writeString "took" ++ [colon]) := by decide
  rw [head, front, tail, hm]
  simp [members, facts, timed, writeObject, separated, writeMember]

theorem write_eq (r : Response) : r.write = r.head ++ (writeDouble r.extra.took ++ r.tail) := by
  rw [head_tail]
  rfl

/-- Whether a response can be read back: its metadata was accepted, and its counts fit 64 bits. -/
structure Fit (r : Response) : Prop where
  citing : ∀ b ∈ r.citing, b.Accepted
  cited : ∀ b ∈ r.cited, b.Accepted
  unmatchedCitingCount : r.extra.unmatchedCitingCount < word64
  unmatchedCitedCount : r.extra.unmatchedCitedCount < word64
  citingCount : r.extra.citingCount < word64
  citedCount : r.extra.citedCount < word64

variable {r : Response} {tok : Bytes} {x : Binary64}

theorem Fit.written_extra (h : r.Fit) (htok : Written readDouble tok x) :
    Written Extra.shape.read (timed r.extra tok) { r.extra with took := x } :=
  let e := r.extra
  Shape.written
    (d := ⟨some x, some e.unmatchedCitingCount, some e.unmatchedCitedCount, some e.citingCount,
      some e.citedCount, some e.cached⟩)
    (.optional rfl rfl htok
      (.optional rfl rfl (written_nat h.unmatchedCitingCount "usize")
      (.optional rfl rfl (written_nat h.unmatchedCitedCount "usize")
      (.optional rfl rfl (written_nat h.citingCount "usize")
      (.optional rfl rfl (written_nat h.citedCount "usize")
      (.optional rfl rfl (written_bool e.cached) (.done _))))))) rfl

/-- **A response is read back, with the number that stands for its time.** -/
theorem Fit.written (h : r.Fit) (htok : Written readDouble tok x) :
    Written Response.shape.read (r.head ++ (tok ++ r.tail)) (r.withTook x) := by
  rw [head_tail]
  exact Shape.written
    (d := ⟨some r.id, some r.doi, some r.citing, some r.cited, some r.unmatched,
      some { r.extra with took := x }⟩)
    (.required rfl rfl (written_string r.id)
      (.required rfl rfl (written_string r.doi)
      (.optional rfl rfl (written_blobs h.citing)
      (.optional rfl rfl (written_blobs h.cited)
      (.optional rfl rfl r.unmatched.written
      (.optional rfl rfl (h.written_extra htok) (.done _))))))) rfl

/-- **A whole response is read back, with the number that stands for its time.** -/
theorem Fit.ofText (h : r.Fit) (htok : Written readDouble tok x) :
    Response.ofText (r.head ++ (tok ++ r.tail)) = .ok (r.withTook x) :=
  (h.written htok).readDocument_eq

end Response

end CitationFusion
