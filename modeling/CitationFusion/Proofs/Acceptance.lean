import CitationFusion.Proofs.Patching

/-!
# Which metadata is accepted

Metadata is accepted exactly when all of it is UTF-8 and one document. The white space around the
value is ASCII, so what is kept is UTF-8 if all of it was.

* `Unusable` : the answers that are refused.
* `Blob.accept_error_iff` : metadata is refused exactly then.
* `Blob.accept_error_indexData` : and blamed on the store that answered it.
-/

namespace CitationFusion

open Json

theorem toNat_of_isSpace {b : UInt8} (h : isSpace b = true) : b.toNat < 0x80 := by
  simp only [isSpace, Bool.or_eq_true, beq_iff_eq] at h
  rcases h with ((rfl | rfl) | rfl) | rfl <;> decide

/-- Whether an answer of the index data store is no metadata: it is not UTF-8, or not one
    document. -/
def Unusable (answer : Bytes) : Prop :=
  (∀ cs, Utf8.decode answer ≠ .ok cs) ∨ isDocument answer = false

namespace Blob

variable {id : String} {answer : Bytes}

/-- **Of a document in UTF-8 the value is kept**, and only white space is left behind it. -/
theorem readVerbatim_of_isDocument {cs : List Char} (htext : Utf8.decode answer = .ok cs)
    (hdoc : isDocument answer = true) :
    ∃ v rest, readVerbatim answer = .ok (v, rest) ∧ skipSpace rest = [] := by
  obtain ⟨rest, hskim, hrest⟩ := Took.isDocument_iff.1 hdoc
  have hstart : skim (skipSpace answer) = .ok rest :=
    (skimFrom_value_congr (skipSpace_skipSpace answer)).trans hskim
  obtain ⟨v, hv, -⟩ := isValue_of_skim hstart
  have hsplit : answer = answer.takeWhile isSpace ++ (v ++ rest) := by
    rw [← hv]
    exact List.takeWhile_append_dropWhile.symm
  have hbefore : ∀ b ∈ answer.takeWhile isSpace, b.toNat < 0x80 :=
    fun b hb => toNat_of_isSpace (List.mem_takeWhile_imp hb)
  have hbehind : ∀ b ∈ rest, b.toNat < 0x80 :=
    fun b hb => toNat_of_isSpace (List.dropWhile_eq_nil_iff.1 hrest b hb)
  rw [hsplit] at htext
  obtain ⟨ds, hds⟩ := Utf8.decode_between hbefore hbehind htext
  have hlength : (v ++ rest).length - rest.length = v.length := by
    rw [List.length_append, Nat.add_sub_cancel]
  refine ⟨v, rest, ?_, hrest⟩
  unfold readVerbatim
  rw [hv] at hstart ⊢
  simp only [hstart, hlength, List.take_left, hds]

theorem isDocument_of_readDocument {v : Bytes} (h : readDocument readVerbatim answer = .ok v) :
    isDocument answer = true := by
  unfold readDocument at h
  split at h
  · cases h
  · rename_i a rest hread
    -- a text is kept as it is only behind a value that was passed over
    have hskim : skim (skipSpace answer) = .ok rest := by
      unfold readVerbatim at hread
      simp only at hread
      split at hread
      · cases hread
      · rename_i rest' hskim
        split at hread
        · cases hread
          exact hskim
        · cases hread
    rw [Took.isDocument_iff]
    refine ⟨rest, (skimFrom_value_congr (skipSpace_skipSpace answer)).symm.trans hskim, ?_⟩
    cases hs : skipSpace rest with
    | nil => rfl
    | cons b r =>
      simp only [finish, hs] at h
      cases h

/-- **Metadata is refused exactly when it is unusable.** -/
theorem accept_error_iff : (∃ f, Blob.accept id answer = .error f) ↔ Unusable answer := by
  unfold Blob.accept
  simp only
  cases htext : Utf8.decode answer with
  | error fault =>
    have hnone : ∀ cs, Utf8.decode answer ≠ .ok cs := by
      intro cs h
      rw [htext] at h
      cases h
    exact ⟨fun _ => .inl hnone, fun _ => ⟨_, rfl⟩⟩
  | ok cs =>
    simp only
    constructor
    · rintro ⟨f, hf⟩
      refine .inr ?_
      by_contra hdoc
      rw [Bool.not_eq_false] at hdoc
      obtain ⟨v, rest, hread, hrest⟩ := readVerbatim_of_isDocument htext hdoc
      simp only [readDocument, hread, finish, hrest] at hf
      cases hf
    · rintro (h | h)
      · exact absurd htext (h cs)
      · split
        · exact ⟨_, rfl⟩
        · rename_i v hread
          rw [isDocument_of_readDocument hread] at h
          cases h

/-- **Refused metadata is blamed on the index data store.** -/
theorem accept_error_indexData {f : Failure} (h : Blob.accept id answer = .error f) :
    ∃ message, f = .indexData message := by
  unfold Blob.accept at h
  simp only at h
  split at h
  · cases h
    exact ⟨_, rfl⟩
  · split at h
    · cases h
      exact ⟨_, rfl⟩
    · cases h

end Blob

end CitationFusion
