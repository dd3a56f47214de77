import CitationFusion.Proofs.Took

/-!
# A response and its text

Metadata is put into the text of a response as it is, so what keeps the text one document, and each
piece of metadata in its place, is that accepted metadata ends by itself.

* `Response.Sendable` : the responses that have a text at all.
* `Response.Sendable.isDocument` : the text is one document.
* `Response.ofText_write` : it is read back, and no metadata changes what is read beside it.
-/

namespace CitationFusion

open Ascii Json

namespace Response

/-! ## 1. The text is one document -/

/-- Whether the metadata of a response was accepted, and its time is that of some span. -/
structure Sendable (r : Response) : Prop where
  citing : ∀ b ∈ r.citing, b.Accepted
  cited : ∀ b ∈ r.cited, b.Accepted
  timed : r.Timed

theorem isValue_nat (n : Nat) : IsValue (writeNat n) := by
  rw [← Numeral.text_ofNat]
  exact (Numeral.ofNat n).isValue

theorem isValue_blobs {l : List Blob} (h : ∀ b ∈ l, b.Accepted) :
    IsValue (writeList (l.map Blob.text)) := by
  refine .list fun v hv => ?_
  obtain ⟨b, hb, rfl⟩ := List.mem_map.1 hv
  exact (h b hb).written.one

variable {r : Response}

/-- **The facts about a response are one value**, whatever its counts. -/
theorem Timed.isValue_extra (h : r.Timed) : IsValue r.extra.write := by
  obtain ⟨x, hx⟩ := h.written
  refine .object fun m hm => ?_
  simp only [List.mem_cons, List.not_mem_nil, or_false] at hm
  rcases hm with rfl | rfl | rfl | rfl | rfl | rfl
  · exact ⟨_, _, rfl, hx.one⟩
  · exact ⟨_, _, rfl, isValue_nat _⟩
  · exact ⟨_, _, rfl, isValue_nat _⟩
  · exact ⟨_, _, rfl, isValue_nat _⟩
  · exact ⟨_, _, rfl, isValue_nat _⟩
  · exact ⟨_, _, rfl, (written_bool _).one⟩

/-- **The text of a response is one document**, whatever its counts. -/
theorem Sendable.isDocument (h : r.Sendable) : isDocument r.write = true := by
  have hvalue : IsValue r.write := by
    refine .object fun m hm => ?_
    simp only [List.mem_cons, List.not_mem_nil, or_false] at hm
    rcases hm with rfl | rfl | rfl | rfl | rfl | rfl
    · exact ⟨_, _, rfl, isValue_string _⟩
    · exact ⟨_, _, rfl, isValue_string _⟩
    · exact ⟨_, _, rfl, isValue_blobs h.citing⟩
    · exact ⟨_, _, rfl, isValue_blobs h.cited⟩
    · exact ⟨_, _, rfl, r.unmatched.written.one⟩
    · exact ⟨_, _, rfl, h.timed.isValue_extra⟩
  exact hvalue.isDocument

theorem Fit.sendable (h : r.Fit) (ht : r.Timed) : r.Sendable := ⟨h.citing, h.cited, ht⟩

/-! ## 2. The text is read back -/

/-- What is written for the time of a response is read by itself as it is read in the response. -/
theorem Fit.ofText_eq (h : r.Fit) {x : Binary64}
    (hx : Written readDouble (writeDouble r.extra.took) x) :
    Response.ofText r.write = .ok (r.withTook x) := by
  rw [write_eq]
  exact h.ofText hx

/-- **A response is read back from its text**, but for its time, which is what the number that was
    printed for it is read as. Whatever metadata stands in the place of other metadata, exactly that
    is read there, item by item, and everything else as before. -/
theorem ofText_write {t : Duration} (hr : r.Fit) (htook : r.extra.took = t.seconds)
    (ht : t.secs < word64) :
    let text := (Resolution.resolved r).body
    Json.isDocument text = true ∧
    ∃ x, readDocument readDouble (writeDouble r.extra.took) = .ok x ∧
      Response.ofText text = .ok (r.withTook x) ∧
      ∀ citing cited : List Blob, (∀ b ∈ citing, b.Accepted) → (∀ b ∈ cited, b.Accepted) →
        Response.ofText (Resolution.resolved { r with citing, cited }).body =
          .ok { r.withTook x with citing, cited } := by
  have htimed : r.Timed := ⟨t, ht, htook⟩
  obtain ⟨x, hx⟩ := htimed.written
  refine ⟨(hr.sendable htimed).isDocument, x, hx.readDocument_eq, hr.ofText_eq hx, ?_⟩
  intro citing cited hciting hcited
  have hfit : ({ r with citing, cited } : Response).Fit :=
    { hr with citing := hciting, cited := hcited }
  exact hfit.ofText_eq hx

/-- Metadata that looks like the end of a list of metadata, and the beginning of another. -/
def breakout : Blob := ⟨Utf8.ofString "\"],\\\"cited\\\":[1\""⟩

theorem breakout_accepted : breakout.Accepted := by
  have e : breakout.text = writeString "],\"cited\":[1" := by decide
  refine ⟨"r", breakout.text, Blob.accept_of_isValue "r" ?_ (by decide) (Utf8.decode_encode _)⟩
  rw [e]
  exact isValue_string _

/-- A response whose names need every kind of escape, whose metadata looks like the end of where it
    stands, and whose counts and time are the greatest. -/
def hostile : Response where
  id := "\"\\\n\x01é😀"
  doi := "\"],\"citing\":["
  citing := [breakout, ⟨impostor⟩, breakout]
  cited := [⟨impostor⟩]
  unmatched := ⟨[⟨"\x1f\x7f"⟩], [⟨"\x5d\x7d"⟩, ⟨""⟩]⟩
  extra :=
    { took := (Duration.ofNanos (word64 * nanosPerSecond - 1)).seconds
      unmatchedCitingCount := word64 - 1
      unmatchedCitedCount := word64 - 1
      citingCount := word64 - 1
      citedCount := word64 - 1
      cached := true }

theorem hostile_fit : hostile.Fit where
  citing b hb := by
    simp only [hostile, List.mem_cons, List.not_mem_nil, or_false] at hb
    rcases hb with rfl | rfl | rfl
    · exact breakout_accepted
    · exact impostor_accepted
    · exact breakout_accepted
  cited b hb := List.mem_singleton.1 hb ▸ impostor_accepted
  unmatchedCitingCount := by decide
  unmatchedCitedCount := by decide
  citingCount := by decide
  citedCount := by decide

theorem ofText_write_hostile :
    Json.isDocument hostile.write = true ∧ ∃ x, Response.ofText hostile.write =
      .ok (hostile.withTook x) := by
  obtain ⟨hdoc, x, -, hread, -⟩ := ofText_write hostile_fit rfl
    (t := .ofNanos (word64 * nanosPerSecond - 1)) (by decide)
  exact ⟨hdoc, x, hread⟩

end Response

end CitationFusion
