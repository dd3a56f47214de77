import CitationFusion.Proofs.Neighbourhood
import CitationFusion.Proofs.Resolve
import CitationFusion.Proofs.Settlement
import CitationFusion.Service

/-!
# What a response joins

* `Fused` : the response that some answers of the stores stand for, in terms of the lists that
  they answer.
* `settlement_fused` : it is what a record resolves to.
* `Session.resolve_fused` : and what a request answers that finds nothing in the cache.
-/

namespace CitationFusion

open Plan

/-! ## 1. The answers of the stores -/

section Answers

variable {σ : Type} (w : World (StoreCall IndexCall) (StoreCall.Answer IndexCall.Answer) σ)

/-- The stores answer the fetches of some local records, one after the other: with metadata that
    is accepted, or that there is none. -/
inductive Fetched : σ → List Mapping → List (Option Blob) → Prop where
  | nil (s : σ) : Fetched s [] []
  | absent {s : σ} {m : Mapping} {M : List Mapping} {found : List (Option Blob)} {id : String}
      (answer : (w.respond s (.index (.fetch m.id))).2.answer = Except.error (.notFound id))
      (rest : Fetched (w.respond s (.index (.fetch m.id))).1 M found) :
      Fetched s (m :: M) (none :: found)
  | present {s : σ} {m : Mapping} {M : List Mapping} {found : List (Option Blob)} {bytes : Bytes}
      {b : Blob} (answer : (w.respond s (.index (.fetch m.id))).2.answer = Except.ok bytes)
      (accepted : Blob.accept m.id bytes = .ok b)
      (rest : Fetched (w.respond s (.index (.fetch m.id))).1 M found) :
      Fetched s (m :: M) (some b :: found)

/-- The stores answer everything that is asked of them for a record: its DOI, the edges of that,
    the local records of the documents around it, and the metadata of each. -/
structure Answered (s : σ) (id doi : String) (e : Edges) (M : List Mapping)
    (found : List (Option Blob)) : Prop where
  saysDoi : (w.respond s (.doiForId id)).2.answer = Except.ok doi
  saysEdges : (w.respond (w.respond s (.doiForId id)).1 (.edges doi)).2.answer = Except.ok e
  nonempty : e.isEmpty = false
  saysMappings : (w.respond (w.respond (w.respond s (.doiForId id)).1 (.edges doi)).1
    (.idsForDois (Neighbourhood.ofEdges id doi e).related.toList)).2.answer = Except.ok M
  related : ∀ m ∈ M, m.doi ∈ e.citing ∨ m.doi ∈ e.cited
  fetched : Fetched w (w.respond (w.respond (w.respond s (.doiForId id)).1 (.edges doi)).1
    (.idsForDois (Neighbourhood.ofEdges id doi e).related.toList)).1 M found

end Answers

/-- Stores that know the DOI of one record, after some time, and the edges of that, and the metadata
    of the record `1` only. -/
def knowing (takes : Duration) (e : Edges) (M : List Mapping) :
    World (StoreCall IndexCall) (StoreCall.Answer IndexCall.Answer) Unit where
  respond _
    | .doiForId _ => ((), ⟨some takes, .ok "a"⟩)
    | .edges _ => ((), ⟨some .zero, .ok e⟩)
    | .idsForDois _ => ((), ⟨some .zero, .ok M⟩)
    | .index (.fetch id) =>
      ((), ⟨some .zero, if id = "1" then .ok (Utf8.ofString "1") else .error (.notFound id)⟩)
    | .index .ping => ((), ⟨some .zero, .ok ()⟩)
    | .index .count => ((), ⟨some .zero, .ok 1⟩)
    | .idForDoi _ => ((), ⟨some .zero, .ok "r"⟩)
    | .pingIdentifiers | .pingCitations => ((), ⟨some .zero, .ok ()⟩)
    | .countIdentifiers | .countCitations => ((), ⟨some .zero, .ok 1⟩)

theorem accept_numeral (id : String) :
    Blob.accept id (Utf8.ofString "1") = .ok ⟨Utf8.ofString "1"⟩ := by
  have e : Utf8.ofString "1" = Json.writeNat 1 := by decide
  refine Blob.accept_of_isValue id ?_ (by decide) (Utf8.decode_encode _)
  rw [e]
  exact (Json.written_nat (by decide) "usize").one

/-! ## 2. The response -/

/-- The metadata that was found of the local records whose DOIs have a property, in order. -/
def picked (p : String → Bool) (M : List Mapping) (found : List (Option Blob)) : List Blob :=
  (M.zip found).filterMap fun x => if p x.1.doi then x.2 else none

/-- The response that the answers of the stores stand for. Documents on both sides count as ones
    that the record cites. -/
structure Fused (id doi : String) (e : Edges) (M : List Mapping) (found : List (Option Blob))
    (r : Response) : Prop where
  id : r.id = id
  doi : r.doi = doi
  citing : r.citing = picked (fun x => x ∈ e.citing) M found
  cited : r.cited = picked (fun x => x ∈ e.cited ∧ x ∉ e.citing) M found
  unmatchedCiting : ∀ s, s ∈ r.unmatched.citing ↔ s.doi ∈ e.citing ∧ s.doi ∉ M.map Mapping.doi
  unmatchedCited : ∀ s, s ∈ r.unmatched.cited ↔
    (s.doi ∈ e.cited ∧ s.doi ∉ e.citing) ∧ s.doi ∉ M.map Mapping.doi
  citingAscending : Ascending r.unmatched.citing
  citedAscending : Ascending r.unmatched.cited
  citingCount : r.extra.citingCount = r.citing.length
  citedCount : r.extra.citedCount = r.cited.length
  unmatchedCitingCount : r.extra.unmatchedCitingCount = r.unmatched.citing.length
  unmatchedCitedCount : r.extra.unmatchedCitedCount = r.unmatched.cited.length

variable {id doi : String} {e : Edges} {M : List Mapping} {found : List (Option Blob)}

/-- What a response joins does not depend on the time that it took. -/
theorem Fused.of_timeless {q r : Response} (h : Fused id doi e M found q)
    (hqr : r.timeless = q.timeless) : Fused id doi e M found r := by
  simp only [Response.timeless, Response.mk.injEq, Extra.mk.injEq] at hqr
  obtain ⟨h1, h2, h3, h4, h5, -, h6, h7, h8, h9, -⟩ := hqr
  constructor
  · exact h1.trans h.id
  · exact h2.trans h.doi
  · exact h3.trans h.citing
  · exact h4.trans h.cited
  · rw [h5]; exact h.unmatchedCiting
  · rw [h5]; exact h.unmatchedCited
  · rw [h5]; exact h.citingAscending
  · rw [h5]; exact h.citedAscending
  · rw [h8, h3]; exact h.citingCount
  · rw [h9, h4]; exact h.citedCount
  · rw [h6, h5]; exact h.unmatchedCitingCount
  · rw [h7, h5]; exact h.unmatchedCitedCount

theorem picked_none {p : String → Bool} {m : Mapping} :
    picked p (m :: M) (none :: found) = picked p M found := by
  unfold picked
  rw [List.zip_cons_cons, List.filterMap_cons]
  simp

theorem picked_some {p : String → Bool} {m : Mapping} {b : Blob} :
    picked p (m :: M) (some b :: found) =
      if p m.doi then b :: picked p M found else picked p M found := by
  unfold picked
  rw [List.zip_cons_cons, List.filterMap_cons]
  split <;> simp_all

section Settle

variable {σ : Type} {w : World (StoreCall IndexCall) (StoreCall.Answer IndexCall.Answer) σ}

/-- The metadata of one side that was found. -/
def onSide (n : Neighbourhood) (side : Direction) (M : List Mapping) (found : List (Option Blob)) :
    List Blob :=
  picked (fun x => n.classify x == some side) M found

/-- **Collecting goes on with the metadata that was found**, each on its side, in order. -/
theorem collect_ideal {n : Neighbourhood}
    (next : Collected → StorePlan (Except Failure Resolution)) (now : Instant) {s : σ}
    (hf : Fetched w s M found) (hM : ∀ m ∈ M, m.doi ∈ n.related) (c : Collected) :
    ∃ s', (collect n next M c).ideal w now s =
      (next ⟨c.citing ++ onSide n .citing M found, c.cited ++ onSide n .cited M found⟩).ideal
        w now s' := by
  induction hf generalizing c with
  | nil s => exact ⟨s, by simp [collect, onSide, picked]⟩
  | @absent s m M found id answer _ ih =>
    obtain ⟨s', hs'⟩ := ih (fun m hm => hM m (by simp [hm])) c
    refine ⟨s', ?_⟩
    unfold collect
    split
    · rename_i hnone
      exact absurd (hM m (by simp)) (Neighbourhood.classify_none.1 hnone)
    · rw [ideal, answer]
      simp only [onSide, picked_none]
      exact hs'
  | @present s m M found bytes b answer accepted _ ih =>
    unfold collect
    split
    · rename_i hnone
      exact absurd (hM m (by simp)) (Neighbourhood.classify_none.1 hnone)
    · rename_i side hside
      obtain ⟨s', hs'⟩ := ih (fun m hm => hM m (by simp [hm])) (c.push side b)
      refine ⟨s', ?_⟩
      rw [ideal, answer]
      simp only [accepted]
      rw [hs']
      cases side <;> simp [onSide, picked_some, hside, Collected.push]

theorem classify_ofEdges_citing :
    (fun x => (Neighbourhood.ofEdges id doi e).classify x == some .citing) =
      fun x => decide (x ∈ e.citing) := by
  funext x
  rw [Bool.eq_iff_iff, beq_iff_eq, Neighbourhood.classify_citing,
    Neighbourhood.mem_outbound_ofEdges, decide_eq_true_iff]

theorem classify_ofEdges_cited :
    (fun x => (Neighbourhood.ofEdges id doi e).classify x == some .cited) =
      fun x => decide (x ∈ e.cited ∧ x ∉ e.citing) := by
  funext x
  rw [Bool.eq_iff_iff, beq_iff_eq, Neighbourhood.classify_cited,
    Neighbourhood.mem_outbound_ofEdges, Neighbourhood.mem_inbound_ofEdges, decide_eq_true_iff]

/-- The response to the metadata that was found is what the answers stand for. -/
theorem response_fused (M : List Mapping) (found : List (Option Blob)) :
    let n := Neighbourhood.ofEdges id doi e
    Fused id doi e M found
      (n.response M ⟨onSide n .citing M found, onSide n .cited M found⟩) where
  id := rfl
  doi := rfl
  citing := by
    show onSide _ _ _ _ = _
    rw [onSide, classify_ofEdges_citing]
  cited := by
    show onSide _ _ _ _ = _
    rw [onSide, classify_ofEdges_cited]
  unmatchedCiting s := by
    show s ∈ (Neighbourhood.ofEdges id doi e).unmatchedOn M .citing ↔ _
    rw [Neighbourhood.mem_unmatchedOn, Neighbourhood.classify_citing,
      Neighbourhood.mem_outbound_ofEdges]
  unmatchedCited s := by
    show s ∈ (Neighbourhood.ofEdges id doi e).unmatchedOn M .cited ↔ _
    rw [Neighbourhood.mem_unmatchedOn, Neighbourhood.classify_cited,
      Neighbourhood.mem_outbound_ofEdges, Neighbourhood.mem_inbound_ofEdges]
  citingAscending := Neighbourhood.unmatchedOn_ascending _ M .citing
  citedAscending := Neighbourhood.unmatchedOn_ascending _ M .cited
  citingCount := rfl
  citedCount := rfl
  unmatchedCitingCount := rfl
  unmatchedCitedCount := rfl

/-- **What a record resolves to is the response that the answers of the stores stand for.** -/
theorem settlement_fused {s : σ} (h : Answered w s id doi e M found) :
    ∃ q, (settlement w id s).1 = .ok (.resolved q) ∧ Fused id doi e M found q := by
  have hne : (Neighbourhood.ofEdges id doi e).related.isEmpty = false := by
    rw [Neighbourhood.isEmpty_related_ofEdges]
    exact h.nonempty
  obtain ⟨s', hs'⟩ := collect_ideal (n := .ofEdges id doi e)
    (fun c =>
      .lap ("fetched " ++ toString (c.citing.length + c.cited.length) ++ " blobs") <|
      deliver .standard false ⟨0⟩ ((Neighbourhood.ofEdges id doi e).response M c))
    ⟨0⟩ h.fetched (fun m hm => Neighbourhood.mem_related_ofEdges.2 (h.related m hm)) ⟨[], []⟩
  rw [settlement, fresh, ideal, h.saysDoi]
  simp only [ideal]
  rw [h.saysEdges]
  simp only [join, ideal, hne, Bool.false_eq_true, if_false]
  rw [h.saysMappings]
  simp only [mapped_eq, ideal]
  rw [hs']
  simp only [ideal, deliver_ideal, List.nil_append]
  exact ⟨_, rfl, (response_fused M found).of_timeless (Response.timeless_withTook _ _)⟩

/-- Whether the answer that a request has at some time is to be kept, but for longer than the clock
    can express. -/
def Session.Overruns (S : Session σ) (now : Instant) : Prop :=
  Slow S.service.settings S.service.useCache S.now now ∧
    now.add? S.service.settings.cacheTtl = none

/-- **A request that finds nothing in the cache answers the response that the answers of the stores
    stand for**, unless it is canceled at its deadline. It is broken off exactly when its answer is
    to be kept for longer than the clock can express. -/
theorem Session.resolve_fused {S : Session σ}
    (miss : S.service.useCache = true → ∀ body, (S.cache.get S.now id).1 = some body →
      Json.isDocument body = false)
    (h : Answered w S.world id doi e M found) :
    let out := S.resolve (.direct w) id
    (S.deadline.nanos ≤ out.2.1.now.nanos ∧ out.1 = .answered (.error .canceled)) ∨
    (S.Overruns out.2.1.now ∧ out.1 = .clockOverflow) ∨
    (¬ S.Overruns out.2.1.now ∧ ∃ r, out.1 = .answered (.ok (.resolved r)) ∧
      Fused id doi e M found r) := by
  rcases S.resolved_cases w id with ⟨body, hu, hbody, hdoc, -⟩ | ⟨-, cache, -, heffect, hsame⟩
  · rw [miss hu body hbody] at hdoc
    cases hdoc
  obtain ⟨q, hq, hfused⟩ := settlement_fused h
  rw [hq] at hsame
  show (S.deadline.nanos ≤ (S.resolved w id).2.now.nanos ∧
      Session.verdict (S.resolved w id).1 = _) ∨
    (S.Overruns (S.resolved w id).2.now ∧ Session.verdict (S.resolved w id).1 = _) ∨
    (¬ S.Overruns (S.resolved w id).2.now ∧
      ∃ r, Session.verdict (S.resolved w id).1 = .answered (.ok (.resolved r)) ∧ _)
  generalize (S.resolved w id).1 = ending at heffect hsame ⊢
  generalize (S.resolved w id).2 = last at heffect ⊢
  -- the stores answer everything, so no failure ends the request
  cases heffect with
  | cutOff late => exact .inl ⟨late _ rfl, rfl⟩
  | failed f => cases hsame _ rfl
  | noRelated => cases hsame _ rfl
  | @answered _ r quick =>
    have hr : r.timeless = q.timeless := Resolution.resolved.inj (Except.ok.inj (hsame _ rfl))
    exact .inr (.inr ⟨fun hover => quick hover.1, r, rfl, hfused.of_timeless hr⟩)
  | @kept _ r _ _ fits =>
    have hr : r.timeless = q.timeless := Resolution.resolved.inj (Except.ok.inj (hsame _ rfl))
    refine .inr (.inr ⟨fun hover => ?_, r, rfl, hfused.of_timeless hr⟩)
    rw [hover.2] at fits
    cases fits
  | overflowed slow overflow => exact .inr (.inl ⟨⟨slow, overflow⟩, rfl⟩)

/-- A record with metadata for one of two local records, and a document that was listed twice. -/
theorem Session.resolve_fused_knowing :
    let e : Edges := ⟨["c", "b", "c"], ["b", "d"]⟩
    let M : List Mapping := [⟨"1", "b"⟩, ⟨"2", "d"⟩]
    let S : Session Unit :=
      .start ⟨⟨.ofSecs 30, false, .zero, .ofSecs 60⟩, true, ⟨true, true⟩⟩ ⟨0⟩ ()
    let out := S.resolve (.direct (knowing (.ofMillis 1) e M)) "r"
    (S.deadline.nanos ≤ out.2.1.now.nanos ∧ out.1 = .answered (.error .canceled)) ∨
    (S.Overruns out.2.1.now ∧ out.1 = .clockOverflow) ∨
    (¬ S.Overruns out.2.1.now ∧ ∃ r, out.1 = .answered (.ok (.resolved r)) ∧
      Fused "r" "a" e M [some ⟨Utf8.ofString "1"⟩, none] r) := by
  refine Session.resolve_fused (fun _ _ h => by cases h) ?_
  exact {
    saysDoi := rfl
    saysEdges := rfl
    nonempty := rfl
    saysMappings := rfl
    related := by decide
    fetched := .present rfl (accept_numeral "1") (.absent rfl (.nil _)) }

/-- A slow record, whose answer is to be kept for the longest time that can be set. -/
theorem Session.resolve_overruns_knowing :
    let S : Session Unit :=
      .start ⟨⟨.ofSecs 30, false, .zero, .ofSecs 9223372036854775807⟩, true, ⟨true, true⟩⟩ ⟨0⟩ ()
    Answered (knowing (.ofSecs 1) ⟨["b"], []⟩ []) S.world "r" "a" ⟨["b"], []⟩ [] [] ∧
      (S.resolve (.direct (knowing (.ofSecs 1) ⟨["b"], []⟩ [])) "r").1 = .clockOverflow := by
  refine ⟨?_, rfl⟩
  exact {
    saysDoi := rfl
    saysEdges := rfl
    nonempty := rfl
    saysMappings := rfl
    related := by decide
    fetched := .nil _ }

end Settle

end CitationFusion
