import CitationFusion.Proofs.Clock
import CitationFusion.Proofs.Neighbourhood
import CitationFusion.Proofs.Resolve
import CitationFusion.Proofs.Took

/-!
# What is kept, and what is served

* `Whole` : what is true of every response of a request for a record.
* `KeptText` : the texts that are kept. They are documents, they have a place for the time, and
  with a new time in it they are read back.
* `resolving`, `resolve_meets_resolving` : a request keeps such texts only, and answers such
  responses only, as long as the stores answer lists that can be counted and the clock is a clock.
-/

namespace CitationFusion

open Json Plan

/-! ## 1. Responses -/

/-- A response of a request for the record `id`: its counts are the lengths of its lists, and the
    documents without a local record are in order and on one side only. -/
structure Whole (id : String) (r : Response) : Prop where
  id : r.id = id
  citingCount : r.extra.citingCount = r.citing.length
  citedCount : r.extra.citedCount = r.cited.length
  unmatchedCitingCount : r.extra.unmatchedCitingCount = r.unmatched.citing.length
  unmatchedCitedCount : r.extra.unmatchedCitedCount = r.unmatched.cited.length
  citingAscending : Ascending r.unmatched.citing
  citedAscending : Ascending r.unmatched.cited
  disjoint : ∀ s ∈ r.unmatched.citing, s ∉ r.unmatched.cited
  fit : r.Fit
  timed : r.Timed

/-- A text that may be kept under a key: a response of a request for it, marked as kept. -/
def KeptText (key : String) (text : Bytes) : Prop :=
  ∃ r : Response, text = r.write ∧ Whole key r ∧ r.extra.cached = true

/-- A text that may be served to a request: it is read back as a response of a request for the
    record, marked as kept, but for the time. -/
def Served (id : String) (text : Bytes) : Prop :=
  ∃ r y, Response.ofText text = .ok (r.withTook y) ∧ Whole id r ∧ r.extra.cached = true

variable {key : String} {text : Bytes} {d : Duration}

/-- **A kept text is one JSON document.** -/
theorem KeptText.isDocument (h : KeptText key text) : isDocument text = true := by
  obtain ⟨r, rfl, hr, -⟩ := h
  obtain ⟨x, hx⟩ := hr.timed.written
  rw [Response.write_eq]
  exact (hr.fit.written hx).one.isDocument

/-- **A kept text has a place for the time.** -/
theorem KeptText.patch? (h : KeptText key text) (d : Duration) :
    ∃ patched, Took.patch? text d = some patched := by
  obtain ⟨r, rfl, hr, -⟩ := h
  exact ⟨_, hr.timed.patch?_eq d⟩

/-- **A kept text is read back with any new time.** -/
theorem KeptText.served (h : KeptText key text) (hd : d.secs < word64) :
    Served key (Took.patch text d) := by
  obtain ⟨r, rfl, hr, hc⟩ := h
  obtain ⟨y, hy⟩ := hr.fit.ofText_patch hr.timed hd
  exact ⟨r, y, hy, hr, hc⟩

/-! ## 2. Requests -/

/-- Whether the lists of an answer are of a length that can be counted, as every list in a memory
    of 64 bits is. -/
def Countable (c : StoreCall IndexCall) (answer : StoreCall.Answer IndexCall.Answer c) : Prop :=
  match c, answer with
  | .edges _, answer =>
    ∀ e : Edges, answer = Except.ok e → e.citing.length < word64 ∧ e.cited.length < word64
  | .idsForDois _, answer => ∀ M : List Mapping, answer = Except.ok M → M.length < word64
  | _, _ => True

/-- **What was collected makes a response of a request for the record**, whenever it is
    delivered. -/
theorem response_whole (id doi : String) {e : Edges} {M : List Mapping} {c : Collected}
    (he : e.citing.length < word64 ∧ e.cited.length < word64) (hM : M.length < word64)
    (hc : Gathered M.length c) (hd : d.secs < word64) (kept : Bool) :
    let r := (Neighbourhood.ofEdges id doi e).response M c
    Whole id { r with extra := { r.extra with took := d.seconds, cached := kept } } := by
  have hlen := hc.length_le
  obtain ⟨h1, h2⟩ := Neighbourhood.length_unmatchedOn_ofEdges id doi e M
  exact {
    id := rfl
    citingCount := rfl
    citedCount := rfl
    unmatchedCitingCount := rfl
    unmatchedCitedCount := rfl
    citingAscending := Neighbourhood.unmatchedOn_ascending _ M .citing
    citedAscending := Neighbourhood.unmatchedOn_ascending _ M .cited
    disjoint := fun _ hs => Neighbourhood.unmatchedOn_disjoint hs
    fit := {
      citing := hc.citing
      cited := hc.cited
      unmatchedCitingCount := Nat.lt_of_le_of_lt h1 he.1
      unmatchedCitedCount := Nat.lt_of_le_of_lt h2 he.2
      citingCount := show c.citing.length < word64 by omega
      citedCount := show c.cited.length < word64 by omega }
    timed := ⟨d, hd, rfl⟩ }

/-- What a request for a record may answer. -/
def Answer (id : String) (a : Except Failure Resolution) : Prop :=
  (∀ body, a = .ok (.cached body) → Served id body) ∧ (∀ r, a = .ok (.resolved r) → Whole id r)

/-- What a request for a record relies on, and what it promises. -/
def resolving (id : String) :
    Contract (StoreCall IndexCall) (StoreCall.Answer IndexCall.Answer)
      (Except Failure Resolution) where
  answers := Countable
  reading := Instant.Valid
  found := KeptText
  keeps key text _ := KeptText key text
  sound _ _ _ h := h
  finishes := Answer id

/-- **A request keeps, serves and answers what it should**, whatever the stores answer. -/
theorem resolve_meets_resolving (s : Settings) (u : Bool) (id : String) :
    (resolve s u id).Meets (resolving id) := by
  have failed : ∀ f, Answer id (.error f) := fun f => ⟨nofun, nofun⟩
  refine resolve_meets (fun _ body t t' hbody _ _ ht' => ⟨fun b hb => ?_, nofun⟩) fun t ht => ?_
  · cases hb
    exact hbody.served (ht'.secs_since t)
  refine fresh_induct (stepwise_meets failed) (fun doi => ⟨nofun, nofun⟩)
    fun doi e M c _ he hM hc => ?_
  have hedges := he e rfl
  have hmappings := hM M rfl
  refine deliver_meets (fun t' ht' => ⟨nofun, fun r hr => ?_⟩)
    (fun _ t' ht' _ => ⟨?_, nofun, fun r hr => ?_⟩)
  · cases hr
    exact response_whole id doi hedges hmappings hc (ht'.secs_since t) false
  · exact ⟨_, rfl, response_whole id doi hedges hmappings hc (ht'.secs_since t) true, rfl⟩
  · cases hr
    exact response_whole id doi hedges hmappings hc (ht'.secs_since t) true

end CitationFusion
