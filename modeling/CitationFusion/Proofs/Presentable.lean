import CitationFusion.Proofs.Clock
import CitationFusion.Proofs.Patching
import CitationFusion.Proofs.Play
import CitationFusion.Proofs.RoundTrip
import CitationFusion.Proofs.Settlement

/-!
# What is answered can be sent

Whatever is found in the cache and whatever the stores answer, what a request for a record answers
has a text, and that text is one document.

* `Presentable` : the answers that can be sent.
* `resolve_meets_answering` : a request answers those only.
* `Session.resolve_presentable` : unless its answer would be kept for longer than the clock can
  express.
-/

namespace CitationFusion

open Plan

/-- Whether an answer to a request for a record can be sent: a text that was kept is a document, a
    response has a text, and that there is nothing around a record is said of the one asked for. -/
def Presentable (id : String) : Except Failure Resolution → Prop
  | .error _ => True
  | .ok (.cached body) => Json.isDocument body = true
  | .ok (.resolved r) => r.Sendable
  | .ok (.noRelated id' _) => id' = id

/-- **Such an answer has a document as its text.** -/
theorem Presentable.isDocument_body {id : String} {r : Resolution} (h : Presentable id (.ok r)) :
    Json.isDocument r.body = true := by
  cases r with
  | cached body => exact h
  | resolved response => exact Response.Sendable.isDocument h
  | noRelated id' doi =>
    have hvalue : Json.IsValue (writeNoRelated id' doi) := by
      refine .object fun m hm => ?_
      simp only [List.mem_cons, List.not_mem_nil, or_false] at hm
      rcases hm with rfl | rfl
      · exact ⟨_, _, rfl, Json.isValue_string _⟩
      · exact ⟨_, _, rfl, Json.isValue_string _⟩
    exact hvalue.isDocument

/-- A request relies on the clock alone. It keeps texts for the time that is set, and its answer can
    be sent. -/
def answering (id : String) (ttl : Duration) :
    Contract (StoreCall IndexCall) (StoreCall.Answer IndexCall.Answer)
      (Except Failure Resolution) where
  answers _ _ := True
  reading := Instant.Valid
  found _ _ := True
  keeps _ _ d := d = ttl
  sound _ _ _ _ := trivial
  finishes := Presentable id

/-- **What a request answers can be sent**, whatever the stores answer and whatever is found. -/
theorem resolve_meets_answering (s : Settings) (u : Bool) (id : String) :
    (resolve s u id).Meets (answering id s.cacheTtl) := by
  refine resolve_meets (fun _ body t t' _ hdoc _ ht' => ?_) fun t _ => ?_
  · exact Took.isDocument_patch hdoc (ht'.secs_since t)
  refine fresh_induct (stepwise_meets fun _ => trivial) (fun _ => rfl) fun doi e M c _ _ _ hc => ?_
  refine deliver_meets (fun t' ht' => ?_) fun _ t' ht' _ => ⟨rfl, ?_⟩
  · exact ⟨hc.citing, hc.cited, t'.since t, ht'.secs_since t, rfl⟩
  · exact ⟨hc.citing, hc.cited, t'.since t, ht'.secs_since t, rfl⟩

variable {σ : Type} {w : World (StoreCall IndexCall) (StoreCall.Answer IndexCall.Answer) σ}
  {drift : Nat → Duration} {S : Session σ} {id : String}

/-- **A request is answered, and its answer can be sent**, if the clock can express when the answer
    expires. -/
theorem Session.resolve_presentable
    (fits : (S.resolve (.drifting w drift) id).2.1.now.add? S.service.settings.cacheTtl ≠ none) :
    ∃ a, (S.resolve (.drifting w drift) id).1 = .answered a ∧ Presentable id a := by
  let p := CitationFusion.resolve S.service.settings S.service.useCache id
  let out := p.drifting w (some S.deadline) drift 0 S.scene
  have hlast : out.2.now.Valid := Instant.valid_of_add?_ne_none fits
  have hkept : Kept (answering id S.service.settings.cacheTtl) out.1 out.2 :=
    (resolve_meets_answering S.service.settings S.service.useCache id).drifting
      (fun _ _ => trivial) (fun t ht => Instant.Valid.mono hlast ht) (fun _ _ => trivial)
  have hverdict : (S.resolve (.drifting w drift) id).1 = verdict out.1 := rfl
  rw [hverdict]
  cases hend : out.1 with
  | finished a => exact ⟨a, rfl, hkept.finished a hend⟩
  | cutOff => exact ⟨.error .canceled, rfl, trivial⟩
  | overflowed =>
    obtain ⟨key, value, ttl, rfl, hoverflow⟩ := hkept.overflowed hend
    exact absurd hoverflow fits

end CitationFusion
