import CitationFusion.Proofs.Neighbourhood
import CitationFusion.Proofs.Plan
import CitationFusion.Proofs.Response

/-!
# The steps of resolving a record

* `Gathered` : what metadata may have been collected, and how much of it.
* `fresh_induct` : what holds of delivering what was collected, and passes from step to step, holds
  of resolving a record.
* `deliver_meets`, `resolve_meets` : what delivering promises, and what a request does.
* `resolve_run` : a record is served from the cache, or resolved as if there were none.
* `Effect`, `fresh_effect` : what resolving a record afresh does to the cache.
-/

namespace CitationFusion

open Plan

/-! ## 1. What is collected -/

/-- Whether only accepted metadata was collected, and at most of `bound` records. -/
structure Gathered (bound : Nat) (c : Collected) : Prop where
  citing : ∀ b ∈ c.citing, b.Accepted
  cited : ∀ b ∈ c.cited, b.Accepted
  length_le : c.citing.length + c.cited.length ≤ bound

theorem gathered_nil : Gathered 0 ⟨[], []⟩ :=
  ⟨fun _ h => absurd h List.not_mem_nil, fun _ h => absurd h List.not_mem_nil, Nat.le_refl _⟩

variable {bound bound' : Nat} {c : Collected}

theorem Gathered.mono (h : Gathered bound c) (hle : bound ≤ bound') : Gathered bound' c :=
  ⟨h.citing, h.cited, Nat.le_trans h.length_le hle⟩

theorem Gathered.push (h : Gathered bound c) (side : Direction) {b : Blob} (hb : b.Accepted) :
    Gathered (bound + 1) (c.push side b) := by
  have hlen := h.length_le
  have more : ∀ l : List Blob, (∀ x ∈ l, x.Accepted) → ∀ x ∈ l ++ [b], x.Accepted := by
    intro l hl x hx
    rcases List.mem_append.1 hx with hx | hx
    · exact hl x hx
    · rw [List.mem_singleton.1 hx]
      exact hb
  cases side with
  | citing =>
    refine ⟨more _ h.citing, h.cited, ?_⟩
    simp only [Collected.push, List.length_append, List.length_singleton]
    omega
  | cited =>
    refine ⟨h.citing, more _ h.cited, ?_⟩
    simp only [Collected.push, List.length_append, List.length_singleton]
    omega

/-! ## 2. Step by step -/

/-- Whether a property of plans passes from what follows a step to the step, the answers of calls
    being as expected, and holds of plans that fail. -/
structure Stepwise
    (answers : (c : StoreCall IndexCall) → StoreCall.Answer IndexCall.Answer c → Prop)
    (P : StorePlan (Except Failure Resolution) → Prop) : Prop where
  call : ∀ c next, (∀ x, answers c x → P (next x)) → P (.call c next)
  lap : ∀ message p, P p → P (.lap message p)
  violate : ∀ message, P (violate message)
  fail : ∀ f, P (.done (.error f))

section Steps

variable {answers : (c : StoreCall IndexCall) → StoreCall.Answer IndexCall.Answer c → Prop}
  {P : StorePlan (Except Failure Resolution) → Prop} {s : Settings} {u : Bool} {started : Instant}

theorem collect_induct (hP : Stepwise answers P) {n : Neighbourhood}
    {next : Collected → StorePlan (Except Failure Resolution)}
    (hnext : ∀ c, Gathered bound c → P (next c)) (M : List Mapping) {i : Nat}
    (hc : Gathered i c) (hi : i + M.length ≤ bound) : P (collect n next M c) := by
  induction M generalizing i c with
  | nil => exact hnext c (hc.mono hi)
  | cons m M ih =>
    rw [List.length_cons] at hi
    unfold collect
    split
    · exact hP.violate _
    · rename_i side _
      refine hP.call _ _ fun x _ => ?_
      split
      · exact ih hc (by omega)
      · exact hP.fail _
      · split
        · exact hP.fail _
        · rename_i b hb
          exact ih (hc.push side ⟨m.id, _, hb⟩) (by omega)

/-- **What passes from step to step holds of resolving a record** if it holds of delivering what
    was collected, and of there being no document around it. -/
theorem fresh_induct (hP : Stepwise answers P) {id : String}
    (none : ∀ doi, P (.done (.ok (.noRelated id doi))))
    (delivered : ∀ doi e M c, answers (.doiForId id) (.ok doi) → answers (.edges doi) (.ok e) →
      answers (.idsForDois (Neighbourhood.ofEdges id doi e).related.toList) (.ok M) →
      Gathered M.length c →
      P (deliver s u started ((Neighbourhood.ofEdges id doi e).response M c))) :
    P (fresh s u started id) := by
  refine hP.call _ _ fun x hx => ?_
  split
  · exact hP.fail _
  · rename_i doi
    refine hP.lap _ _ (hP.call _ _ fun y hy => ?_)
    split
    · exact hP.fail _
    · rename_i e
      refine hP.lap _ _ ?_
      split
      · exact none doi
      · refine hP.call _ _ fun z hz => ?_
        split
        · exact hP.fail _
        · rename_i M
          rw [mapped_eq]
          refine hP.lap _ _ (hP.lap _ _ (collect_induct hP (fun c hc => hP.lap _ _ ?_) M
            gathered_nil (Nat.le_of_eq (Nat.zero_add _))))
          exact delivered doi e M c hx hy hz hc

end Steps

/-! ## 3. Promises -/

section Promises

variable {k : Contract (StoreCall IndexCall) (StoreCall.Answer IndexCall.Answer)
  (Except Failure Resolution)} {s : Settings} {u : Bool} {started : Instant}

theorem stepwise_meets (fail : ∀ f, k.finishes (.error f)) : Stepwise k.answers (Meets k) where
  call _ _ h := h
  lap _ _ h := h
  violate _ := fail _
  fail := fail

/-- **Delivering a response promises what keeping it and answering it do.** -/
theorem deliver_meets {r : Response}
    (hanswer : ∀ t, k.reading t →
      k.finishes (.ok (.resolved (r.withTook (t.since started).seconds))))
    (hkeep : u = true → ∀ t, k.reading t → s.cacheTrigger.nanos < (t.since started).nanos →
      let q := r.withTook (t.since started).seconds
      let q := { q with extra := { q.extra with cached := true } }
      k.keeps q.id q.write s.cacheTtl ∧ k.finishes (.ok (.resolved q))) :
    (deliver s u started r).Meets k := by
  intro t ht
  simp only
  split
  · rename_i h
    simp only [Bool.and_eq_true, decide_eq_true_eq] at h
    exact hkeep h.1 t ht h.2
  · exact hanswer t ht

/-- **Resolving a record promises what serving it from the cache and resolving it afresh do.** -/
theorem resolve_meets {id : String}
    (cached : u = true → ∀ body t t', k.found id body → Json.isDocument body = true →
      k.reading t → k.reading t' → k.finishes (.ok (.cached (Took.patch body (t'.since t)))))
    (anew : ∀ t, k.reading t → (fresh s u t id).Meets k) : (resolve s u id).Meets k := by
  intro t ht
  split
  · rename_i hu
    refine ⟨anew t ht, fun body hbody => ?_⟩
    simp only
    split
    · rename_i hdoc
      exact fun t' ht' => cached hu body t t' hbody hdoc ht ht'
    · exact anew t ht
  · exact anew t ht

end Promises

/-! ## 4. With and without the cache -/

section Run

variable {σ : Type} (w : World (StoreCall IndexCall) (StoreCall.Answer IndexCall.Answer) σ)
  (deadline : Option Instant) (s : Settings) (id : String) (scene : Scene σ)

/-- **A record is served from the cache when a document is found there**; otherwise it is resolved
    as if there were none, with what is left of the cache. -/
theorem resolve_run (u : Bool) :
    (∃ body, u = true ∧ (scene.cache.get scene.now id).1 = some body ∧
      Json.isDocument body = true ∧
      ((resolve s u id).run w deadline scene).1 =
        .finished (.ok (.cached (Took.patch body (scene.now.since scene.now)))) ∧
      ((resolve s u id).run w deadline scene).2.now = scene.now ∧
      ((resolve s u id).run w deadline scene).2.world = scene.world ∧
      ((resolve s u id).run w deadline scene).2.cache = (scene.cache.get scene.now id).2) ∨
    ((u = true → ∀ body, (scene.cache.get scene.now id).1 = some body →
        Json.isDocument body = false) ∧
      ∃ scene' : Scene σ, scene'.now = scene.now ∧ scene'.world = scene.world ∧
        (scene'.cache = scene.cache ∨ scene'.cache = (scene.cache.get scene.now id).2 ∨
          scene'.cache = (scene.cache.get scene.now id).2.delete id) ∧
        (resolve s u id).run w deadline scene =
          (fresh s u scene.now id).run w deadline scene') := by
  cases u with
  | false => exact .inr ⟨nofun, scene, rfl, rfl, .inl rfl, rfl⟩
  | true =>
    cases hget : (scene.cache.get scene.now id).1 with
    | none =>
      refine .inr ⟨nofun, { scene with cache := (scene.cache.get scene.now id).2 }, rfl, rfl,
        .inr (.inl rfl), ?_⟩
      simp only [resolve, if_true, Plan.run, hget]
    | some body =>
      cases hdoc : Json.isDocument body with
      | true =>
        refine .inl ⟨body, rfl, rfl, hdoc, ?_⟩
        simp only [resolve, if_true, Plan.run, hget, hdoc, and_self]
      | false =>
        refine .inr ⟨fun _ b hb => by cases hb; exact hdoc,
          { scene with
            cache := (scene.cache.get scene.now id).2.delete id
            events := scene.events ++ [.evictedCorrupt id] }, rfl, rfl, .inr (.inr rfl), ?_⟩
        simp only [resolve, if_true, Plan.run, hget, hdoc, Bool.false_eq_true, if_false]

/-- Whether an answer took long enough to be kept by a service with a cache. -/
def Slow (s : Settings) (u : Bool) (started now : Instant) : Prop :=
  u = true ∧ s.cacheTrigger.nanos < (now.since started).nanos

/-- What resolving a record afresh does, the cache having been `cache`: how it ends, and where it
    leaves the request. -/
inductive Effect {σ : Type} (s : Settings) (u : Bool) (deadline : Option Instant)
    (started : Instant) (id : String) (cache : Cache) :
    Ending (Except Failure Resolution) → Scene σ → Prop where
  | cutOff {scene : Scene σ}
      (late : ∀ limit, deadline = some limit → limit.nanos ≤ scene.now.nanos)
      (same : scene.cache = cache) :
      Effect s u deadline started id cache .cutOff scene
  | failed {scene : Scene σ} (f : Failure) (same : scene.cache = cache) :
      Effect s u deadline started id cache (.finished (.error f)) scene
  | noRelated {scene : Scene σ} (doi : String) (same : scene.cache = cache) :
      Effect s u deadline started id cache (.finished (.ok (.noRelated id doi))) scene
  | answered {scene : Scene σ} {r : Response} (quick : ¬ Slow s u started scene.now)
      (unmarked : r.extra.cached = false) (same : scene.cache = cache) :
      Effect s u deadline started id cache (.finished (.ok (.resolved r))) scene
  | kept {scene : Scene σ} {r : Response} {expires : Instant} (slow : Slow s u started scene.now)
      (fits : scene.now.add? s.cacheTtl = some expires) (marked : r.extra.cached = true)
      (stored : scene.cache = cache.put id ⟨r.write, expires⟩) :
      Effect s u deadline started id cache (.finished (.ok (.resolved r))) scene
  /-- The clock cannot express when the answer expires. -/
  | overflowed {scene : Scene σ} (slow : Slow s u started scene.now)
      (overflow : scene.now.add? s.cacheTtl = none) (same : scene.cache = cache) :
      Effect s u deadline started id cache .overflowed scene

variable {w deadline s id scene} {u : Bool} {started : Instant}

/-- **The cache stays as it was, or has the answer under the record**, with an end that the clock
    can express. -/
theorem Effect.cache_cases {cache : Cache} {ending : Ending (Except Failure Resolution)}
    (h : Effect s u deadline started id cache ending scene) :
    scene.cache = cache ∨ ∃ r expires, ending = .finished (.ok (.resolved r)) ∧
      r.extra.cached = true ∧ scene.now.add? s.cacheTtl = some expires ∧
      scene.cache = cache.put id ⟨r.write, expires⟩ := by
  cases h with
  | cutOff _ same => exact .inl same
  | failed f same => exact .inl same
  | noRelated doi same => exact .inl same
  | answered _ _ same => exact .inl same
  | @kept _ r expires _ fits marked stored => exact .inr ⟨r, expires, rfl, marked, fits, stored⟩
  | overflowed _ _ same => exact .inl same

/-- Delivering a response keeps it if that took long. -/
theorem deliver_effect {r : Response} (hid : r.id = id) (hr : r.extra.cached = false) :
    Effect s u deadline started id scene.cache ((deliver s u started r).run w deadline scene).1
      ((deliver s u started r).run w deadline scene).2 := by
  unfold deliver
  rw [run_clock]
  simp only
  split
  · rename_i h
    have hslow : Slow s u started scene.now := by simpa [Slow] using h
    rw [run_store]
    cases hset : scene.now.add? s.cacheTtl with
    | none =>
      simp only [Cache.set?, hset, Option.map_none]
      exact .overflowed hslow hset rfl
    | some expires =>
      simp only [Cache.set?, hset, Option.map_some]
      exact .kept hslow hset rfl (by rw [← hid]; rfl)
  · rename_i h
    have hquick : ¬ Slow s u started scene.now := fun hslow => h (by simpa [Slow] using hslow)
    exact .answered hquick hr rfl

/-- **Resolving a record afresh keeps nothing but a slow answer**, under the record, and is broken
    off only where the clock cannot express when that expires. -/
theorem fresh_effect :
    Effect s u deadline started id scene.cache ((fresh s u started id).run w deadline scene).1
      ((fresh s u started id).run w deadline scene).2 := by
  have stepwise : Stepwise (fun _ _ => True) fun p => ∀ scene : Scene σ,
      Effect s u deadline started id scene.cache (p.run w deadline scene).1
        (p.run w deadline scene).2 :=
    { call := fun c next h scene => by
        rw [run_call]
        split
        · rename_i now _
          exact h _ trivial { scene with world := (w.respond scene.world c).1, now }
        · exact .cutOff (fun limit hlimit => hlimit ▸ Nat.le_max_right _ _) rfl
      lap := fun message p h scene => h { scene with watch := scene.watch.record scene.now message }
      violate := fun message scene => .failed _ rfl
      fail := fun f scene => .failed f rfl }
  exact fresh_induct stepwise (fun doi scene => .noRelated doi rfl)
    (fun doi e M c _ _ _ _ scene => deliver_effect rfl rfl) scene

end Run

end CitationFusion
