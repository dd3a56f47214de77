import CitationFusion.Proofs.Fusion
import CitationFusion.Proofs.Integrity
import CitationFusion.Proofs.Play

/-!
# The cache is transparent

A service with a cache and one without are given the same things to do. As long as the stores do
not change, what they answer differs in times only, except where one of them is canceled.

* `Says` : what an answer says, but for the time.
* `Known` : the texts that tell what a record resolves to.
* `Session.resolve_said`, `Session.resolve_known` : a request says what the record resolves to, and
  keeps only texts that tell it.
* `Session.play_transparent` : so does every run.
-/

namespace CitationFusion

open Plan

/-! ## 1. What an answer says -/

/-- What an answer says, but for the time that it took and whether it was kept. A text from the
    cache says what is read from it. -/
inductive Says : Except Failure Resolution → Except Failure Resolution → Prop where
  | failed (f : Failure) : Says (.error f) (.error f)
  | noRelated (id doi : String) : Says (.ok (.noRelated id doi)) (.ok (.noRelated id doi))
  | resolved (r : Response) : Says (.ok (.resolved r)) (.ok (.resolved r.timeless))
  | cached {body : Bytes} {r : Response} (read : Response.ofText body = .ok r) :
      Says (.ok (.cached body)) (.ok (.resolved r.timeless))

section Says

variable {σ : Type} {w : World (StoreCall IndexCall) (StoreCall.Answer IndexCall.Answer) σ}
  {state : σ} {id : String} {deadline : Option Instant} {s : Settings} {u : Bool} {t : Instant}
  {scene : Scene σ} {a : Except Failure Resolution}

/-- Stores whose answers and delays depend on the call alone. -/
def Steady (w : World (StoreCall IndexCall) (StoreCall.Answer IndexCall.Answer) σ) : Prop :=
  ∀ state state' c, (w.respond state c).2 = (w.respond state' c).2

/-- What a record resolves to does not depend on the state of steady stores. -/
theorem Steady.settlement_eq (hw : Steady w) (id : String) (state state' : σ) :
    (settlement w id state).1 = (settlement w id state').1 :=
  ideal_congr (fun s t c => congrArg Delivery.answer (hw s t c)) _ _ _ _

/-- Whoever resolves a record afresh to the end answers nothing from the cache. -/
theorem Effect.said {cache : Cache} (h : Effect s u deadline t id cache (.finished a) scene) :
    Says a (a.map Resolution.timeless) := by
  cases h with
  | failed f => exact .failed f
  | noRelated doi => exact .noRelated id doi
  | @answered _ r => exact .resolved r
  | @kept _ r => exact .resolved r

/-- A text that tells what a record resolves to: that of a response of a request for it, marked as
    kept. -/
def Known (w : World (StoreCall IndexCall) (StoreCall.Answer IndexCall.Answer) σ) (state : σ)
    (key : String) (text : Bytes) : Prop :=
  ∃ r : Response, text = r.write ∧ Whole key r ∧ r.extra.cached = true ∧
    SameButTime (.ok (.resolved r)) (settlement w key state).1

variable {key : String} {text : Bytes}

theorem Known.keptText (h : Known w state key text) : KeptText key text := by
  obtain ⟨r, hr, hwhole, hcached, -⟩ := h
  exact ⟨r, hr, hwhole, hcached⟩

/-- **Serving such a text says what the record resolves to**, whatever time is written into it. -/
theorem Known.said (h : Known w state key text) {d : Duration} (hd : d.secs < word64) :
    Says (.ok (.cached (Took.patch text d)))
      ((settlement w key state).1.map Resolution.timeless) := by
  obtain ⟨r, rfl, hwhole, -, hsame⟩ := h
  obtain ⟨y, hy⟩ := hwhole.fit.ofText_patch hwhole.timed hd
  have hsaid := Says.cached hy
  rw [Response.timeless_withTook] at hsaid
  rw [← hsame]
  exact hsaid

end Says

/-! ## 2. One request -/

namespace Session

variable {σ : Type} {w : World (StoreCall IndexCall) (StoreCall.Answer IndexCall.Answer) σ}
  {S : Session σ} {state : σ} {id : String}

/-- **A request says what the record resolves to**, unless it is canceled or broken off, if the
    texts in the cache do. -/
theorem resolve_said (S : Session σ) (id : String) (hw : Steady w)
    (hcache : S.service.useCache = true → S.cache.Holds (Known w state)) :
    (S.resolve (.direct w) id).1 = .answered (.error .canceled) ∨
    (S.Overruns (S.resolve (.direct w) id).2.1.now ∧
      (S.resolve (.direct w) id).1 = .clockOverflow) ∨
    ∃ a, (S.resolve (.direct w) id).1 = .answered a ∧
      Says a ((settlement w id state).1.map Resolution.timeless) := by
  rw [resolve_verdict, resolve_afterwards]
  show Session.verdict (S.resolved w id).1 = _ ∨ (S.Overruns (S.resolved w id).2.now ∧ _) ∨ _
  rcases S.resolved_cases w id with
    ⟨body, hu, hbody, -, hend, -⟩ | ⟨-, cache, -, heffect, hsame⟩
  · refine .inr (.inr ⟨_, congrArg Session.verdict hend, ?_⟩)
    exact (((hcache hu).get S.now id).1 body hbody).said (Instant.secs_since_self S.now)
  · cases hend : (S.resolved w id).1 with
    | cutOff => exact .inl rfl
    | overflowed =>
      rw [hend] at heffect
      cases heffect with
      | overflowed slow overflow => exact .inr (.inl ⟨⟨slow, overflow⟩, rfl⟩)
    | finished a =>
      refine .inr (.inr ⟨a, rfl, ?_⟩)
      rw [hend] at heffect
      rw [hw.settlement_eq id state S.world, ← hsame a hend]
      exact heffect.said

/-- **A request leaves only texts in the cache that tell what a record resolves to**, if it finds
    only such texts there and the stores and the clock are as it relies on. -/
theorem resolve_known (hw : Steady w) (hanswers : ∀ t c, Countable c (w.respond t c).2.answer)
    (hlast : (S.resolve (.direct w) id).2.1.now.Valid) (hcache : S.cache.Holds (Known w state)) :
    (S.resolve (.direct w) id).2.1.cache.Holds (Known w state) := by
  rw [resolve_afterwards] at hlast ⊢
  show (S.resolved w id).2.cache.Holds (Known w state)
  have hkept : Kept (resolving id) (S.resolved w id).1 (S.resolved w id).2 :=
    (resolve_meets_resolving S.service.settings S.service.useCache id).run hanswers
      (fun t ht => Instant.Valid.mono hlast ht) (hcache.mono fun _ _ h => h.keptText)
  have hwhole : ∀ r, (S.resolved w id).1 = .finished (.ok (.resolved r)) → Whole id r :=
    fun r hr => (hkept.finished _ hr).2 r rfl
  have hleft := (hcache.get S.now id).2
  rcases S.resolved_cases w id with ⟨_, -, -, -, -, hsame⟩ | ⟨-, cache, hfrom, heffect, hsame⟩
  · rw [hsame]
    exact hleft
  have hbefore : cache.Holds (Known w state) := by
    rcases hfrom with rfl | rfl | rfl
    · exact hcache
    · exact hleft
    · exact hleft.delete id
  rw [hw.settlement_eq id S.world state] at hsame
  rcases heffect.cache_cases with h | ⟨r, expires, hend, marked, -, h⟩ <;> rw [h]
  · exact hbefore
  · exact hbefore.put ⟨r, rfl, hwhole r hend, marked, hsame _ hend⟩

end Session

/-! ## 3. Runs -/

namespace Session

variable {σ : Type} {w : World (StoreCall IndexCall) (StoreCall.Answer IndexCall.Answer) σ}
  {S : Session σ} {state : σ} {id : String}

/-- **Whatever happens leaves only texts in the cache that tell what a record resolves to.** -/
theorem perform_known (hw : Steady w) (hanswers : ∀ t c, Countable c (w.respond t c).2.answer)
    {a : Action} (hlast : (S.perform w a).2.now.Valid) (hcache : S.cache.Holds (Known w state)) :
    (S.perform w a).2.cache.Holds (Known w state) := by
  cases a with
  | resolve id => exact resolve_known hw hanswers hlast hcache
  | flush =>
    show S.flushCache.2.1.cache.Holds (Known w state)
    unfold flushCache
    split
    · exact Cache.holds_empty
    · exact hcache
  | sweep => exact hcache.sweep S.now
  | advance d => exact hcache

/-- Whether what became of two requests is the same, but for the time, unless one of them was
    canceled. -/
def Consistent (v v' : Verdict Resolution) : Prop :=
  v = .answered (.error .canceled) ∨ v' = .answered (.error .canceled) ∨
    ∃ a a' x, v = .answered a ∧ v' = .answered a' ∧ Says a x ∧ Says a' x

/-- A request with the cache and one without say the same. -/
theorem resolve_consistent {T : Session σ} (hw : Steady w) (hT : T.service.useCache = false)
    (hcache : S.cache.Holds (Known w state))
    (hfits : (S.resolve (.direct w) id).2.1.now.add? S.service.settings.cacheTtl ≠ none) :
    Consistent (S.resolve (.direct w) id).1 (T.resolve (.direct w) id).1 := by
  rcases resolve_said S id hw (fun _ => hcache) with
    h | ⟨⟨-, hover⟩, -⟩ | ⟨a, ha, hsaid⟩
  · exact .inl h
  · exact absurd hover hfits
  have hunused : T.service.useCache = true → T.cache.Holds (Known w state) := by
    intro hu
    rw [hT] at hu
    cases hu
  rcases resolve_said T id hw hunused with
    h | ⟨⟨⟨hu, -⟩, -⟩, -⟩ | ⟨a', ha', hsaid'⟩
  · exact .inr (.inl h)
  · rw [hT] at hu
    cases hu
  · exact .inr (.inr ⟨a, a', _, ha, ha', hsaid, hsaid'⟩)

theorem play_consistent (hw : Steady w) (hanswers : ∀ t c, Countable c (w.respond t c).2.answer)
    (actions : List Action) {S T : Session σ} (hT : T.service.useCache = false)
    (hcache : S.cache.Holds (Known w state))
    (hfits : (S.play w actions).2.now.add? S.service.settings.cacheTtl ≠ none) :
    List.Forall₂ Consistent (S.play w actions).1 (T.play w actions).1 := by
  induction actions generalizing S T with
  | nil => exact .nil
  | cons a rest ih =>
    have hle := now_le_play (w := w) (S.perform w a).2 rest
    have hnow : (S.perform w a).2.now.add? S.service.settings.cacheTtl ≠ none :=
      Instant.add?_ne_none_mono hfits hle
    have hvalid : (S.perform w a).2.now.Valid := Instant.valid_of_add?_ne_none hnow
    have hrest : List.Forall₂ Consistent ((S.perform w a).2.play w rest).1
        ((T.perform w a).2.play w rest).1 := by
      refine ih ?_ (perform_known hw hanswers hvalid hcache) ?_
      · rw [service_perform]
        exact hT
      · rw [service_perform]
        exact hfits
    cases a with
    | resolve id => exact .cons (resolve_consistent hw hT hcache hnow) hrest
    | flush => exact hrest
    | sweep => exact hrest
    | advance d => exact hrest

/-- **The cache is transparent.** Of a service with a cache, empty at first, and one without, each
    request of the one says what the same request of the other says, whatever else happens in
    between, as long as the clock can express when the answers expire. -/
theorem play_transparent (hw : Steady w) (hanswers : ∀ t c, Countable c (w.respond t c).2.answer)
    {settings : Settings} {abilities : Abilities} {now : Instant} {world : σ}
    {actions : List Action}
    (hfits : ((start ⟨settings, true, abilities⟩ now world).play w actions).2.now.add?
      settings.cacheTtl ≠ none) :
    List.Forall₂ Consistent ((start ⟨settings, true, abilities⟩ now world).play w actions).1
      ((start ⟨settings, false, abilities⟩ now world).play w actions).1 :=
  play_consistent hw hanswers actions rfl (Cache.holds_empty (P := Known w world)) hfits

/-- A record that is slow to resolve, asked for until it is served from the cache, and again when
    it no longer is. -/
theorem play_transparent_slow :
    let w := knowing (.ofSecs 1) ⟨["c", "b", "c"], ["b", "d"]⟩ [⟨"1", "b"⟩, ⟨"2", "d"⟩]
    let settings : Settings := ⟨.ofSecs 30, false, .zero, .ofSecs 60⟩
    let actions : List Action :=
      [.resolve "r", .resolve "r", .advance (.ofSecs 60), .sweep, .resolve "r"]
    List.Forall₂ Consistent ((start ⟨settings, true, ⟨true, true⟩⟩ ⟨0⟩ ()).play w actions).1
      ((start ⟨settings, false, ⟨true, true⟩⟩ ⟨0⟩ ()).play w actions).1 := by
  intro w settings actions
  have hanswers : ∀ t c, Countable c (w.respond t c).2.answer := by
    intro t c
    cases c with
    | edges doi => exact fun e he => by cases he; decide
    | idsForDois dois => exact fun M hM => by cases hM; decide
    | _ => trivial
  refine play_transparent (fun _ _ _ => rfl) hanswers fun hnone => ?_
  have hle := now_play_le (w := w) (start ⟨settings, true, ⟨true, true⟩⟩ ⟨0⟩ ()) actions
  have hend : (⟨210 * nanosPerSecond⟩ : Instant).Valid := by decide
  exact Instant.add?_eq_none.1 hnone
    (hend.mono (Nat.le_trans (Nat.add_le_add_right hle _) (by decide)))

end Session

end CitationFusion
