import CitationFusion.Proofs.Acceptance
import CitationFusion.Proofs.Fusion
import CitationFusion.Proofs.Request

/-!
# The first failure ends a request

Of everything that can fail in resolving a record, the first that does is what the request answers,
and nothing is asked of the stores behind it. Metadata that just is not there is no failure.

* `Spoiled`, `Failing` : the first failure, in terms of what the stores answer, and the state that
  the calls up to it leave them in.
* `Yields` : a plan that ends in one way however long its steps take, unless it is cut off.
* `settled_cases` : a record fails, has no document around it, or everything is answered.
* `Session.resolve_failing` : a request that finds nothing in the cache fails exactly so.
-/

namespace CitationFusion

open Plan

/-! ## 1. What fails first -/

/-- Whether the stores answer a call in some way, and in which state that leaves them. -/
def Responds {C : Type} {A : C → Type} {σ : Type} (w : World C A σ) (s : σ) (c : C) (a : A c)
    (s' : σ) : Prop :=
  (w.respond s c).2.answer = a ∧ (w.respond s c).1 = s'

section Failing

variable {σ : Type} (w : World (StoreCall IndexCall) (StoreCall.Answer IndexCall.Answer) σ)

/-- Of some local records, fetched one after the other, one is the first to fail: it stands for a
    document on neither side, its metadata cannot be fetched, or it is unusable. -/
inductive Spoiled (e : Edges) : σ → List Mapping → Failure → σ → Prop where
  /-- Nobody asked for the record, so it is not fetched. -/
  | stray {s : σ} {m : Mapping} {M : List Mapping} (outside : m.doi ∉ e.citing ∧ m.doi ∉ e.cited) :
      Spoiled e s (m :: M) (.invariant (strayMessage m.doi)) s
  | unfetched {s s' : σ} {m : Mapping} {M : List Mapping} {message : String}
      (inside : m.doi ∈ e.citing ∨ m.doi ∈ e.cited)
      (answer : Responds w s (.index (.fetch m.id)) (Except.error (.backend message)) s') :
      Spoiled e s (m :: M) (.indexData message) s'
  | unusable {s s' : σ} {m : Mapping} {M : List Mapping} {bytes : Bytes} {message : String}
      (inside : m.doi ∈ e.citing ∨ m.doi ∈ e.cited)
      (answer : Responds w s (.index (.fetch m.id)) (Except.ok bytes) s')
      (unusable : Unusable bytes)
      (refused : Blob.accept m.id bytes = .error (.indexData message)) :
      Spoiled e s (m :: M) (.indexData message) s'
  | absent {s s₁ s' : σ} {m : Mapping} {M : List Mapping} {f : Failure} {id : String}
      (inside : m.doi ∈ e.citing ∨ m.doi ∈ e.cited)
      (answer : Responds w s (.index (.fetch m.id)) (Except.error (.notFound id)) s₁)
      (rest : Spoiled e s₁ M f s') : Spoiled e s (m :: M) f s'
  | present {s s₁ s' : σ} {m : Mapping} {M : List Mapping} {f : Failure} {bytes : Bytes}
      (inside : m.doi ∈ e.citing ∨ m.doi ∈ e.cited)
      (answer : Responds w s (.index (.fetch m.id)) (Except.ok bytes) s₁)
      (usable : ¬ Unusable bytes)
      (rest : Spoiled e s₁ M f s') : Spoiled e s (m :: M) f s'

/-- Resolving a record fails: its DOI is not answered, or the edges of that, or the local records of
    the documents around it if there are any, or one of those spoils the rest. -/
inductive Failing (s : σ) (id : String) : Failure → σ → Prop where
  | doi {f : Failure} {s' : σ} (answer : Responds w s (.doiForId id) (Except.error f) s') :
      Failing s id f s'
  | edges {doi : String} {f : Failure} {s₁ s' : σ}
      (saysDoi : Responds w s (.doiForId id) (Except.ok doi) s₁)
      (answer : Responds w s₁ (.edges doi) (Except.error f) s') : Failing s id f s'
  | mappings {doi : String} {e : Edges} {f : Failure} {s₁ s₂ s' : σ}
      (saysDoi : Responds w s (.doiForId id) (Except.ok doi) s₁)
      (saysEdges : Responds w s₁ (.edges doi) (Except.ok e) s₂)
      (nonempty : e.isEmpty = false)
      (answer : Responds w s₂ (.idsForDois (Neighbourhood.ofEdges id doi e).related.toList)
        (Except.error f) s') : Failing s id f s'
  | record {doi : String} {e : Edges} {M : List Mapping} {f : Failure} {s₁ s₂ s₃ s' : σ}
      (saysDoi : Responds w s (.doiForId id) (Except.ok doi) s₁)
      (saysEdges : Responds w s₁ (.edges doi) (Except.ok e) s₂)
      (nonempty : e.isEmpty = false)
      (saysMappings : Responds w s₂ (.idsForDois (Neighbourhood.ofEdges id doi e).related.toList)
        (Except.ok M) s₃)
      (spoiled : Spoiled w e s₃ M f s') : Failing s id f s'

end Failing

/-! ## 2. What a plan comes to -/

/-- Whether a plan answers `a` and leaves the stores in `s'`, however long its steps take, unless it
    is cut off. -/
def Yields {C : Type} {A : C → Type} {α σ : Type} (w : World C A σ) (p : Plan C A α) (s : σ) (a : α)
    (s' : σ) : Prop :=
  ∀ (deadline : Option Instant) (drift : Nat → Duration) (n : Nat) (scene : Scene σ),
    scene.world = s →
    (p.drifting w deadline drift n scene).1 = .cutOff ∨
    ((p.drifting w deadline drift n scene).1 = .finished a ∧
      (p.drifting w deadline drift n scene).2.world = s')

namespace Yields

variable {C : Type} {A : C → Type} {α σ : Type} {w : World C A σ} {s s₁ s' : σ} {a : α}

theorem done (w : World C A σ) (s : σ) (a : α) : Yields w (.done a) s a s :=
  fun _ _ _ _ hs => .inr ⟨rfl, hs⟩

theorem call {c : C} {x : A c} {next : A c → Plan C A α} (answer : Responds w s c x s₁)
    (h : Yields w (next x) s₁ a s') : Yields w (.call c next) s a s' := by
  intro deadline drift n scene hs
  obtain ⟨rfl, rfl⟩ := answer
  subst hs
  rw [drifting_call]
  split
  · rename_i now _
    exact h deadline drift (n + 1) { scene with world := (w.respond scene.world c).1, now } rfl
  · exact .inl rfl

theorem lap {message : String} {p : Plan C A α} (h : Yields w p s a s') :
    Yields w (.lap message p) s a s' :=
  fun deadline drift n scene hs => h deadline drift (n + 1) { scene.later (drift n) with
    watch := scene.watch.record (scene.later (drift n)).now message } hs

theorem note {event : Event} {p : Plan C A α} (h : Yields w p s a s') :
    Yields w (.note event p) s a s' :=
  fun deadline drift n scene hs => h deadline drift (n + 1) { scene.later (drift n) with
    events := scene.events ++ [event] } hs

end Yields

section Fresh

variable {σ : Type} {w : World (StoreCall IndexCall) (StoreCall.Answer IndexCall.Answer) σ}
  {s s₁ s₂ s' : σ} {id doi : String} {e : Edges} {M : List Mapping} {f : Failure} {st : Settings}
  {u : Bool} {started : Instant}

theorem classify_inside (id doi : String) {x : String} (h : x ∈ e.citing ∨ x ∈ e.cited) :
    ∃ side, (Neighbourhood.ofEdges id doi e).classify x = some side := by
  rw [← Option.ne_none_iff_exists']
  intro hnone
  exact Neighbourhood.classify_none.1 hnone (Neighbourhood.mem_related_ofEdges.2 h)

theorem classify_outside (id doi : String) {x : String} (h : x ∉ e.citing ∧ x ∉ e.cited) :
    (Neighbourhood.ofEdges id doi e).classify x = none := by
  rw [Neighbourhood.classify_none, Neighbourhood.mem_related_ofEdges]
  exact not_or.2 h

/-- **Collecting answers the first failure**, whatever was collected before it. -/
theorem Spoiled.collect (h : Spoiled w e s M f s') (id doi : String)
    (next : Collected → StorePlan (Except Failure Resolution)) (c : Collected) :
    Yields w (CitationFusion.collect (.ofEdges id doi e) next M c) s (.error f) s' := by
  induction h generalizing c with
  | stray outside =>
    unfold CitationFusion.collect
    rw [classify_outside id doi outside]
    exact .note (.done w _ _)
  | unfetched inside answer =>
    unfold CitationFusion.collect
    obtain ⟨side, hside⟩ := classify_inside id doi inside
    rw [hside]
    exact .call answer (.done w _ _)
  | unusable inside answer _ refused =>
    unfold CitationFusion.collect
    obtain ⟨side, hside⟩ := classify_inside id doi inside
    rw [hside]
    refine .call answer ?_
    simp only [refused]
    exact .done w _ _
  | absent inside answer _ ih =>
    unfold CitationFusion.collect
    obtain ⟨side, hside⟩ := classify_inside id doi inside
    rw [hside]
    exact .call answer (ih c)
  | @present s s₁ s' m M f bytes inside answer usable _ ih =>
    unfold CitationFusion.collect
    obtain ⟨side, hside⟩ := classify_inside id doi inside
    rw [hside]
    refine .call answer ?_
    cases haccept : Blob.accept m.id bytes with
    | error failure => exact absurd (Blob.accept_error_iff.1 ⟨failure, haccept⟩) usable
    | ok blob =>
      simp only [haccept]
      exact ih _

/-- **A record that fails answers its first failure**, and nothing is asked behind it. -/
theorem Failing.fresh (h : Failing w s id f s') :
    Yields w (CitationFusion.fresh st u started id) s (.error f) s' := by
  cases h with
  | doi answer => exact .call answer (.done w _ _)
  | edges saysDoi answer => exact .call saysDoi (.lap (.call answer (.done w _ _)))
  | mappings saysDoi saysEdges nonempty answer =>
    refine .call saysDoi (.lap (.call saysEdges (.lap ?_)))
    rw [Neighbourhood.isEmpty_related_ofEdges, nonempty]
    exact .call answer (.done w _ _)
  | record saysDoi saysEdges nonempty saysMappings spoiled =>
    refine .call saysDoi (.lap (.call saysEdges (.lap ?_)))
    rw [Neighbourhood.isEmpty_related_ofEdges, nonempty]
    refine .call saysMappings ?_
    simp only [mapped_eq]
    exact .lap (.lap (spoiled.collect _ _ _ _))

/-- A record without documents around it answers so. -/
theorem fresh_noRelated (saysDoi : Responds w s (.doiForId id) (Except.ok doi) s₁)
    (saysEdges : Responds w s₁ (.edges doi) (Except.ok e) s₂) (empty : e.isEmpty = true) :
    Yields w (fresh st u started id) s (.ok (.noRelated id doi)) s₂ := by
  refine .call saysDoi (.lap (.call saysEdges (.lap ?_)))
  rw [Neighbourhood.isEmpty_related_ofEdges, empty]
  exact .done w _ _

/-! ## 3. Nothing else can happen -/

/-- **Of the fetches of some local records one fails, or all are answered.** -/
theorem spoiled_or_fetched (w : World (StoreCall IndexCall) (StoreCall.Answer IndexCall.Answer) σ)
    (e : Edges) (M : List Mapping) (s : σ) :
    (∃ f s', Spoiled w e s M f s') ∨
    ((∀ m ∈ M, m.doi ∈ e.citing ∨ m.doi ∈ e.cited) ∧ ∃ found, Fetched w s M found) := by
  induction M generalizing s with
  | nil => exact .inr ⟨fun _ h => absurd h List.not_mem_nil, [], .nil s⟩
  | cons m M ih =>
    by_cases inside : m.doi ∈ e.citing ∨ m.doi ∈ e.cited
    swap
    · exact .inl ⟨_, _, .stray (not_or.1 inside)⟩
    have more : (∀ m ∈ M, m.doi ∈ e.citing ∨ m.doi ∈ e.cited) →
        ∀ x ∈ m :: M, x.doi ∈ e.citing ∨ x.doi ∈ e.cited :=
      fun hM => List.forall_mem_cons.2 ⟨inside, hM⟩
    cases answer : (w.respond s (.index (.fetch m.id))).2.answer with
    | error failure =>
      cases failure with
      | backend message => exact .inl ⟨_, _, .unfetched inside ⟨answer, rfl⟩⟩
      | notFound id =>
        rcases ih (w.respond s (.index (.fetch m.id))).1 with
          ⟨f, s', hspoiled⟩ | ⟨hM, found, hfetched⟩
        · exact .inl ⟨f, s', .absent inside ⟨answer, rfl⟩ hspoiled⟩
        · exact .inr ⟨more hM, none :: found, .absent answer hfetched⟩
    | ok bytes =>
      cases haccept : Blob.accept m.id bytes with
      | error f =>
        have hunusable : Unusable bytes := Blob.accept_error_iff.1 ⟨f, haccept⟩
        obtain ⟨message, rfl⟩ := Blob.accept_error_indexData haccept
        exact .inl ⟨_, _, .unusable inside ⟨answer, rfl⟩ hunusable haccept⟩
      | ok b =>
        have husable : ¬ Unusable bytes := by
          intro hunusable
          have hrefused : ∃ f, Blob.accept m.id bytes = .error f :=
            Blob.accept_error_iff.2 hunusable
          obtain ⟨f, hf⟩ := hrefused
          rw [haccept] at hf
          cases hf
        rcases ih (w.respond s (.index (.fetch m.id))).1 with
          ⟨f, s', hspoiled⟩ | ⟨hM, found, hfetched⟩
        · exact .inl ⟨f, s', .present inside ⟨answer, rfl⟩ husable hspoiled⟩
        · exact .inr ⟨more hM, some b :: found, .present answer haccept hfetched⟩

/-- **Resolving a record fails, finds no document around it, or has everything answered.** -/
theorem settled_cases (w : World (StoreCall IndexCall) (StoreCall.Answer IndexCall.Answer) σ)
    (s : σ) (id : String) :
    (∃ f s', Failing w s id f s') ∨
    (∃ doi e s₁ s₂, Responds w s (.doiForId id) (Except.ok doi) s₁ ∧
      Responds w s₁ (.edges doi) (Except.ok e) s₂ ∧ e.isEmpty = true) ∨
    (∃ doi e M found, Answered w s id doi e M found) := by
  cases saysDoi : (w.respond s (.doiForId id)).2.answer with
  | error f => exact .inl ⟨f, _, .doi ⟨saysDoi, rfl⟩⟩
  | ok doi =>
    cases saysEdges : (w.respond (w.respond s (.doiForId id)).1 (.edges doi)).2.answer with
    | error f => exact .inl ⟨f, _, .edges ⟨saysDoi, rfl⟩ ⟨saysEdges, rfl⟩⟩
    | ok e =>
      cases nonempty : e.isEmpty with
      | true => exact .inr (.inl ⟨doi, e, _, _, ⟨saysDoi, rfl⟩, ⟨saysEdges, rfl⟩, nonempty⟩)
      | false =>
        cases saysMappings : (w.respond (w.respond (w.respond s (.doiForId id)).1 (.edges doi)).1
            (.idsForDois (Neighbourhood.ofEdges id doi e).related.toList)).2.answer with
        | error f =>
          exact .inl ⟨f, _, .mappings ⟨saysDoi, rfl⟩ ⟨saysEdges, rfl⟩ nonempty ⟨saysMappings, rfl⟩⟩
        | ok M =>
          rcases spoiled_or_fetched w e M _ with ⟨f, s', hspoiled⟩ | ⟨related, found, fetched⟩
          · exact .inl ⟨f, s', .record ⟨saysDoi, rfl⟩ ⟨saysEdges, rfl⟩ nonempty
              ⟨saysMappings, rfl⟩ hspoiled⟩
          · exact .inr (.inr ⟨doi, e, M, found, saysDoi, saysEdges, nonempty, saysMappings,
              related, fetched⟩)

/-! ## 4. Requests -/

/-- What is the same as a response but for the time is a response. -/
theorem SameButTime.resolved {a : Except Failure Resolution} {q : Response}
    (h : SameButTime a (.ok (.resolved q))) :
    ∃ r, a = .ok (.resolved r) ∧ r.timeless = q.timeless := by
  cases a with
  | error f => cases h
  | ok resolution =>
    cases resolution with
    | cached body => cases h
    | noRelated id doi => cases h
    | resolved r => exact ⟨r, rfl, Resolution.resolved.inj (Except.ok.inj h)⟩

variable {drift : Nat → Duration} {S : Session σ} {found : List (Option Blob)}
  {a : Except Failure Resolution}

section Miss

variable (miss : S.service.useCache = true →
  ∀ body, (S.cache.get ((S.now.advance (drift 0)).advance (drift 1)) id).1 = some body →
    Json.isDocument body = false)

include miss

/-- A request that finds no document in the cache resolves the record afresh. -/
theorem Session.followed_missing
    (w : World (StoreCall IndexCall) (StoreCall.Answer IndexCall.Answer) σ) :
    ∃ n, ∃ scene : Scene σ, scene.world = S.world ∧ S.followed w (some S.deadline) drift id =
      (fresh S.service.settings S.service.useCache (S.now.advance (drift 0)) id).drifting w
        (some S.deadline) drift n scene := by
  rcases S.followed_cases w drift id with
    ⟨body, _, _, _, caching, found, document, -⟩ | ⟨_, n, scene, -, resumes, hout, -⟩
  · rw [miss caching body found] at document
    cases document
  · exact ⟨n, scene, resumes.world, hout⟩

/-- **A request for a record that fails answers the first failure**, unless it is cut off. -/
theorem Failing.followed (h : Failing w S.world id f s')
    (uncut : (S.followed w (some S.deadline) drift id).1 ≠ .cutOff) :
    (S.followed w (some S.deadline) drift id).1 = .finished (.error f) ∧
      (S.followed w (some S.deadline) drift id).2.world = s' := by
  obtain ⟨n, scene, hworld, hrun⟩ := Session.followed_missing miss w
  rw [hrun] at uncut ⊢
  exact (h.fresh (some S.deadline) drift n scene hworld).resolve_left uncut

/-- **A request for a record of which everything is answered joins the answers**, if it ends. -/
theorem Answered.followed (h : Answered w S.world id doi e M found)
    (hend : (S.followed w (some S.deadline) drift id).1 = .finished a) :
    ∃ r, a = .ok (.resolved r) ∧ Fused id doi e M found r := by
  obtain ⟨n, scene, hworld, hrun⟩ := Session.followed_missing miss w
  obtain ⟨q, hq, hfused⟩ := settlement_fused h
  rw [hrun] at hend
  have hsame := (fresh_drifting hend).1
  rw [hworld, hq] at hsame
  obtain ⟨r, rfl, hr⟩ := hsame.resolved
  exact ⟨r, rfl, hfused.of_timeless hr⟩

/-- **A request that ends with a failure or a response ends with the first failure, or with what
    the answers join to.** -/
theorem Session.followed_finished
    (hend : (S.followed w (some S.deadline) drift id).1 = .finished a) :
    (∃ f s', a = .error f ∧ Failing w S.world id f s') ∨ (∃ doi, a = .ok (.noRelated id doi)) ∨
    ∃ r doi e M found, a = .ok (.resolved r) ∧ Answered w S.world id doi e M found ∧
      Fused id doi e M found r := by
  have uncut : (S.followed w (some S.deadline) drift id).1 ≠ .cutOff := by
    rw [hend]
    exact nofun
  -- the answers of the stores settle how it ends, and `hend` says that it does
  rcases settled_cases w S.world id with
    ⟨f, s', hfailing⟩ | ⟨doi, e, s₁, s₂, saysDoi, saysEdges, empty⟩ | ⟨doi, e, M, found, h⟩
  · have hfirst := (hfailing.followed miss uncut).1
    rw [hend] at hfirst
    cases hfirst
    exact .inl ⟨f, s', rfl, hfailing⟩
  · obtain ⟨n, scene, hworld, hrun⟩ := Session.followed_missing miss w
    have hyields : Yields w
        (fresh S.service.settings S.service.useCache (S.now.advance (drift 0)) id) S.world
        (.ok (.noRelated id doi)) s₂ := fresh_noRelated saysDoi saysEdges empty
    have hnone := hyields (some S.deadline) drift n scene hworld
    rw [← hrun] at hnone
    have hfinished := (hnone.resolve_left uncut).1
    rw [hend] at hfinished
    cases hfinished
    exact .inr (.inl ⟨doi, rfl⟩)
  · obtain ⟨r, rfl, hfused⟩ := h.followed miss hend
    exact .inr (.inr ⟨r, doi, e, M, found, rfl, h, hfused⟩)

/-- **A request that finds nothing in the cache, and is not cut off, fails exactly when something
    fails in resolving the record**, with the first failure, and asks nothing behind it, however
    long its steps take. It answers a response only where everything was answered, and then all of
    it; that some metadata is not there is no failure. -/
theorem Session.resolve_failing
    (uncut : (S.followed w (some S.deadline) drift id).1 ≠ .cutOff) :
    let out := S.resolve (.drifting w drift) id
    (∀ f, out.1 = .answered (.error f) ↔ ∃ s', Failing w S.world id f s') ∧
    (∀ f s', Failing w S.world id f s' → out.2.1.world = s') ∧
    (∀ r, out.1 = .answered (.ok (.resolved r)) → ∃ doi e M found,
      Answered w S.world id doi e M found ∧ Fused id doi e M found r) ∧
    (∀ doi e M found, Answered w S.world id doi e M found →
      ∀ f, out.1 ≠ .answered (.error f)) := by
  intro out
  have ends : ∀ a, out.1 = .answered a →
      (S.followed w (some S.deadline) drift id).1 = .finished a :=
    fun a ha => (verdict_eq_answered uncut).1 ha
  refine ⟨fun f => ⟨fun hf => ?_, fun ⟨s', hf⟩ => ?_⟩, fun f s' hf => (hf.followed miss uncut).2,
    fun r hr => ?_, fun doi e M found h f hf => ?_⟩
  · rcases followed_finished miss (ends _ hf) with
      ⟨f', s', he, hfailing⟩ | ⟨doi, he⟩ | ⟨r, doi, e, M, found, he, -⟩ <;> cases he
    exact ⟨s', hfailing⟩
  · exact congrArg verdict (hf.followed miss uncut).1
  · rcases followed_finished miss (ends _ hr) with
      ⟨f, s', he, -⟩ | ⟨doi, he⟩ | ⟨r', doi, e, M, found, he, h, hfused⟩ <;> cases he
    exact ⟨doi, e, M, found, h, hfused⟩
  · obtain ⟨r, hr, -⟩ := h.followed miss (ends _ hf)
    cases hr

end Miss

/-- A record whose steps take a second each, of which one local record has no metadata, and the next
    stands for a document that nobody asked for: that one is not fetched. -/
theorem Session.resolve_failing_stray :
    let w := knowing (.ofMillis 1) ⟨["c", "b"], ["d"]⟩ [⟨"2", "b"⟩, ⟨"1", "x"⟩, ⟨"3", "c"⟩]
    let drift : Nat → Duration := fun _ => .ofSecs 1
    let S : Session Unit :=
      .start ⟨⟨.ofSecs 30, false, .zero, .ofSecs 60⟩, true, ⟨true, true⟩⟩ ⟨0⟩ ()
    (S.followed w (some S.deadline) drift "r").1 ≠ .cutOff ∧
      (S.resolve (.drifting w drift) "r").1 =
        .answered (.error (.invariant (strayMessage "x"))) := by
  intro w drift S
  have uncut : (S.followed w (some S.deadline) drift "r").1 ≠ .cutOff := by decide +kernel
  have outside : "x" ∉ ["c", "b"] ∧ "x" ∉ ["d"] := by decide
  have inside : "b" ∈ ["c", "b"] ∨ "b" ∈ ["d"] := by decide
  have hfailing : Failing w () "r" (.invariant (strayMessage "x")) () :=
    .record ⟨rfl, rfl⟩ ⟨rfl, rfl⟩ rfl ⟨rfl, rfl⟩ (.absent inside ⟨rfl, rfl⟩ (.stray outside))
  have hiff := (Session.resolve_failing (w := w) (S := S) (fun _ _ h => by cases h) uncut).1
  exact ⟨uncut, (hiff _).2 ⟨(), hfailing⟩⟩

end Fresh

end CitationFusion
