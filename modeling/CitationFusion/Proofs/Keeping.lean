import CitationFusion.Proofs.Clock
import CitationFusion.Proofs.Fresh
import CitationFusion.Proofs.Fusion
import CitationFusion.Proofs.Settlement

/-!
# What a request does to the cache

A request writes one entry or none, under the record that it is for. It writes one exactly when it
has a response and has taken longer than the trigger by then.

* `Afresh`, `fresh_afresh` : how a record is resolved afresh, in steps.
* `LookedFor` : what looking for a record may do to the cache.
* `Session.deeds_cases` : the steps of a request.
* `Keeping`, `Session.resolve_keeping` : what a request does to the cache.
-/

namespace CitationFusion

open Plan Plan.Deed

/-! ## 1. Resolving a record afresh -/

/-- How a record is resolved afresh: how that ends, when, and the steps. Only behind all calls is
    the clock read, to tell whether the response is to be kept. -/
inductive Afresh (s : Settings) (u : Bool) (started : Instant) (id : String) :
    Ending (Except Failure Resolution) → Instant → List StoreDeed → Prop where
  | undelivered {ending : Ending (Except Failure Resolution)} {last : Instant}
      {ds : List StoreDeed} (idle : ∀ d ∈ ds, d.Idle)
      (unresolved : ∀ r, ending ≠ .finished (.ok (.resolved r))) (ended : ending ≠ .overflowed) :
      Afresh s u started id ending last ds
  | delivered {r : Response} {t last : Instant} {ds : List StoreDeed} (idle : ∀ d ∈ ds, d.Idle)
      (quick : ¬ Slow s u started t) (unmarked : r.extra.cached = false) :
      Afresh s u started id (.finished (.ok (.resolved r))) last (ds ++ [.read t])
  | kept {r : Response} {t t₁ t₂ expires last : Instant} {ds : List StoreDeed} {message : String}
      (idle : ∀ d ∈ ds, d.Idle) (slow : Slow s u started t)
      (fits : t₁.add? s.cacheTtl = some expires) (marked : r.extra.cached = true) :
      Afresh s u started id (.finished (.ok (.resolved r))) last
        (ds ++ [.read t, .kept t₁ id ⟨r.write, expires⟩, .reached t₂ message])
  /-- The clock cannot express when the response expires. -/
  | overflowed {last : Instant} {ds : List StoreDeed} (overflow : last.add? s.cacheTtl = none) :
      Afresh s u started id .overflowed last ds

section Fresh

variable {σ : Type} {w : World (StoreCall IndexCall) (StoreCall.Answer IndexCall.Answer) σ}
  {deadline : Option Instant} {drift : Nat → Duration} {s : Settings} {u : Bool}
  {started last : Instant} {id : String} {ending : Ending (Except Failure Resolution)}
  {d : StoreDeed} {ds : List StoreDeed}

/-- An idle step before all others changes nothing. -/
theorem Afresh.cons (hd : d.Idle) (h : Afresh s u started id ending last ds) :
    Afresh s u started id ending last (d :: ds) := by
  cases h with
  | undelivered idle unresolved ended =>
    exact .undelivered (List.forall_mem_cons.2 ⟨hd, idle⟩) unresolved ended
  | delivered idle quick unmarked =>
    have idle' := List.forall_mem_cons.2 ⟨hd, idle⟩
    exact (Afresh.delivered idle' quick unmarked :)
  | kept idle slow fits marked =>
    have idle' := List.forall_mem_cons.2 ⟨hd, idle⟩
    exact (Afresh.kept idle' slow fits marked :)
  | overflowed overflow => exact .overflowed overflow

/-- Delivering a response keeps it if that took long, and then only. -/
theorem deliver_afresh {r : Response} (hid : r.id = id) (hr : r.extra.cached = false) (n : Nat)
    (scene : Scene σ) :
    Afresh s u started id ((deliver s u started r).drifting w deadline drift n scene).1
      ((deliver s u started r).drifting w deadline drift n scene).2.now
      ((deliver s u started r).deeds w deadline drift n scene) := by
  subst hid
  have idle : ∀ d ∈ ([] : List StoreDeed), d.Idle := fun _ hd => absurd hd List.not_mem_nil
  exact deliver_induct (P := fun out ds => Afresh s u started r.id out.1 out.2.now ds)
    (fun t last quick => Afresh.delivered idle quick hr)
    (fun t t₁ expires last slow _ fits _ _ => Afresh.kept idle slow fits rfl)
    (fun t last _ _ overflow => .overflowed overflow)

/-- **Resolving a record afresh keeps nothing but a slow response**, and reads the clock for that
    behind all calls. -/
theorem fresh_afresh (n : Nat) (scene : Scene σ) :
    Afresh s u started id ((fresh s u started id).drifting w deadline drift n scene).1
      ((fresh s u started id).drifting w deadline drift n scene).2.now
      ((fresh s u started id).deeds w deadline drift n scene) := by
  have idle : ∀ d ∈ ([] : List StoreDeed), d.Idle := fun _ hd => absurd hd List.not_mem_nil
  have accrues : Accrues fun (out : Ending (Except Failure Resolution) × Scene σ) ds =>
      Afresh s u started id out.1 out.2.now ds :=
    { abandoned := fun c scene => .cons trivial (.undelivered idle nofun nofun)
      called := fun c x out ds h => h.cons trivial
      reached := fun t message out ds h => h.cons trivial
      violated := fun message scene => .cons trivial (.undelivered idle nofun nofun)
      failed := fun f scene => .undelivered idle nofun nofun }
  refine fresh_accrues accrues (fun doi scene => .undelivered idle nofun nofun)
    (fun doi e M c _ n scene => ?_) n scene
  have hid : ((Neighbourhood.ofEdges id doi e).response M c).id = id := rfl
  exact deliver_afresh hid rfl n scene

/-- What is resolved afresh is answered, if the clock can express when it expires. -/
theorem Afresh.answered (h : Afresh s u started id ending last ds)
    (fits : last.add? s.cacheTtl ≠ none) : ∃ answer, Session.verdict ending = .answered answer := by
  cases h with
  | @undelivered ending _ _ _ _ ended =>
    cases ending with
    | finished answer => exact ⟨answer, rfl⟩
    | cutOff => exact ⟨_, rfl⟩
    | overflowed => exact absurd rfl ended
  | delivered => exact ⟨_, rfl⟩
  | kept => exact ⟨_, rfl⟩
  | overflowed overflow => exact absurd overflow fits

/-- **Of the cache only a slow response makes anything**: it is put under the record. -/
theorem Afresh.onCacheAll_cases (h : Afresh s u started id ending last ds)
    (fits : last.add? s.cacheTtl ≠ none) (c : Cache) :
    ((∀ r, ending = .finished (.ok (.resolved r)) → r.extra.cached = false) ∧
      onCacheAll ds c = c ∧ ∀ t key e, .kept t key e ∉ ds) ∨
    ∃ r t expires, ending = .finished (.ok (.resolved r)) ∧ r.extra.cached = true ∧
      t.add? s.cacheTtl = some expires ∧ onCacheAll ds c = c.put id ⟨r.write, expires⟩ ∧
      ∀ t' key e, .kept t' key e ∈ ds ↔ t' = t ∧ key = id ∧ e = ⟨r.write, expires⟩ := by
  have idle_kept : ∀ {ds : List StoreDeed} {t key e}, (∀ d ∈ ds, d.Idle) → .kept t key e ∉ ds :=
    fun idle hmem => idle _ hmem
  cases h with
  | undelivered idle unresolved ended =>
    exact .inl ⟨fun r hr => absurd hr (unresolved r), onCacheAll_idle idle,
      fun _ _ _ => idle_kept idle⟩
  | @delivered r t _ ds idle quick unmarked =>
    refine .inl ⟨fun r hr => by cases hr; exact unmarked, ?_, fun t' key e hmem => ?_⟩
    · rw [onCacheAll, List.foldl_append]
      exact onCacheAll_idle idle
    · rcases List.mem_append.1 hmem with hmem | hmem
      · exact idle_kept idle hmem
      · simp at hmem
  | @kept r t t₁ t₂ expires _ ds message idle slow hexpires marked =>
    refine .inr ⟨r, t₁, expires, rfl, marked, hexpires, ?_, fun t' key e => ?_⟩
    · rw [onCacheAll, List.foldl_append]
      show Cache.put (onCacheAll ds c) id _ = _
      rw [onCacheAll_idle idle]
    · simp [idle_kept idle]
  | overflowed overflow => exact absurd overflow fits

/-- **A response is kept exactly when the clock, read behind all calls, tells that it is slow.** -/
theorem Afresh.slow_iff {r : Response}
    (h : Afresh s u started id (.finished (.ok (.resolved r))) last ds) :
    ∃ before t later, ds = before ++ .read t :: later ∧ (∀ d ∈ before, d.Idle) ∧
      (∀ t', .read t' ∉ later) ∧ (∀ c x, .called c x ∉ later) ∧
      (r.extra.cached = true ↔ Slow s u started t) := by
  cases h with
  | undelivered _ unresolved => exact absurd rfl (unresolved r)
  | @delivered _ t _ before idle quick unmarked =>
    refine ⟨before, t, [], rfl, idle, fun _ => List.not_mem_nil, fun _ _ => List.not_mem_nil, ?_⟩
    rw [unmarked]
    exact ⟨nofun, fun hslow => absurd hslow quick⟩
  | @kept _ t t₁ t₂ expires _ before message idle slow fits marked =>
    refine ⟨before, t, _, rfl, idle, by simp, by simp, ?_⟩
    exact ⟨fun _ => slow, fun _ => marked⟩

end Fresh

/-! ## 2. Requests -/

/-- Whether the cache is left as it was by looking for a record at some time: a dead entry may be
    gone, and so is a living one that is no document. -/
structure LookedFor (c c' : Cache) (t : Instant) (id : String) : Prop where
  others : ∀ key, key ≠ id → c'.find? key = c.find? key
  entry : c'.find? id = (c.find? id).filter (fun e => e.alive t) ∨
    (c'.find? id = none ∧
      ∃ e, c.find? id = some e ∧ e.alive t = true ∧ Json.isDocument e.value = false)

theorem lookedFor_get (c : Cache) (t : Instant) (id : String) :
    LookedFor c (c.get t id).2 t id where
  others key hne := by rw [Cache.find?_get, if_neg hne]
  entry := .inl (by rw [Cache.find?_get, if_pos rfl])

theorem lookedFor_delete {c : Cache} {t : Instant} {id : String} {body : Bytes}
    (found : (c.get t id).1 = some body) (corrupt : Json.isDocument body = false) :
    LookedFor c ((c.get t id).2.delete id) t id where
  others key hne := by rw [Cache.find?_delete, if_neg hne, Cache.find?_get, if_neg hne]
  entry := by
    refine .inr ⟨by rw [Cache.find?_delete, if_pos rfl], ?_⟩
    rcases c.get_cases t id with ⟨hg, -⟩ | ⟨e, hf, ha, hg⟩ | ⟨e, -, -, hg⟩ <;> rw [hg] at found
    · cases found
    · cases found
      exact ⟨e, hf, ha, corrupt⟩
    · cases found

/-- What a request does to the cache, in terms of its steps and of what it is answered: `c` and `c'`
    are the cache before and after it. It begins when it has `started`, and looks for the record
    when it has `looked`. -/
structure Keeping (s : Settings) (id : String) (started looked : Instant) (c c' : Cache)
    (ds : List StoreDeed) (answer : Except Failure Resolution) : Prop where
  others : ∀ key, key ≠ id → c'.find? key = c.find? key
  /-- The text of a marked response is written, from `t` on for as long as is set, and nothing else
      is; or the answer is no marked response, and nothing is written. -/
  writes :
    (∃ r t expires, answer = .ok (.resolved r) ∧ r.extra.cached = true ∧
      t.add? s.cacheTtl = some expires ∧ t.nanos < expires.nanos ∧
      c'.find? id = some ⟨(Resolution.resolved r).body, expires⟩ ∧
      ∀ t' key e, .kept t' key e ∈ ds ↔
        t' = t ∧ key = id ∧ e = ⟨(Resolution.resolved r).body, expires⟩) ∨
    ((∀ r, answer = .ok (.resolved r) → r.extra.cached = false) ∧
      (∀ t key e, .kept t key e ∉ ds) ∧ LookedFor c c' looked id)
  /-- The clock is read when the request begins and once more, behind all calls. A response is
      marked exactly when more than the trigger lies between the two. -/
  marks : ∀ r, answer = .ok (.resolved r) → ∃ before t later,
    ds = .read started :: (before ++ .read t :: later) ∧
    (∀ t', .read t' ∉ before ++ later) ∧ (∀ c x, .called c x ∉ later) ∧
    (r.extra.cached = true ↔ s.cacheTrigger.nanos < (t.since started).nanos)

/-- **Resolving a record afresh writes a marked response, and nothing else**, where nothing is
    written and the clock is not read `before`. -/
theorem Afresh.keeping {s : Settings} {started last looked : Instant} {id : String}
    {ending : Ending (Except Failure Resolution)} {before ds : List StoreDeed} {c c' : Cache}
    {answer : Except Failure Resolution} (h : Afresh s true started id ending last ds)
    (fits : last.add? s.cacheTtl ≠ none) (positive : 0 < s.cacheTtl.nanos)
    (hanswer : Session.verdict ending = .answered answer) (found : LookedFor c c' looked id)
    (unread : ∀ t, .read t ∉ before) (unwritten : ∀ t key e, .kept t key e ∉ before) :
    Keeping s id started looked c (onCacheAll ds c') (.read started :: (before ++ ds)) answer := by
  have hend : ∀ r, answer = .ok (.resolved r) → ending = .finished (.ok (.resolved r)) :=
    fun r hr => Session.verdict_eq_ok.1 (by rw [hanswer, hr])
  have kept_iff : ∀ t key e,
      .kept t key e ∈ Deed.read started :: (before ++ ds) ↔ .kept t key e ∈ ds := by
    intro t key e
    simp [unwritten t key e]
  have marks : ∀ r, answer = .ok (.resolved r) → ∃ front t later,
      Deed.read started :: (before ++ ds) = .read started :: (front ++ .read t :: later) ∧
      (∀ t', .read t' ∉ front ++ later) ∧ (∀ c x, .called c x ∉ later) ∧
      (r.extra.cached = true ↔ s.cacheTrigger.nanos < (t.since started).nanos) := by
    intro r hr
    rw [hend r hr] at h
    obtain ⟨front, t, later, rfl, idle, unread', uncalled, hslow⟩ := h.slow_iff
    refine ⟨before ++ front, t, later, by simp, fun t' hmem => ?_, uncalled, ?_⟩
    · simp only [List.mem_append] at hmem
      rcases hmem with (hmem | hmem) | hmem
      · exact unread t' hmem
      · exact idle _ hmem
      · exact unread' t' hmem
    · rw [hslow]
      exact ⟨fun hs => hs.2, fun hs => ⟨rfl, hs⟩⟩
  -- there is no mark and nothing is written, or a mark and one entry
  rcases h.onCacheAll_cases fits c' with ⟨unmarked, hcache, hkept⟩ |
    ⟨r, t, expires, hr, marked, hexpires, hcache, hkept⟩
  · rw [hcache]
    exact {
      others := found.others
      writes := .inr ⟨fun r hr => unmarked r (hend r hr),
        fun t key e hmem => hkept t key e ((kept_iff t key e).1 hmem), found⟩
      marks }
  · rw [hcache]
    have hanswer' : answer = .ok (.resolved r) := by
      rw [hr] at hanswer
      cases hanswer
      rfl
    have later : t.nanos < expires.nanos := by
      rw [Instant.eq_advance_of_add? hexpires]
      exact Nat.lt_add_of_pos_right positive
    exact {
      others := fun key hne => by rw [Cache.find?_put, if_neg hne, found.others key hne]
      writes := .inl ⟨r, t, expires, hanswer', marked, hexpires, later,
        by rw [Cache.find?_put, if_pos rfl]; rfl,
        fun t' key e => (kept_iff t' key e).trans (hkept t' key e)⟩
      marks }

namespace Session

variable {σ : Type} {w : World (StoreCall IndexCall) (StoreCall.Answer IndexCall.Answer) σ}
  {drift : Nat → Duration} {S : Session σ} {id : String}

/-- **A request reads the clock and looks for the record.** It serves the document that it finds, or
    it resolves the record afresh, having removed what is no document. -/
theorem deeds_cases (caching : S.service.useCache = true) :
    let out := (CitationFusion.resolve S.service.settings S.service.useCache id).drifting w
      (some S.deadline) drift 0 S.scene
    let started := S.now.advance (drift 0)
    let t := started.advance (drift 1)
    ∃ c, LookedFor S.cache c t id ∧
      ((∃ body t₁ t₂ message, out.1 = .finished (.ok (.cached body)) ∧ out.2.cache = c ∧
          S.deeds w drift id =
            [.read started, .looked t id, .reached t₁ message, .read t₂]) ∨
        ∃ before ds, S.deeds w drift id = .read started :: (before ++ ds) ∧
          (before = [.looked t id] ∨
            before = [.looked t id, .evicted id, .noted (.evictedCorrupt id)]) ∧
          out.2.cache = onCacheAll ds c ∧
          Afresh S.service.settings true started id out.1 out.2.now ds) := by
  intro out started t
  show ∃ c, LookedFor S.cache c t id ∧
    ((∃ body t₁ t₂ message, (S.followed w (some S.deadline) drift id).1 = _ ∧
      (S.followed w (some S.deadline) drift id).2.cache = c ∧ _) ∨
      ∃ before ds, _ ∧ _ ∧ (S.followed w (some S.deadline) drift id).2.cache = _ ∧
        Afresh _ _ _ _ (S.followed w (some S.deadline) drift id).1
          (S.followed w (some S.deadline) drift id).2.now ds)
  rcases S.followed_cases w drift id with
    ⟨body, t₁, t₂, message, -, -, -, hend, -, hcache, hds⟩ |
    ⟨before, n, scene, unserved, -, hout, hds⟩
  · exact ⟨_, lookedFor_get _ _ _, .inl ⟨_, t₁, t₂, message, hend, hcache, hds⟩⟩
  · rw [hout, caching]
    rw [caching] at unserved hds
    let anew := fresh S.service.settings true started id
    have hcache := cache_drifting w (some S.deadline) drift n anew scene
    have afresh : Afresh S.service.settings true started id
        (anew.drifting w (some S.deadline) drift n scene).1
        (anew.drifting w (some S.deadline) drift n scene).2.now
        (anew.deeds w (some S.deadline) drift n scene) := fresh_afresh n scene
    generalize hc : scene.cache = c at unserved hcache
    cases unserved with
    | plain uncached => cases uncached
    | missing =>
      exact ⟨_, lookedFor_get _ _ _, .inr ⟨_, _, hds, .inl rfl, hcache, afresh⟩⟩
    | corrupt _ found corrupt =>
      exact ⟨_, lookedFor_delete found corrupt, .inr ⟨_, _, hds, .inr rfl, hcache, afresh⟩⟩

/-- **A request writes one entry or none**, and leaves every other record alone. It writes one
    exactly when it answers a response that took longer than the trigger: the text of that. When it
    writes none, at most a dead entry of the record is gone, or a living one that is no document. -/
theorem resolve_keeping (caching : S.service.useCache = true)
    (positive : 0 < S.service.settings.cacheTtl.nanos)
    (fits : (S.resolve (.drifting w drift) id).2.1.now.add? S.service.settings.cacheTtl ≠ none) :
    let out := S.resolve (.drifting w drift) id
    let started := S.now.advance (drift 0)
    ∃ answer, out.1 = .answered answer ∧
      Keeping S.service.settings id started (started.advance (drift 1)) S.cache out.2.1.cache
        (S.deeds w drift id) answer := by
  intro out started
  let p := (CitationFusion.resolve S.service.settings S.service.useCache id).drifting w
    (some S.deadline) drift 0 S.scene
  show ∃ answer, verdict p.1 = .answered answer ∧ Keeping _ _ _ _ _ p.2.cache _ answer
  have fits' : p.2.now.add? S.service.settings.cacheTtl ≠ none := fits
  obtain ⟨c, found, hcases⟩ := @deeds_cases _ w drift S id caching
  rcases hcases with ⟨body, t₁, t₂, message, hend, hcache, hds⟩ |
    ⟨before, ds, hds, hbefore, hcache, afresh⟩
  · refine ⟨.ok (.cached body), congrArg verdict hend, ?_⟩
    rw [hcache, hds]
    exact {
      others := found.others
      writes := .inr ⟨nofun, by simp, found⟩
      marks := nofun }
  · obtain ⟨answer, hanswer⟩ := afresh.answered fits'
    refine ⟨answer, hanswer, ?_⟩
    rw [hcache, hds]
    refine afresh.keeping fits' positive hanswer found (fun t => ?_) fun t key e => ?_
    · rcases hbefore with rfl | rfl <;> simp
    · rcases hbefore with rfl | rfl <;> simp

/-- A record that takes a second, of which the cache holds an empty text, beside another record. -/
theorem resolve_keeping_blank :
    let w := knowing (.ofSecs 1) ⟨["b"], []⟩ []
    let c := (Cache.empty.put "q" ⟨Utf8.ofString "1", ⟨10⟩⟩).put "r" ⟨[], ⟨10⟩⟩
    let S : Session Unit :=
      ⟨⟨⟨.ofSecs 30, false, .zero, .ofSecs 60⟩, true, ⟨true, true⟩⟩, ⟨0⟩, (), c⟩
    let drift : Nat → Duration := fun _ => .ofNanos 1
    let out := S.resolve (.drifting w drift) "r"
    ∃ r, out.1 = .answered (.ok (.resolved r)) ∧ r.extra.cached = true ∧
      Keeping S.service.settings "r" ⟨1⟩ ⟨2⟩ c out.2.1.cache (S.deeds w drift "r")
        (.ok (.resolved r)) := by
  intro w c S drift out
  let r : Response :=
    ⟨"r", "a", [], [], ⟨[⟨"b"⟩], []⟩, ⟨(Duration.ofNanos 1000000012).seconds, 1, 0, 0, 0, true⟩⟩
  let p := (CitationFusion.resolve S.service.settings true "r").drifting w (some S.deadline) drift 0
    S.scene
  -- the empty text is removed, and the record is resolved afresh
  have hblank : Json.isDocument [] = false := by
    have hskim : Json.skim [] = .error (.onNext .endInValue []) := by
      rw [Json.skim, Json.skimFrom]
      rfl
    rw [Json.isDocument, Json.checkDocument, hskim]
    rfl
  have hget : S.cache.get ((S.now.advance (drift 0)).advance (drift (0 + 1))) "r" =
      (some [], S.cache) := rfl
  let left : Scene Unit :=
    ⟨⟨4⟩, (), .put .empty "q" ⟨Utf8.ofString "1", ⟨10⟩⟩, S.scene.watch, [.evictedCorrupt "r"]⟩
  have anew : p = (fresh S.service.settings true ⟨1⟩ "r").drifting w (some S.deadline) drift 4
      left := by
    simp only [p, CitationFusion.resolve, if_true, Plan.drifting, Scene.later, Session.scene, hget,
      hblank, Bool.false_eq_true, if_false]
    rfl
  have hend : p.1 = .finished (.ok (.resolved r)) := by
    rw [anew]
    decide +kernel
  have hnow : p.2.now.add? (.ofSecs 60) ≠ none := by
    rw [anew]
    decide +kernel
  have hout : out.1 = .answered (.ok (.resolved r)) := congrArg verdict hend
  obtain ⟨answer, hanswer, hkeeping⟩ :=
    @resolve_keeping Unit w drift S "r" rfl (by decide) hnow
  cases hout.symm.trans hanswer
  exact ⟨r, hout, rfl, hkeeping⟩

end Session

end CitationFusion
