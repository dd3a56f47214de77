import CitationFusion.Proofs.Fresh
import CitationFusion.Proofs.Fusion
import CitationFusion.Proofs.Presentable
import Mathlib.Logic.Relation

/-!
# What is kept is served

A response that was kept is served until it expires, whatever else happens in between, as the text
that it is with the time of the request that it is served to.

* `Cache.Lasting` : an entry stands where it was put, or is dead and gone. Everything that is done
  to the cache under another key, and everything that removes the dead, leaves it so.
* `Spares`, `resolve_spares` : so does every plan of a request that does not write the entry anew.
* `Apart`, `Apart.lasting` : what may happen to a service beside that, and that the entry lasts.
* `KeptBy`, `fresh_keptBy` : a marked response was kept.
* `Session.Serves`, `Session.resolve_serves` : requests are served from it until it expires, without
  asking the stores.
-/

namespace CitationFusion

open Plan Plan.Deed

/-! ## 1. One entry -/

namespace Cache

/-- Whether an entry stands under a key, or is dead and gone. -/
def Lasting (c : Cache) (key : String) (e : Entry) (now : Instant) : Prop :=
  c.find? key = some e ∨ (e.alive now = false ∧ c.find? key = none)

variable {c c' : Cache} {key key' : String} {e e' : Entry} {now now' : Instant}

theorem Lasting.later (h : c.Lasting key e now) (hle : now.nanos ≤ now'.nanos) :
    c.Lasting key e now' := by
  rcases h with hfind | ⟨hdead, hnone⟩
  · exact .inl hfind
  · refine .inr ⟨?_, hnone⟩
    simp only [Entry.alive, decide_eq_false_iff_not, Nat.not_lt] at hdead ⊢
    exact Nat.le_trans hdead hle

theorem Lasting.unchanged (h : c.Lasting key e now) (hfind : c'.find? key = c.find? key) :
    c'.Lasting key e now := by
  unfold Lasting
  rw [hfind]
  exact h

/-- What removes dead entries only leaves an entry, or that was dead. -/
theorem Lasting.filtered (h : c.Lasting key e now)
    (hfind : c'.find? key = (c.find? key).filter (fun e => e.alive now)) :
    c'.Lasting key e now := by
  rcases h with hsome | ⟨hdead, hnone⟩
  · rw [hsome, Option.filter_some] at hfind
    cases halive : e.alive now with
    | true =>
      rw [halive, if_pos rfl] at hfind
      exact .inl hfind
    | false =>
      rw [halive] at hfind
      exact .inr ⟨halive, hfind⟩
  · rw [hnone] at hfind
    exact .inr ⟨hdead, hfind⟩

theorem Lasting.get (h : c.Lasting key e now) (key' : String) :
    (c.get now key').2.Lasting key e now := by
  have hfind : (c.get now key').2.find? key = _ := find?_get
  by_cases heq : key = key'
  · rw [if_pos heq, ← heq] at hfind
    rw [← heq]
    exact h.filtered hfind
  · rw [if_neg heq] at hfind
    exact h.unchanged hfind

theorem Lasting.sweep (h : c.Lasting key e now) : (c.sweep now).2.Lasting key e now :=
  h.filtered find?_sweep

theorem Lasting.delete (h : c.Lasting key e now) (hne : key ≠ key') :
    (c.delete key').Lasting key e now := by
  refine h.unchanged ?_
  rw [find?_delete, if_neg hne]

theorem Lasting.put (h : c.Lasting key e now) (hne : key ≠ key') :
    (c.put key' e').Lasting key e now := by
  refine h.unchanged ?_
  rw [find?_put, if_neg hne]

/-- What is found under the key is the entry. -/
theorem Lasting.found (h : c.Lasting key e now) {v : Bytes} (hget : (c.get now key).1 = some v) :
    v = e.value := by
  rcases c.get_cases now key with ⟨hg, -⟩ | ⟨e', hfind', -, hg⟩ | ⟨e', -, -, hg⟩ <;> rw [hg] at hget
  · cases hget
  · cases hget
    rcases h with hfind | ⟨-, hnone⟩
    · rw [hfind] at hfind'
      cases hfind'
      rfl
    · rw [hnone] at hfind'
      cases hfind'
  · cases hget

end Cache

open Cache

/-! ## 2. Plans that spare an entry -/

/-- Whether a plan removes no document under a key, and writes under it only if the key is its own,
    to answer the response that it wrote. -/
def Spares (key : String) (own : Prop) : StorePlan (Except Failure Resolution) → Prop
  | .done _ => True
  | .call _ next => ∀ x, Spares key own (next x)
  | .clock next => ∀ t, Spares key own (next t)
  | .lookup key' next => Spares key own (next none) ∧
      ∀ v, (key' = key → Json.isDocument v = true) → Spares key own (next (some v))
  | .store key' _ _ next => (key ≠ key' ∧ Spares key own next) ∨
      (own ∧ ∃ message r, next = .lap message (.done (.ok (.resolved r))) ∧
        r.extra.cached = true)
  | .evict key' next => key ≠ key' ∧ Spares key own next
  | .lap _ next => Spares key own next
  | .note _ next => Spares key own next

section Requests

variable {σ : Type} {w : World (StoreCall IndexCall) (StoreCall.Answer IndexCall.Answer) σ}
  {drift : Nat → Duration} {S T : Session σ} {id : String} {e : Entry} {r : Response}

/-- **A request spares the entry of every record**, but for the one that it may write. -/
theorem resolve_spares (s : Settings) (u : Bool) (id key : String) :
    Spares key (id = key) (resolve s u id) := by
  have stepwise : Stepwise (fun _ _ => True) (Spares key (id = key)) :=
    ⟨fun _ _ h x => h x trivial, fun _ _ h => h, fun _ => trivial, fun _ => trivial⟩
  have anew : ∀ started, Spares key (id = key) (fresh s u started id) := by
    intro started
    refine fresh_induct stepwise (fun _ => trivial) fun doi e M c _ _ _ _ now => ?_
    simp only
    split
    · by_cases h : id = key
      · exact .inr ⟨h, _, _, rfl, rfl⟩
      · exact .inl ⟨fun heq => h heq.symm, trivial⟩
    · trivial
  intro started
  split
  · refine ⟨anew started, fun v hv => ?_⟩
    simp only
    split
    · exact fun _ => trivial
    · rename_i hdoc
      exact ⟨fun heq => hdoc (hv heq.symm), anew started⟩
  · exact anew started

/-- **A plan that spares an entry leaves it where it is** until it is dead, if that is a document,
    unless it answers that it wrote it. -/
theorem Spares.drifting {key : String} {own : Prop} {p : StorePlan (Except Failure Resolution)}
    (h : Spares key own p) (hdoc : Json.isDocument e.value = true)
    (w : World (StoreCall IndexCall) (StoreCall.Answer IndexCall.Answer) σ)
    (deadline : Option Instant) (drift : Nat → Duration) (n : Nat) (s : Scene σ)
    (hlasting : s.cache.Lasting key e s.now) :
    let out := p.drifting w deadline drift n s
    out.2.cache.Lasting key e out.2.now ∨
      (own ∧ ∃ r, out.1 = .finished (.ok (.resolved r)) ∧ r.extra.cached = true) := by
  have later : ∀ {n : Nat} {s : Scene σ}, s.cache.Lasting key e s.now →
      s.cache.Lasting key e (s.later (drift n)).now := fun h => h.later (le_later _ _)
  -- along the plan: only the write of a response can touch an entry that is alive
  induction p generalizing n s with
  | done a => exact .inl hlasting
  | call c next ih =>
    rw [drifting_call]
    split
    · rename_i now harrival
      have hnow : s.cache.Lasting key e now := (later hlasting).later (le_arrival harrival)
      exact ih _ (h _) (n + 1) { s with world := (w.respond s.world c).1, now } hnow
    · exact .inl ((later hlasting).later (Nat.le_max_left _ _))
  | clock next ih => exact ih _ (h _) (n + 1) (s.later (drift n)) (later hlasting)
  | lookup key' next ih =>
    have hnext : Spares key own (next (s.cache.get (s.later (drift n)).now key').1) := by
      cases hget : (s.cache.get (s.later (drift n)).now key').1 with
      | none => exact h.1
      | some v =>
        refine h.2 v fun heq => ?_
        rw [heq] at hget
        rw [(later hlasting).found hget]
        exact hdoc
    exact ih _ hnext (n + 1)
      { s.later (drift n) with cache := (s.cache.get (s.later (drift n)).now key').2 }
      ((later hlasting).get key')
  | store key' value ttl next ih =>
    rw [drifting_store]
    split
    · rename_i cache hset
      obtain ⟨expires, -, rfl⟩ := set?_eq_some hset
      rcases h with ⟨hne, hnext⟩ | ⟨hown, message, r, rfl, marked⟩
      · exact ih hnext (n + 1)
          { s.later (drift n) with cache := s.cache.put key' ⟨value, expires⟩ }
          ((later hlasting).put hne)
      · exact .inr ⟨hown, r, rfl, marked⟩
    · exact .inl (later hlasting)
  | evict key' next ih =>
    exact ih h.2 (n + 1) { s.later (drift n) with cache := s.cache.delete key' }
      ((later hlasting).delete h.1)
  | lap message next ih =>
    exact ih h (n + 1)
      { s.later (drift n) with watch := s.watch.record (s.later (drift n)).now message }
      (later hlasting)
  | note event next ih =>
    exact ih h (n + 1) { s.later (drift n) with events := s.events ++ [event] } (later hlasting)

/-! ## 3. Histories -/

/-- What may happen to a service beside writing the entry of a record, removing it while it is
    alive, and emptying the cache. The stores may change between any two requests, and within
    them. -/
inductive Apart (id : String) : Session σ → Session σ → Prop where
  /-- A request for any record, of which the stores answer anything, and whose steps take any time;
      one for the record itself writes nothing. -/
  | request (w : World (StoreCall IndexCall) (StoreCall.Answer IndexCall.Answer) σ)
      (drift : Nat → Duration) (S : Session σ) (other : String)
      (unwritten : other = id → ∀ r, (S.resolve (.drifting w drift) other).1 =
        .answered (.ok (.resolved r)) → r.extra.cached = false) :
      Apart id S (S.resolve (.drifting w drift) other).2.1
  | sweep (S : Session σ) : Apart id S { S with cache := (S.cache.sweep S.now).2 }
  | advance (S : Session σ) (d : Duration) : Apart id S { S with now := S.now.advance d }
  /-- The service is set up in another way, and its stores change. -/
  | change (S : Session σ) (service : Service) (world : σ) : Apart id S { S with service, world }
  /-- Another request in flight looks for a text. -/
  | look (S : Session σ) (key : String) : Apart id S { S with cache := (S.cache.get S.now key).2 }
  /-- Another request in flight keeps its answer. -/
  | keep (S : Session σ) (key : String) (different : id ≠ key) (value : Bytes) (expires : Instant) :
      Apart id S { S with cache := S.cache.put key ⟨value, expires⟩ }
  /-- Another request in flight removes a text that is no document. -/
  | remove (S : Session σ) (key : String) (different : id ≠ key) :
      Apart id S { S with cache := S.cache.delete key }

/-- **Whatever else happens leaves the entry where it is** until it is dead. -/
theorem Apart.lasting (hdoc : Json.isDocument e.value = true) (hstep : Apart id S T)
    (h : S.cache.Lasting id e S.now) : T.cache.Lasting id e T.now := by
  cases hstep with
  | request w drift _ other unwritten =>
    have hspares := resolve_spares S.service.settings S.service.useCache other id
    rcases hspares.drifting hdoc w (some S.deadline) drift 0 S.scene h with
      hlasting | ⟨hown, r, hend, marked⟩
    · exact hlasting
    · have hverdict : (S.resolve (.drifting w drift) other).1 = .answered (.ok (.resolved r)) :=
        Session.verdict_eq_ok.2 hend
      rw [unwritten hown r hverdict] at marked
      cases marked
  | sweep => exact h.sweep
  | advance _ d => exact h.later (Nat.le_add_right _ _)
  | change => exact h
  | look _ key => exact h.get key
  | keep _ key different => exact h.put different
  | remove _ key different => exact h.delete different

/-- **So does every history.** -/
theorem lasting_of_history (hdoc : Json.isDocument e.value = true)
    (history : Relation.ReflTransGen (Apart id) S T) (h : S.cache.Lasting id e S.now) :
    T.cache.Lasting id e T.now := by
  induction history with
  | refl => exact h
  | tail _ hstep ih => exact hstep.lasting hdoc ih

/-! ## 4. Serving the entry -/

/-- The text of a response with another time in it. -/
def Response.textAt (r : Response) (d : Duration) : Bytes := r.head ++ (Took.print d ++ r.tail)

theorem Response.Sendable.patch_eq (h : r.Sendable) (d : Duration) :
    Took.patch r.write d = r.textAt d := by
  rw [Took.patch, h.timed.patch?_eq d]
  rfl

/-- **A document that is found alive is served**, however long the steps take, and the stores are
    not asked. -/
theorem resolve_hit (w : World (StoreCall IndexCall) (StoreCall.Answer IndexCall.Answer) σ)
    (deadline : Option Instant) (drift : Nat → Duration) (s : Settings) (scene : Scene σ)
    (hfind : scene.cache.find? id = some e) (hdoc : Json.isDocument e.value = true)
    (halive : e.alive ((scene.now.advance (drift 0)).advance (drift 1)) = true) :
    let out := (resolve s true id).drifting w deadline drift 0 scene
    out.1 = .finished (.ok (.cached (Took.patch e.value
      (out.2.now.since (scene.now.advance (drift 0)))))) ∧
      out.2.world = scene.world ∧ out.2.cache = scene.cache := by
  have hget := get_of_alive hfind halive
  simp only [resolve, if_true, Plan.drifting, Scene.later, hget, hdoc, and_self]

/-- Whether a response was kept by some steps, behind all but that of the last checkpoint, and for
    as long as is set. It can be sent. -/
def KeptBy (drift : Nat → Duration) (ttl : Duration) (id : String) (r : Response)
    (ds : List StoreDeed) (last : Scene σ) : Prop :=
  ∃ t n expires, .kept t id ⟨r.write, expires⟩ ∈ ds ∧ last.now = t.advance (drift n) ∧
    t.add? ttl = some expires ∧ last.cache.find? id = some ⟨r.write, expires⟩ ∧ r.Sendable

theorem KeptBy.append {ttl : Duration} {ds : List StoreDeed} {last : Scene σ}
    (h : KeptBy drift ttl id r ds last) (before : List StoreDeed) :
    KeptBy drift ttl id r (before ++ ds) last := by
  obtain ⟨t, n, expires, hmem, hkept⟩ := h
  exact ⟨t, n, expires, List.mem_append_right before hmem, hkept⟩

section Fresh

variable {deadline : Option Instant} {s : Settings} {u : Bool} {started : Instant}

/-- Delivering a response keeps it if it is marked. The clock can express when it expires, so it can
    express all readings before. -/
theorem deliver_keptBy {q : Response} (hid : q.id = id) (hq : q.extra.cached = false)
    (citing : ∀ b ∈ q.citing, b.Accepted) (cited : ∀ b ∈ q.cited, b.Accepted) (n : Nat)
    (scene : Scene σ)
    (hend : ((deliver s u started q).drifting w deadline drift n scene).1 =
      .finished (.ok (.resolved r))) (marked : r.extra.cached = true) :
    KeptBy drift s.cacheTtl id r ((deliver s u started q).deeds w deadline drift n scene)
      ((deliver s u started q).drifting w deadline drift n scene).2 := by
  subst hid
  refine deliver_induct (P := fun out ds => out.1 = .finished (.ok (.resolved r)) →
      KeptBy drift s.cacheTtl q.id r ds out.2) (fun t last _ hend => ?_)
    (fun t t₁ expires last _ later fits ended stored hend => ?_) (fun _ _ _ _ _ => nofun) hend
  · cases hend
    cases marked.symm.trans hq
  · cases hend
    have hfits : t₁.add? s.cacheTtl ≠ none := by
      rw [fits]
      exact Option.some_ne_none expires
    have hvalid : t.Valid := (Instant.valid_of_add?_ne_none hfits).mono later
    exact ⟨t₁, n + 2, expires, List.mem_cons_of_mem _ List.mem_cons_self, ended, fits, stored,
      citing, cited, _, hvalid.secs_since started, rfl⟩

/-- **A record that is resolved afresh has its response kept if that is marked.** -/
theorem fresh_keptBy (n : Nat) (scene : Scene σ)
    (hend : ((fresh s u started id).drifting w deadline drift n scene).1 =
      .finished (.ok (.resolved r))) (marked : r.extra.cached = true) :
    KeptBy drift s.cacheTtl id r ((fresh s u started id).deeds w deadline drift n scene)
      ((fresh s u started id).drifting w deadline drift n scene).2 := by
  have accrues : Accrues fun (out : Ending (Except Failure Resolution) × Scene σ) ds =>
      out.1 = .finished (.ok (.resolved r)) → KeptBy drift s.cacheTtl id r ds out.2 :=
    { abandoned := fun c scene => nofun
      called := fun c x out ds h hend => (h hend).append [_]
      reached := fun t message out ds h hend => (h hend).append [_]
      violated := fun message scene => nofun
      failed := fun f scene => nofun }
  refine fresh_accrues accrues (fun doi scene => nofun) (fun doi e M c hc n scene hend => ?_) n
    scene hend
  have hid : ((Neighbourhood.ofEdges id doi e).response M c).id = id := rfl
  exact deliver_keptBy hid rfl hc.citing hc.cited n scene hend marked

end Fresh

/-- Nothing is relied on, and what is answered is not from the cache. -/
def anew : Contract (StoreCall IndexCall) (StoreCall.Answer IndexCall.Answer)
    (Except Failure Resolution) where
  answers _ _ := True
  reading _ := True
  found _ _ := True
  keeps _ _ _ := True
  sound _ _ _ _ := trivial
  finishes a := ∀ body, a ≠ .ok (.cached body)

theorem fresh_meets_anew (s : Settings) (u : Bool) (started : Instant) (id : String) :
    (fresh s u started id).Meets anew := by
  have failed : ∀ f, anew.finishes (.error f) := fun _ _ => nofun
  have answered : ∀ r, anew.finishes (.ok (.resolved r)) := fun _ _ => nofun
  refine fresh_induct (stepwise_meets failed) (fun _ _ => nofun) fun doi e M c _ _ _ _ => ?_
  exact deliver_meets (fun _ _ => answered _) fun _ _ _ _ => ⟨trivial, answered _⟩

/-- **Where no living entry is found, nothing is served from the cache**, however long the steps
    take. -/
theorem resolve_anew (w : World (StoreCall IndexCall) (StoreCall.Answer IndexCall.Answer) σ)
    (deadline : Option Instant) (drift : Nat → Duration) (s : Settings) (u : Bool) (scene : Scene σ)
    (hdead : ∀ e, scene.cache.find? id = some e →
      e.alive ((scene.now.advance (drift 0)).advance (drift 1)) = false) (body : Bytes) :
    ((resolve s u id).drifting w deadline drift 0 scene).1 ≠ .finished (.ok (.cached body)) := by
  let p := fresh s u (scene.now.advance (drift 0)) id
  have unserved : ∀ n (scene' : Scene σ),
      (p.drifting w deadline drift n scene').1 ≠ .finished (.ok (.cached body)) := by
    intro n scene' hend
    have hkept : Kept anew (p.drifting w deadline drift n scene').1
        (p.drifting w deadline drift n scene').2 :=
      (fresh_meets_anew s u (scene.now.advance (drift 0)) id).drifting
        (fun _ _ => trivial) (fun _ _ => trivial) (fun _ _ => trivial)
    exact hkept.finished _ hend body rfl
  intro hend
  cases u with
  | false =>
    simp only [resolve, Bool.false_eq_true, if_false, Plan.drifting] at hend
    exact unserved _ _ hend
  | true =>
    simp only [resolve, if_true, Plan.drifting, Scene.later, get_of_dead hdead] at hend
    exact unserved _ _ hend

namespace Session

/-- Whether requests for a record are served from the entry of a response as long as they find it
    alive, and never after that. The entry is the text of the response; what is served is that text
    with the time of the request in it, and the stores are not asked. -/
structure Serves (T : Session σ) (id : String) (r : Response) (expires : Instant) : Prop where
  stored : T.now.nanos < expires.nanos → T.cache.find? id = some ⟨r.write, expires⟩
  /-- A request reads the clock when it has `started`, and then looks for the entry. -/
  hit : T.service.useCache = true →
    ∀ (w : World (StoreCall IndexCall) (StoreCall.Answer IndexCall.Answer) σ)
      (drift : Nat → Duration),
      let started := T.now.advance (drift 0)
      let out := T.resolve (.drifting w drift) id
      (started.advance (drift 1)).nanos < expires.nanos →
        out.1 = .answered (.ok (.cached (r.textAt (out.2.1.now.since started)))) ∧
        out.2.1.world = T.world ∧ out.2.1.cache = T.cache
  miss : ∀ (w : World (StoreCall IndexCall) (StoreCall.Answer IndexCall.Answer) σ)
      (drift : Nat → Duration),
      expires.nanos ≤ ((T.now.advance (drift 0)).advance (drift 1)).nanos →
      ∀ body, (T.resolve (.drifting w drift) id).1 ≠ .answered (.ok (.cached body))

variable {expires : Instant}

/-- **While an entry lasts, requests are served from it**, and no longer. -/
theorem serves_of_lasting (hr : r.Sendable) (h : T.cache.Lasting id ⟨r.write, expires⟩ T.now) :
    T.Serves id r expires := by
  have halive : ∀ t : Instant, t.nanos < expires.nanos →
      Entry.alive ⟨r.write, expires⟩ t = true := fun t ht => decide_eq_true ht
  have hfind : ∀ t : Instant, T.now.nanos ≤ t.nanos → t.nanos < expires.nanos →
      T.cache.find? id = some ⟨r.write, expires⟩ := by
    intro t hle hlt
    rcases h with hfind | ⟨hdead, -⟩
    · exact hfind
    · rw [halive T.now (Nat.lt_of_le_of_lt hle hlt)] at hdead
      cases hdead
  have hdead : ∀ t : Instant, expires.nanos ≤ t.nanos →
      ∀ e, T.cache.find? id = some e → e.alive t = false := by
    intro t ht e he
    rcases h with hfind | ⟨-, hnone⟩
    · rw [hfind] at he
      cases he
      exact decide_eq_false (Nat.not_lt.2 ht)
    · rw [hnone] at he
      cases he
  constructor
  · exact fun hlt => hfind T.now (Nat.le_refl _) hlt
  · intro hu w drift started out hlt
    have hplan : CitationFusion.resolve T.service.settings T.service.useCache id =
        CitationFusion.resolve T.service.settings true id := by rw [hu]
    have hlooked := hfind _ (Nat.le_trans (Nat.le_add_right _ _) (Nat.le_add_right _ _)) hlt
    obtain ⟨hend, hworld, hcache⟩ := resolve_hit w (some T.deadline) drift T.service.settings
      T.scene hlooked hr.isDocument (halive _ hlt)
    rw [hr.patch_eq, ← hplan] at hend
    rw [← hplan] at hworld hcache
    exact ⟨verdict_eq_ok.2 hend, hworld, hcache⟩
  · intro w drift hge body hserved
    exact resolve_anew w _ drift _ _ T.scene (hdead _ hge) body (verdict_eq_ok.1 hserved)

/-- **A response that was kept is served until it expires**, whatever happens in between beside
    another write of it or its removal while it is alive, and from then on no more, however long the
    steps of the requests take. What is kept is its text, behind all steps but that of the last
    checkpoint; what is served is that text with the time of the request in the place of the
    time. -/
theorem resolve_serves
    (answered : (S.resolve (.drifting w drift) id).1 = .answered (.ok (.resolved r)))
    (kept : r.extra.cached = true) :
    let S₁ := (S.resolve (.drifting w drift) id).2.1
    r.write = r.head ++ (Json.writeDouble r.extra.took ++ r.tail) ∧
    ∃ t n expires, .kept t id ⟨r.write, expires⟩ ∈ S.deeds w drift id ∧
      S₁.now = t.advance (drift n) ∧ t.add? S.service.settings.cacheTtl = some expires ∧
      ∀ T, Relation.ReflTransGen (Apart id) S₁ T → T.Serves id r expires := by
  intro S₁
  have hend : (S.followed w (some S.deadline) drift id).1 = .finished (.ok (.resolved r)) :=
    verdict_eq_ok.1 answered
  rcases S.followed_cases w drift id with
    ⟨body, _, _, _, -, -, -, hcached, -⟩ | ⟨before, n, scene, -, -, hout, hds⟩
  · cases hend.symm.trans hcached
  · rw [hout] at hend
    obtain ⟨t, m, expires, hmem, hnow, hexpires, hfind, hr⟩ :=
      (fresh_keptBy n scene hend kept).append (.read _ :: before)
    rw [← hout] at hnow hfind
    rw [List.cons_append, ← hds] at hmem
    refine ⟨r.write_eq, t, m, expires, hmem, hnow, hexpires, fun T history => ?_⟩
    exact serves_of_lasting hr (lasting_of_history hr.isDocument history (.inl hfind))

/-- A record whose steps take a second each, kept for a minute. Another one is resolved as slowly,
    half of the minute passes, the cache is swept, and requests are given no time: the record is
    still served. -/
theorem resolve_serves_hasty :
    let w := knowing (.ofSecs 1) ⟨["b"], []⟩ []
    let drift : Nat → Duration := fun _ => .ofSecs 1
    let S : Session Unit :=
      .start ⟨⟨.ofSecs 30, false, .zero, .ofSecs 60⟩, true, ⟨true, true⟩⟩ ⟨0⟩ ()
    let hasty : Service := ⟨⟨.zero, false, .zero, .ofSecs 1⟩, true, ⟨true, true⟩⟩
    ∃ r T, (S.resolve (.drifting w drift) "r").1 = .answered (.ok (.resolved r)) ∧
      r.extra.cached = true ∧
      Relation.ReflTransGen (Apart "r") (S.resolve (.drifting w drift) "r").2.1 T ∧
      T.service = hasty ∧ T.now = ⟨58 * nanosPerSecond⟩ ∧
      T.Serves "r" r ⟨73 * nanosPerSecond⟩ := by
  intro w drift S hasty
  let r : Response :=
    ⟨"r", "a", [], [], ⟨[⟨"b"⟩], []⟩, ⟨(Duration.ofSecs 11).seconds, 1, 0, 0, 0, true⟩⟩
  let S₁ := (S.resolve (.drifting w drift) "r").2.1
  let S₂ := (S₁.resolve (.drifting w drift) "q").2.1
  let S₃ : Session Unit := { S₂ with now := S₂.now.advance (.ofSecs 30) }
  let S₄ : Session Unit := { S₃ with cache := (S₃.cache.sweep S₃.now).2 }
  let T : Session Unit := { S₄ with service := hasty, world := () }
  have hend : (S.followed w (some S.deadline) drift "r").1 = .finished (.ok (.resolved r)) := by
    decide +kernel
  have answered : (S.resolve (.drifting w drift) "r").1 = .answered (.ok (.resolved r)) := by
    rw [resolve_eq, conclude, hend]
    rfl
  have different : "q" ≠ "r" := by decide
  have other : Apart "r" S₁ S₂ := .request w drift S₁ "q" fun h => absurd h different
  have history : Relation.ReflTransGen (Apart "r") S₁ T :=
    .head other (.head (.advance S₂ _) (.head (.sweep S₃) (.single (.change S₄ hasty ()))))
  have kept : r.extra.cached = true := rfl
  obtain ⟨-, t, n, expires, -, hnow, hexpires, hserves⟩ := resolve_serves answered kept
  have hlast : (S.resolve (.drifting w drift) "r").2.1.now = ⟨14 * nanosPerSecond⟩ := by
    decide +kernel
  -- the last step, of the checkpoint, took a second as all others did
  have ht : t.nanos + (drift n).nanos = 14 * nanosPerSecond :=
    congrArg Instant.nanos (hnow.symm.trans hlast)
  have hstep : (drift n).nanos = nanosPerSecond := Nat.one_mul _
  have hfits : expires.nanos = t.nanos + 60 * nanosPerSecond :=
    congrArg Instant.nanos (Instant.eq_advance_of_add? hexpires)
  obtain rfl : expires = ⟨73 * nanosPerSecond⟩ := congrArg Instant.mk (by omega)
  exact ⟨r, T, answered, kept, history, rfl, by decide +kernel, hserves T history⟩

end Session

end Requests

end CitationFusion
