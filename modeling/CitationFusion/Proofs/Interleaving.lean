import CitationFusion.Proofs.Integrity
import Mathlib.Logic.Relation

/-!
# Requests at the same time

Any number of requests share one cache and one clock. Each of them moves on by one operation at a
time, in any order; calls are answered by anything, after any time or never; a request may be
canceled wherever it stands; the cache is flushed and swept at any time.

* `Interleaving.Step` : one step of the whole.
* `Step.intact`, `Reaches.intact` : what every step keeps, and so every run.
* `reaches_run` : following one request by itself is such a run.
* `Reaches.entries` : what is in the cache after any run, and what was served from it.
-/

namespace CitationFusion

open Plan

/-! ## 1. The moves of a plan -/

/-- One operation of a plan at some time, on some cache: what is left of both. A call may be
    answered by anything expected. -/
inductive Plan.Move {C : Type} {A : C → Type} {α : Type} (answers : (c : C) → A c → Prop)
    (now : Instant) (cache : Cache) : Plan C A α → Plan C A α → Cache → Prop where
  | call {c : C} {next : A c → Plan C A α} (x : A c) (expected : answers c x) :
      Move answers now cache (.call c next) (next x) cache
  | clock {next : Instant → Plan C A α} : Move answers now cache (.clock next) (next now) cache
  | lookup {key : String} {next : Option Bytes → Plan C A α} :
      Move answers now cache (.lookup key next) (next (cache.get now key).1)
        (cache.get now key).2
  | store {key : String} {value : Bytes} {ttl : Duration} {next : Plan C A α} {cache' : Cache}
      (fits : cache.set? now key value ttl = some cache') :
      Move answers now cache (.store key value ttl next) next cache'
  | evict {key : String} {next : Plan C A α} :
      Move answers now cache (.evict key next) next (cache.delete key)
  | lap {message : String} {next : Plan C A α} :
      Move answers now cache (.lap message next) next cache
  | note {event : Event} {next : Plan C A α} :
      Move answers now cache (.note event next) next cache

/-- **A move keeps what is promised of the rest of the plan**, and of the cache. -/
theorem Plan.Meets.move {C : Type} {A : C → Type} {α : Type} {k : Contract C A α}
    {p p' : Plan C A α} {now : Instant} {cache cache' : Cache} (h : p.Meets k)
    (hnow : k.reading now) (hcache : cache.Holds k.found)
    (hmove : Move k.answers now cache p p' cache') : p'.Meets k ∧ cache'.Holds k.found := by
  cases hmove with
  | call x expected => exact ⟨h x expected, hcache⟩
  | clock => exact ⟨h now hnow, hcache⟩
  | @lookup key next =>
    obtain ⟨hfound, hleft⟩ := hcache.get now key
    refine ⟨?_, hleft⟩
    cases hg : (cache.get now key).1 with
    | none => exact h.1
    | some v => exact h.2 v (hfound v hg)
  | store fits => exact ⟨h.2, hcache.set? (k.sound _ _ _ h.1) fits⟩
  | evict => exact ⟨h, hcache.delete _⟩
  | lap => exact ⟨h, hcache⟩
  | note => exact ⟨h, hcache⟩

namespace Interleaving

/-! ## 2. The system -/

/-- A request in flight: the record that it is for, and what is left to do. -/
structure Request where
  id : String
  rest : StorePlan (Except Failure Resolution)

/-- The clock, the cache, the requests in flight, and what was answered, the last answer first. -/
structure State where
  now : Instant
  cache : Cache
  requests : List Request
  answers : List (String × Except Failure Resolution)

/-- A service that starts: no request, and nothing in the cache. -/
def State.start (now : Instant) : State := ⟨now, .empty, [], []⟩

/-- One step of the whole. -/
inductive Step (s : Settings) : State → State → Prop where
  /-- A request arrives. -/
  | begin (σ : State) (id : String) :
      Step s σ { σ with requests := ⟨id, resolve s true id⟩ :: σ.requests }
  /-- A request moves on by one operation. -/
  | move (before : List Request) {after : List Request} {now : Instant} {cache cache' : Cache}
      {answers : List (String × Except Failure Resolution)} {id : String}
      {p p' : StorePlan (Except Failure Resolution)}
      (moved : Move Countable now cache p p' cache') :
      Step s ⟨now, cache, before ++ ⟨id, p⟩ :: after, answers⟩
        ⟨now, cache', before ++ ⟨id, p'⟩ :: after, answers⟩
  /-- A request has its answer. -/
  | answer (before : List Request) {after : List Request} {now : Instant} {cache : Cache}
      {answers : List (String × Except Failure Resolution)} {id : String}
      {a : Except Failure Resolution} :
      Step s ⟨now, cache, before ++ ⟨id, .done a⟩ :: after, answers⟩
        ⟨now, cache, before ++ after, (id, a) :: answers⟩
  /-- A request is canceled, wherever it stands. -/
  | cancel (before : List Request) {after : List Request} {now : Instant} {cache : Cache}
      {answers : List (String × Except Failure Resolution)} {q : Request} :
      Step s ⟨now, cache, before ++ q :: after, answers⟩
        ⟨now, cache, before ++ after, (q.id, .error .canceled) :: answers⟩
  /-- A request is broken off, because the clock cannot express when its answer expires. -/
  | breakOff (before : List Request) {after : List Request} {now : Instant} {cache : Cache}
      {answers : List (String × Except Failure Resolution)} {id key : String} {value : Bytes}
      {ttl : Duration} {next : StorePlan (Except Failure Resolution)}
      (overflow : cache.set? now key value ttl = none) :
      Step s ⟨now, cache, before ++ ⟨id, .store key value ttl next⟩ :: after, answers⟩
        ⟨now, cache, before ++ after, answers⟩
  /-- The cache is emptied. -/
  | flush (σ : State) : Step s σ { σ with cache := .empty }
  /-- The dead entries are removed. -/
  | sweep (σ : State) : Step s σ { σ with cache := (σ.cache.sweep σ.now).2 }
  /-- Time passes. -/
  | tick (σ : State) (d : Duration) {now : Instant} (later : σ.now.add? d = some now) :
      Step s σ { σ with now }

/-- Any number of steps. -/
abbrev Reaches (s : Settings) : State → State → Prop := Relation.ReflTransGen (Step s)

/-! ## 3. What every step keeps -/

/-- The clock reads what it can read, the texts in the cache are ones that may be kept, every
    request in flight keeps its promises from here on, and what was answered may be answered. -/
structure Intact (σ : State) : Prop where
  clock : σ.now.Valid
  cache : σ.cache.Holds KeptText
  requests : ∀ q ∈ σ.requests, q.rest.Meets (resolving q.id)
  answers : ∀ x ∈ σ.answers, Answer x.1 x.2

theorem start_intact {now : Instant} (h : now.Valid) : Intact (.start now) :=
  ⟨h, Cache.holds_empty, fun _ hq => absurd hq List.not_mem_nil,
    fun _ hx => absurd hx List.not_mem_nil⟩

/-- What holds of one item and of those around it holds of all. -/
theorem forall_mem_middle {α : Type} {P : α → Prop} {before after : List α} {a : α} :
    (∀ x ∈ before ++ a :: after, P x) ↔ P a ∧ ∀ x ∈ before ++ after, P x := by
  rw [List.forall_mem_append, List.forall_mem_append, List.forall_mem_cons]
  exact and_left_comm

/-- **Every step keeps the whole intact.** -/
theorem Step.intact {s : Settings} {σ σ' : State} (h : Intact σ) (hstep : Step s σ σ') :
    Intact σ' := by
  obtain ⟨hclock, hcache, hrequests, hanswers⟩ := h
  -- a step is that of one request, or of the cache or the clock; all else stands as it was
  cases hstep with
  | begin _ id =>
    refine ⟨hclock, hcache, fun q hq => ?_, hanswers⟩
    rcases List.mem_cons.1 hq with rfl | hq
    · exact resolve_meets_resolving s true id
    · exact hrequests q hq
  | move _ moved =>
    obtain ⟨hp, hothers⟩ := forall_mem_middle.1 hrequests
    obtain ⟨hp', hcache'⟩ := hp.move hclock hcache moved
    exact ⟨hclock, hcache', forall_mem_middle.2 ⟨hp', hothers⟩, hanswers⟩
  | answer =>
    obtain ⟨ha, hothers⟩ := forall_mem_middle.1 hrequests
    refine ⟨hclock, hcache, hothers, fun x hx => ?_⟩
    rcases List.mem_cons.1 hx with rfl | hx
    · exact ha
    · exact hanswers x hx
  | cancel =>
    refine ⟨hclock, hcache, (forall_mem_middle.1 hrequests).2, fun x hx => ?_⟩
    rcases List.mem_cons.1 hx with rfl | hx
    · exact ⟨nofun, nofun⟩
    · exact hanswers x hx
  | breakOff => exact ⟨hclock, hcache, (forall_mem_middle.1 hrequests).2, hanswers⟩
  | flush _ => exact ⟨hclock, Cache.holds_empty, hrequests, hanswers⟩
  | sweep _ => exact ⟨hclock, hcache.sweep σ.now, hrequests, hanswers⟩
  | tick _ d later => exact ⟨Instant.valid_of_add? later, hcache, hrequests, hanswers⟩

/-- **So does every run.** -/
theorem Reaches.intact {s : Settings} {σ σ' : State} (h : Intact σ) (hrun : Reaches s σ σ') :
    Intact σ' := by
  induction hrun with
  | refl => exact h
  | tail _ hstep ih => exact hstep.intact ih

/-! ## 4. One request by itself -/

section Alone

variable {τ : Type} {w : World (StoreCall IndexCall) (StoreCall.Answer IndexCall.Answer) τ}
  {s : Settings} {id : String} {others : List Request}
  {answers : List (String × Except Failure Resolution)}

/-- What is answered to a request whose plan ends. -/
def outcome (id : String) :
    Ending (Except Failure Resolution) → List (String × Except Failure Resolution)
  | .finished a => [(id, a)]
  | .cutOff => [(id, .error .canceled)]
  | .overflowed => []

/-- The clock comes from any reading to any later one. -/
theorem reaches_later {σ : State} {now : Instant} (hle : σ.now.nanos ≤ now.nanos)
    (hnow : now.Valid) : Reaches s σ { σ with now } := by
  refine .single (.tick σ ⟨now.nanos - σ.now.nanos⟩ ?_)
  unfold Instant.add?
  simp only [Nat.add_sub_cancel' hle]
  exact if_pos hnow

/-- The first request in flight moves on, and then the rest happens. -/
theorem reaches_move {now : Instant} {cache cache' : Cache}
    {p p' : StorePlan (Except Failure Resolution)} {σ : State}
    (moved : Move Countable now cache p p' cache')
    (rest : Reaches s ⟨now, cache', ⟨id, p'⟩ :: others, answers⟩ σ) :
    Reaches s ⟨now, cache, ⟨id, p⟩ :: others, answers⟩ σ :=
  .head (.move [] moved) rest

/-- **Following one request by itself is a run of the whole**, while the others stand still. -/
theorem reaches_run (hw : ∀ t c, Countable c (w.respond t c).2.answer) (deadline : Option Instant)
    (p : StorePlan (Except Failure Resolution)) (scene : Scene τ)
    (hlast : (p.run w deadline scene).2.now.Valid) :
    Reaches s ⟨scene.now, scene.cache, ⟨id, p⟩ :: others, answers⟩
      ⟨(p.run w deadline scene).2.now, (p.run w deadline scene).2.cache, others,
        outcome id (p.run w deadline scene).1 ++ answers⟩ := by
  -- along the plan; where a call takes time, the clock ticks before the request moves
  induction p generalizing scene with
  | done a => exact .single (.answer [])
  | call c next ih =>
    rw [run_call] at hlast ⊢
    split at hlast
    · rename_i now h
      have hnow : now.Valid := hlast.mono
        (now_le_run w deadline _ { scene with world := (w.respond scene.world c).1, now })
      refine .trans (reaches_later (le_arrival h) hnow) ?_
      exact reaches_move (.call _ (hw scene.world c))
        (ih _ { scene with world := (w.respond scene.world c).1, now } hlast)
    · exact .tail (reaches_later (Nat.le_max_left _ _) hlast) (.cancel [])
  | clock next ih => exact reaches_move .clock (ih scene.now scene hlast)
  | lookup key next ih =>
    exact reaches_move .lookup
      (ih _ { scene with cache := (scene.cache.get scene.now key).2 } hlast)
  | store key value ttl next ih =>
    rw [run_store] at hlast ⊢
    split at hlast
    · rename_i cache h
      exact reaches_move (.store h) (ih { scene with cache } hlast)
    · rename_i h
      exact .single (.breakOff [] h)
  | evict key next ih =>
    exact reaches_move .evict (ih { scene with cache := scene.cache.delete key } hlast)
  | lap message next ih =>
    exact reaches_move .lap
      (ih { scene with watch := scene.watch.record scene.now message } hlast)
  | note event next ih =>
    exact reaches_move .note (ih { scene with events := scene.events ++ [event] } hlast)

end Alone

/-! ## 5. The entries of the cache -/

/-- **Whatever the interleaving, what is kept under a key is the text of a response of a request
    for it**, marked as kept, with the right counts and with its unmatched documents in order and on
    one side only. So no entry is taken for a corrupt one or is without a place for the time, and
    whatever is served from the cache is read back as a response for the record asked for. -/
theorem Reaches.entries {s : Settings} {now : Instant} {σ : State} (h : now.Valid)
    (hrun : Reaches s (.start now) σ) :
    (∀ key e, (key, e) ∈ σ.cache.entries →
      (∃ r : Response, e.value = r.write ∧ r.id = key ∧ r.extra.cached = true ∧
        (∀ b ∈ r.citing ++ r.cited, b.Accepted) ∧
        r.extra.citingCount = r.citing.length ∧ r.extra.citedCount = r.cited.length ∧
        r.extra.unmatchedCitingCount = r.unmatched.citing.length ∧
        r.extra.unmatchedCitedCount = r.unmatched.cited.length ∧
        Ascending r.unmatched.citing ∧ Ascending r.unmatched.cited ∧
        ∀ x ∈ r.unmatched.citing, x ∉ r.unmatched.cited) ∧
      Json.isDocument e.value = true ∧ ∀ d, ∃ patched, Took.patch? e.value d = some patched) ∧
    ∀ id body, (id, .ok (.cached body)) ∈ σ.answers →
      ∃ r, Response.ofText body = .ok r ∧ r.id = id ∧ r.extra.cached = true := by
  have hσ := Reaches.intact (start_intact h) hrun
  constructor
  · intro key e he
    have hkept : KeptText key e.value := hσ.cache _ he
    refine ⟨?_, hkept.isDocument, hkept.patch?⟩
    obtain ⟨r, hr, hwhole, hcached⟩ := hkept
    refine ⟨r, hr, hwhole.id, hcached, fun b hb => ?_, hwhole.citingCount, hwhole.citedCount,
      hwhole.unmatchedCitingCount, hwhole.unmatchedCitedCount, hwhole.citingAscending,
      hwhole.citedAscending, hwhole.disjoint⟩
    rcases List.mem_append.1 hb with hb | hb
    · exact hwhole.fit.citing b hb
    · exact hwhole.fit.cited b hb
  · intro id body hbody
    obtain ⟨r, y, hy, hwhole, hcached⟩ := (hσ.answers _ hbody).1 body rfl
    exact ⟨_, hy, hwhole.id, hcached⟩

/-- Such a run: a request keeps its answer while another one, which began later and was canceled,
    had found nothing yet. -/
theorem Reaches.entries_of_two :
    ∃ σ, Reaches ⟨.ofSecs 30, false, .zero, .ofSecs 60⟩ (.start ⟨0⟩) σ ∧
      σ.cache.entries.map Prod.fst = ["r"] ∧ σ.answers.length = 2 ∧
      ∀ key e, (key, e) ∈ σ.cache.entries → Json.isDocument e.value = true := by
  have edges : Countable (.edges "a") (.ok ⟨["b"], []⟩) := fun e he => by cases he; decide
  have mappings : Countable (.idsForDois ["b"]) (.ok []) := fun M hM => by cases hM; decide
  have run : Reaches ⟨.ofSecs 30, false, .zero, .ofSecs 60⟩ (.start ⟨0⟩) _ :=
    .head (.begin _ "r") <|
    .head (.move [] .clock) <|
    .head (.move [] .lookup) <|
    .head (.move [] (.call (.ok "a") trivial)) <|
    .head (.begin _ "r") <|
    .head (.move [] .clock) <|
    .head (.tick _ (.ofMillis 1) rfl) <|
    .head (.move [_] .lap) <|
    .head (.move [_] (.call (.ok ⟨["b"], []⟩) edges)) <|
    .head (.move [_] .lap) <|
    .head (.move [_] (.call (.ok []) mappings)) <|
    .head (.cancel []) <|
    .head (.move [] .lap) <|
    .head (.move [] .lap) <|
    .head (.move [] .lap) <|
    .head (.move [] .clock) <|
    .head (.move [] (.store rfl)) <|
    .head (.move [] .lap) <|
    .single (.answer [])
  refine ⟨_, run, rfl, rfl, fun key e he => ?_⟩
  exact ((Reaches.entries (by decide) run).1 key e he).2.1

end Interleaving

end CitationFusion
