import CitationFusion.Proofs.Plan

/-!
# What a plan does, step by step

* `Plan.deeds` : the steps that are made when a plan is followed, with what they saw and when.
* `Plan.Deed.made`, `calls`, `laps`, `notes` : the calls, without and with their answers, the
  checkpoints and the events of some steps.
* `Plan.Deed.Idle` : steps that have nothing to do with the cache and do not read the clock.
* `Plan.Leaves`, `Plan.drifting_leaves` : what following a plan leaves is what its steps leave, of
  the cache, the stopwatch and the log.
* `Plan.drifting_congr` : neither what was logged before nor how steps are counted has a say in it.
-/

namespace CitationFusion

namespace Stopwatch

/-- Keeps checkpoints, one after the other, unless the stopwatch is off. -/
def recordAll (v : Stopwatch) (laps : List Lap) : Stopwatch :=
  laps.foldl (fun v l => v.record l.reached l.message) v

theorem recordAll_append (v : Stopwatch) (laps laps' : List Lap) :
    v.recordAll (laps ++ laps') = (v.recordAll laps).recordAll laps' := List.foldl_append

/-- **Switched on, a stopwatch keeps all checkpoints behind those that it has.** -/
theorem recordAll_eq (v : Stopwatch) (laps : List Lap) :
    v.recordAll laps = if v.enabled then { v with laps := v.laps ++ laps } else v := by
  induction laps generalizing v with
  | nil => cases v; simp [recordAll]
  | cons l laps ih =>
    show (v.record l.reached l.message).recordAll laps = _
    rw [ih]
    unfold record
    cases h : v.enabled with
    | true => simp
    | false => simp [h]

end Stopwatch

namespace Plan

variable {C : Type} {A : C → Type} {α σ : Type}

/-- What is done at a step of a plan. -/
inductive Deed (C : Type) (A : C → Type) where
  /-- A call was made and answered. -/
  | called (c : C) (answer : A c)
  /-- A call was made, and the plan was cut off before its answer. -/
  | abandoned (c : C)
  | read (t : Instant)
  | looked (t : Instant) (key : String)
  | kept (t : Instant) (key : String) (e : Entry)
  | evicted (key : String)
  | reached (t : Instant) (message : String)
  | noted (event : Event)

/-- The steps that are made when a plan is followed, in order. -/
def deeds (w : World C A σ) (deadline : Option Instant) (drift : Nat → Duration) :
    Nat → Plan C A α → Scene σ → List (Deed C A)
  | _, done _, _ => []
  | n, call c next, s =>
    let s := s.later (drift n)
    let (world, delivery) := w.respond s.world c
    match arrival deadline s.now delivery.takes with
    | some now =>
      .called c delivery.answer ::
        (next delivery.answer).deeds w deadline drift (n + 1) { s with world, now }
    | none => [.abandoned c]
  | n, clock next, s =>
    let s := s.later (drift n)
    .read s.now :: (next s.now).deeds w deadline drift (n + 1) s
  | n, lookup key next, s =>
    let s := s.later (drift n)
    let (found, cache) := s.cache.get s.now key
    .looked s.now key :: (next found).deeds w deadline drift (n + 1) { s with cache }
  | n, store key value ttl next, s =>
    let s := s.later (drift n)
    match s.now.add? ttl with
    | some expires =>
      .kept s.now key ⟨value, expires⟩ ::
        next.deeds w deadline drift (n + 1) { s with cache := s.cache.put key ⟨value, expires⟩ }
    | none => []
  | n, evict key next, s =>
    let s := s.later (drift n)
    .evicted key :: next.deeds w deadline drift (n + 1) { s with cache := s.cache.delete key }
  | n, lap message next, s =>
    let s := s.later (drift n)
    .reached s.now message ::
      next.deeds w deadline drift (n + 1) { s with watch := s.watch.record s.now message }
  | n, note event next, s =>
    let s := s.later (drift n)
    .noted event :: next.deeds w deadline drift (n + 1) { s with events := s.events ++ [event] }

namespace Deed

/-- The cache after a step. -/
def onCache : Deed C A → Cache → Cache
  | looked t key, c => (c.get t key).2
  | kept _ key e, c => c.put key e
  | evicted key, c => c.delete key
  | called _ _, c | abandoned _, c | read _, c | reached _ _, c | noted _, c => c

/-- The cache after some steps. -/
def onCacheAll (ds : List (Deed C A)) (c : Cache) : Cache := ds.foldl (fun c d => d.onCache c) c

/-- The call of a step. -/
def call? : Deed C A → Option C
  | called c _ | abandoned c => some c
  | read _ | looked _ _ | kept _ _ _ | evicted _ | reached _ _ | noted _ => none

/-- The calls of some steps. -/
def made (ds : List (Deed C A)) : List C := ds.filterMap call?

theorem made_append (ds ds' : List (Deed C A)) : made (ds ++ ds') = made ds ++ made ds' :=
  List.filterMap_append

/-- The checkpoint of a step. -/
def lap? : Deed C A → Option Lap
  | reached t message => some ⟨t, message⟩
  | called _ _ | abandoned _ | read _ | looked _ _ | kept _ _ _ | evicted _ | noted _ => none

/-- The checkpoints of some steps. -/
def laps (ds : List (Deed C A)) : List Lap := ds.filterMap lap?

/-- The event of a step. -/
def event? : Deed C A → Option Event
  | noted event => some event
  | called _ _ | abandoned _ | read _ | looked _ _ | kept _ _ _ | evicted _ | reached _ _ => none

/-- The events of some steps. -/
def notes (ds : List (Deed C A)) : List Event := ds.filterMap event?

/-- Whether a step has nothing to do with the cache and does not read the clock. -/
def Idle : Deed C A → Prop
  | called _ _ | abandoned _ | reached _ _ | noted _ => True
  | read _ | looked _ _ | kept _ _ _ | evicted _ => False

variable {ds : List (Deed C A)} {c : Cache}

/-- The calls of some steps, with their answers. -/
def calls (ds : List (Deed C A)) : List (Deed C A) := ds.filter fun d => d.call?.isSome

theorem made_calls (ds : List (Deed C A)) : made (calls ds) = made ds := by
  induction ds with
  | nil => rfl
  | cons d ds ih =>
    unfold made calls at ih ⊢
    cases h : d.call? with
    | none =>
      rw [List.filter_cons_of_neg (by simp [h]), List.filterMap_cons_none h]
      exact ih
    | some c =>
      rw [List.filter_cons_of_pos (by simp [h]), List.filterMap_cons_some h,
        List.filterMap_cons_some h, ih]

theorem onCacheAll_idle (h : ∀ d ∈ ds, d.Idle) : onCacheAll ds c = c := by
  induction ds with
  | nil => rfl
  | cons d ds ih =>
    obtain ⟨hd, hds⟩ := List.forall_mem_cons.1 h
    have hsame : d.onCache c = c := by
      cases d with
      | called | abandoned | reached | noted => rfl
      | read | looked | kept | evicted => cases hd
    show onCacheAll ds (d.onCache c) = c
    rw [hsame]
    exact ih hds

end Deed

/-- What some steps of a request leave: its cache, its stopwatch and its log. -/
structure Leaves (ds : List (Deed C A)) (s s' : Scene σ) : Prop where
  cache : s'.cache = Deed.onCacheAll ds s.cache
  watch : s'.watch = s.watch.recordAll (Deed.laps ds)
  events : s'.events = s.events ++ Deed.notes ds

namespace Leaves

variable {d : Deed C A} {ds : List (Deed C A)} {s s₁ s' : Scene σ}

theorem refl (s : Scene σ) : Leaves ([] : List (Deed C A)) s s :=
  ⟨rfl, rfl, (List.append_nil _).symm⟩

theorem cons (h : Leaves [d] s s₁) (rest : Leaves ds s₁ s') : Leaves (d :: ds) s s' where
  cache := by
    rw [rest.cache, h.cache]
    rfl
  watch := by
    rw [rest.watch, h.watch, ← Stopwatch.recordAll_append]
    exact congrArg _ List.filterMap_append.symm
  events := by
    rw [rest.events, h.events, List.append_assoc]
    exact congrArg _ List.filterMap_append.symm

end Leaves

/-- A request of which nothing was logged. -/
def Scene.silent (s : Scene σ) : Scene σ := { s with events := [] }

variable (w : World C A σ) (deadline : Option Instant) (drift : Nat → Duration)

theorem deeds_call (n : Nat) (c : C) (next : A c → Plan C A α) (s : Scene σ) :
    (call c next).deeds w deadline drift n s =
      match arrival deadline (s.later (drift n)).now (w.respond s.world c).2.takes with
      | some now =>
        .called c (w.respond s.world c).2.answer ::
          (next (w.respond s.world c).2.answer).deeds w deadline drift (n + 1)
            { s with world := (w.respond s.world c).1, now }
      | none => [.abandoned c] := rfl

theorem deeds_store (n : Nat) (key : String) (value : Bytes) (ttl : Duration) (next : Plan C A α)
    (s : Scene σ) :
    (store key value ttl next).deeds w deadline drift n s =
      match (s.later (drift n)).now.add? ttl with
      | some expires =>
        .kept (s.later (drift n)).now key ⟨value, expires⟩ ::
          next.deeds w deadline drift (n + 1)
            { s.later (drift n) with cache := s.cache.put key ⟨value, expires⟩ }
      | none => [] := rfl

/-- **What following a plan leaves is what its steps leave.** -/
theorem drifting_leaves (n : Nat) (p : Plan C A α) (s : Scene σ) :
    Leaves (p.deeds w deadline drift n s) s (p.drifting w deadline drift n s).2 := by
  induction p generalizing n s with
  | done a => exact .refl s
  | call c next ih =>
    rw [drifting_call, deeds_call]
    cases arrival deadline (s.later (drift n)).now (w.respond s.world c).2.takes with
    | none => exact ⟨rfl, rfl, (List.append_nil _).symm⟩
    | some now =>
      refine .cons ?_ (ih _ (n + 1) { s with world := (w.respond s.world c).1, now })
      exact ⟨rfl, rfl, (List.append_nil _).symm⟩
  | clock next ih =>
    refine .cons ?_ (ih _ (n + 1) (s.later (drift n)))
    exact ⟨rfl, rfl, (List.append_nil _).symm⟩
  | lookup key next ih =>
    refine .cons ?_ (ih _ (n + 1)
      { s.later (drift n) with cache := (s.cache.get (s.later (drift n)).now key).2 })
    exact ⟨rfl, rfl, (List.append_nil _).symm⟩
  | store key value ttl next ih =>
    rw [drifting_store, deeds_store]
    cases h : (s.later (drift n)).now.add? ttl with
    | none =>
      simp only [Cache.set?, h, Option.map_none]
      exact ⟨rfl, rfl, (List.append_nil _).symm⟩
    | some expires =>
      simp only [Cache.set?, h, Option.map_some]
      refine .cons ?_ (ih (n + 1)
        { s.later (drift n) with cache := s.cache.put key ⟨value, expires⟩ })
      exact ⟨rfl, rfl, (List.append_nil _).symm⟩
  | evict key next ih =>
    refine .cons ?_ (ih (n + 1) { s.later (drift n) with cache := s.cache.delete key })
    exact ⟨rfl, rfl, (List.append_nil _).symm⟩
  | lap message next ih =>
    refine .cons ?_ (ih (n + 1)
      { s.later (drift n) with watch := s.watch.record (s.later (drift n)).now message })
    exact ⟨rfl, rfl, (List.append_nil _).symm⟩
  | note event next ih =>
    refine .cons ?_ (ih (n + 1) { s.later (drift n) with events := s.events ++ [event] })
    exact ⟨rfl, rfl, rfl⟩

/-- **What following a plan makes of the cache is what its steps make of it.** -/
theorem cache_drifting (n : Nat) (p : Plan C A α) (s : Scene σ) :
    (p.drifting w deadline drift n s).2.cache =
      Deed.onCacheAll (p.deeds w deadline drift n s) s.cache :=
  (drifting_leaves w deadline drift n p s).cache

theorem drift_succ {drift drift' : Nat → Duration} {n n' : Nat}
    (h : ∀ i, drift (n + i) = drift' (n' + i)) (i : Nat) :
    drift (n + 1 + i) = drift' (n' + 1 + i) := by
  rw [Nat.add_right_comm, Nat.add_right_comm n']
  exact h (i + 1)

/-- **What was logged before has no say in how a plan is followed**, nor has how its steps are
    counted: only how long they take from where it begins. -/
theorem drifting_congr {drift drift' : Nat → Duration} {n n' : Nat}
    (h : ∀ i, drift (n + i) = drift' (n' + i)) (p : Plan C A α) (s : Scene σ)
    (events : List Event) :
    p.deeds w deadline drift n { s with events } = p.deeds w deadline drift' n' s ∧
    (p.drifting w deadline drift n { s with events }).1 =
      (p.drifting w deadline drift' n' s).1 ∧
    (p.drifting w deadline drift n { s with events }).2.silent =
      (p.drifting w deadline drift' n' s).2.silent := by
  -- for any events and any count of steps, as both change along the plan
  induction p generalizing n n' s events with
  | done a => exact ⟨rfl, rfl, rfl⟩
  | call c next ih =>
    have hn : drift n = drift' n' := h 0
    rw [drifting_call, deeds_call, drifting_call, deeds_call]
    simp only [Scene.later, hn]
    cases arrival deadline (s.now.advance (drift' n')) (w.respond s.world c).2.takes with
    | none => exact ⟨rfl, rfl, rfl⟩
    | some now =>
      obtain ⟨hdeeds, hout⟩ := ih (w.respond s.world c).2.answer (drift_succ h)
        { s with world := (w.respond s.world c).1, now } events
      exact ⟨congrArg (List.cons _) hdeeds, hout⟩
  | clock next ih =>
    have hn : drift n = drift' n' := h 0
    obtain ⟨hdeeds, hout⟩ :=
      ih (s.later (drift' n')).now (drift_succ h) (s.later (drift' n')) events
    simp only [deeds, drifting, Scene.later, hn]
    exact ⟨congrArg (List.cons _) hdeeds, hout⟩
  | lookup key next ih =>
    have hn : drift n = drift' n' := h 0
    obtain ⟨hdeeds, hout⟩ := ih (s.cache.get (s.later (drift' n')).now key).1 (drift_succ h)
      { s.later (drift' n') with cache := (s.cache.get (s.later (drift' n')).now key).2 } events
    simp only [deeds, drifting, Scene.later, hn]
    exact ⟨congrArg (List.cons _) hdeeds, hout⟩
  | store key value ttl next ih =>
    have hn : drift n = drift' n' := h 0
    rw [drifting_store, deeds_store, drifting_store, deeds_store]
    simp only [Scene.later, Cache.set?, hn]
    cases (s.now.advance (drift' n')).add? ttl with
    | none => exact ⟨rfl, rfl, rfl⟩
    | some expires =>
      obtain ⟨hdeeds, hout⟩ := ih (drift_succ h)
        { s.later (drift' n') with cache := s.cache.put key ⟨value, expires⟩ } events
      exact ⟨congrArg (List.cons _) hdeeds, hout⟩
  | evict key next ih =>
    have hn : drift n = drift' n' := h 0
    obtain ⟨hdeeds, hout⟩ := ih (drift_succ h)
      { s.later (drift' n') with cache := s.cache.delete key } events
    simp only [deeds, drifting, Scene.later, hn]
    exact ⟨congrArg (List.cons _) hdeeds, hout⟩
  | lap message next ih =>
    have hn : drift n = drift' n' := h 0
    obtain ⟨hdeeds, hout⟩ := ih (drift_succ h)
      { s.later (drift' n') with watch := s.watch.record (s.later (drift' n')).now message } events
    simp only [deeds, drifting, Scene.later, hn]
    exact ⟨congrArg (List.cons _) hdeeds, hout⟩
  | note event next ih =>
    have hn : drift n = drift' n' := h 0
    obtain ⟨hdeeds, hout⟩ := ih (drift_succ h)
      { s.later (drift' n') with events := s.events ++ [event] } (events ++ [event])
    simp only [deeds, drifting, Scene.later, hn]
    exact ⟨congrArg (List.cons _) hdeeds, hout⟩

end Plan

end CitationFusion
