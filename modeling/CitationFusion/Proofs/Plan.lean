import CitationFusion.Plan
import CitationFusion.Proofs.Cache

/-!
# Plans under any clock and any cache

* `Plan.drifting` : a plan whose steps take time; a run is one whose steps take none.
* `Plan.ideal` : a plan followed where no time passes and nothing is kept.
* `Plan.Alike` : plans that make the same calls, whatever the clock reads and whatever is kept.
  The answer of such a plan is that of the ideal run, up to what may depend on the time.
* `Plan.Contract`, `Plan.Meets` : what a plan may rely on at every step, and what it promises in
  return. `Meets.drifting` turns the promises into facts about following a plan.
-/

namespace CitationFusion.Plan

variable {C : Type} {A : C → Type} {α β γ σ : Type}

/-! ## 1. Runs step by step -/

section Run

variable (w : World C A σ) (deadline : Option Instant)

theorem run_call (c : C) (next : A c → Plan C A α) (s : Scene σ) :
    (call c next).run w deadline s =
      match arrival deadline s.now (w.respond s.world c).2.takes with
      | some now =>
        (next (w.respond s.world c).2.answer).run w deadline
          { s with world := (w.respond s.world c).1, now }
      | none =>
        (.cutOff, { s with world := (w.respond s.world c).1, now := cutOffAt deadline s.now }) :=
  rfl

theorem run_clock (next : Instant → Plan C A α) (s : Scene σ) :
    (clock next).run w deadline s = (next s.now).run w deadline s := rfl

theorem run_store (key : String) (value : Bytes) (ttl : Duration) (next : Plan C A α)
    (s : Scene σ) :
    (store key value ttl next).run w deadline s =
      match s.cache.set? s.now key value ttl with
      | some cache => next.run w deadline { s with cache }
      | none => (.overflowed, s) := rfl

theorem le_arrival {deadline : Option Instant} {now now' : Instant} {takes : Option Duration}
    (h : arrival deadline now takes = some now') : now.nanos ≤ now'.nanos := by
  unfold arrival at h
  cases takes with
  | none => cases h
  | some d =>
    simp only at h
    split at h
    · cases h
      exact Nat.le_refl _
    · split at h
      · cases h
        exact Nat.le_add_right _ _
      · split at h
        · cases h
          exact Nat.le_add_right _ _
        · cases h

theorem arrival_le {limit now now' : Instant} {takes : Option Duration}
    (hnow : now.nanos ≤ limit.nanos) (h : arrival (some limit) now takes = some now') :
    now'.nanos ≤ limit.nanos := by
  unfold arrival at h
  cases takes with
  | none => cases h
  | some d =>
    simp only at h
    split at h
    · cases h
      exact hnow
    · split at h
      · rename_i hle
        cases h
        exact hle
      · cases h

/-- **A plan that begins before its deadline ends by then.** -/
theorem now_run_le {limit : Instant} (p : Plan C A α) {s : Scene σ}
    (h : s.now.nanos ≤ limit.nanos) : (p.run w (some limit) s).2.now.nanos ≤ limit.nanos := by
  induction p generalizing s with
  | done a => exact h
  | call c next ih =>
    rw [run_call]
    split
    · rename_i now harrival
      exact ih _ (s := { s with world := (w.respond s.world c).1, now }) (arrival_le h harrival)
    · exact Nat.max_le.2 ⟨h, Nat.le_refl _⟩
  | clock next ih => exact ih s.now h
  | lookup key next ih => exact ih _ (s := { s with cache := (s.cache.get s.now key).2 }) h
  | store key value ttl next ih =>
    rw [run_store]
    split
    · rename_i cache _
      exact ih (s := { s with cache }) h
    · exact h
  | evict key next ih => exact ih (s := { s with cache := s.cache.delete key }) h
  | lap message next ih => exact ih (s := { s with watch := s.watch.record s.now message }) h
  | note event next ih => exact ih (s := { s with events := s.events ++ [event] }) h

end Run

/-! ## 2. Steps that take time -/

section Drifting

/-- A request some time later. -/
def Scene.later (s : Scene σ) (d : Duration) : Scene σ := { s with now := s.now.advance d }

/-- Follows a plan whose steps take time: before the step that is counted `n`, `drift n` passes. -/
def drifting (w : World C A σ) (deadline : Option Instant) (drift : Nat → Duration) :
    Nat → Plan C A α → Scene σ → Ending α × Scene σ
  | _, done a, s => (.finished a, s)
  | n, call c next, s =>
    let s := s.later (drift n)
    let (world, delivery) := w.respond s.world c
    match arrival deadline s.now delivery.takes with
    | some now => (next delivery.answer).drifting w deadline drift (n + 1) { s with world, now }
    | none => (.cutOff, { s with world, now := cutOffAt deadline s.now })
  | n, clock next, s =>
    let s := s.later (drift n)
    (next s.now).drifting w deadline drift (n + 1) s
  | n, lookup key next, s =>
    let s := s.later (drift n)
    let (found, cache) := s.cache.get s.now key
    (next found).drifting w deadline drift (n + 1) { s with cache }
  | n, store key value ttl next, s =>
    let s := s.later (drift n)
    match s.cache.set? s.now key value ttl with
    | some cache => next.drifting w deadline drift (n + 1) { s with cache }
    | none => (.overflowed, s)
  | n, evict key next, s =>
    let s := s.later (drift n)
    next.drifting w deadline drift (n + 1) { s with cache := s.cache.delete key }
  | n, lap message next, s =>
    let s := s.later (drift n)
    next.drifting w deadline drift (n + 1) { s with watch := s.watch.record s.now message }
  | n, note event next, s =>
    let s := s.later (drift n)
    next.drifting w deadline drift (n + 1) { s with events := s.events ++ [event] }

variable (w : World C A σ) (deadline : Option Instant) (drift : Nat → Duration)

theorem drifting_call (n : Nat) (c : C) (next : A c → Plan C A α) (s : Scene σ) :
    (call c next).drifting w deadline drift n s =
      match arrival deadline (s.later (drift n)).now (w.respond s.world c).2.takes with
      | some now =>
        (next (w.respond s.world c).2.answer).drifting w deadline drift (n + 1)
          { s with world := (w.respond s.world c).1, now }
      | none =>
        (.cutOff, { s with
          world := (w.respond s.world c).1
          now := cutOffAt deadline (s.later (drift n)).now }) := rfl

theorem drifting_store (n : Nat) (key : String) (value : Bytes) (ttl : Duration)
    (next : Plan C A α) (s : Scene σ) :
    (store key value ttl next).drifting w deadline drift n s =
      match s.cache.set? (s.later (drift n)).now key value ttl with
      | some cache => next.drifting w deadline drift (n + 1) { s.later (drift n) with cache }
      | none => (.overflowed, s.later (drift n)) := rfl

/-- Where no step takes time, a plan is followed as ever. -/
theorem drifting_zero (n : Nat) (p : Plan C A α) (s : Scene σ) :
    p.drifting w deadline (fun _ => .zero) n s = p.run w deadline s := by
  have hlater : ∀ s : Scene σ, s.later .zero = s := fun _ => rfl
  induction p generalizing n s with
  | done a => rfl
  | call c next ih =>
    rw [run_call, drifting_call, hlater]
    split
    · exact ih _ _ _
    · rfl
  | clock next ih => exact ih _ _ _
  | lookup key next ih => exact ih _ _ _
  | store key value ttl next ih =>
    rw [run_store, drifting_store, hlater]
    split
    · exact ih _ _
    · rfl
  | evict key next ih => exact ih _ _
  | lap message next ih => exact ih _ _
  | note event next ih => exact ih _ _

theorem le_later (s : Scene σ) (d : Duration) : s.now.nanos ≤ (s.later d).now.nanos :=
  Nat.le_add_right _ _

/-- **The clock does not go back.** -/
theorem now_le_drifting (n : Nat) (p : Plan C A α) (s : Scene σ) :
    s.now.nanos ≤ (p.drifting w deadline drift n s).2.now.nanos := by
  induction p generalizing n s with
  | done a => exact Nat.le_refl _
  | call c next ih =>
    refine Nat.le_trans (le_later s (drift n)) ?_
    rw [drifting_call]
    split
    · rename_i now h
      exact Nat.le_trans (le_arrival h)
        (ih _ (n + 1) { s with world := (w.respond s.world c).1, now })
    · exact Nat.le_max_left _ _
  | clock next ih => exact Nat.le_trans (le_later s (drift n)) (ih _ (n + 1) (s.later (drift n)))
  | lookup key next ih =>
    have hnext := ih (s.cache.get (s.later (drift n)).now key).1 (n + 1)
      { s.later (drift n) with cache := (s.cache.get (s.later (drift n)).now key).2 }
    exact Nat.le_trans (le_later s (drift n)) hnext
  | store key value ttl next ih =>
    refine Nat.le_trans (le_later s (drift n)) ?_
    rw [drifting_store]
    split
    · rename_i cache _
      exact ih (n + 1) { s.later (drift n) with cache }
    · exact Nat.le_refl _
  | evict key next ih =>
    have hnext := ih (n + 1) { s.later (drift n) with cache := s.cache.delete key }
    exact Nat.le_trans (le_later s (drift n)) hnext
  | lap message next ih =>
    have hnext := ih (n + 1)
      { s.later (drift n) with watch := s.watch.record (s.later (drift n)).now message }
    exact Nat.le_trans (le_later s (drift n)) hnext
  | note event next ih =>
    have hnext := ih (n + 1) { s.later (drift n) with events := s.events ++ [event] }
    exact Nat.le_trans (le_later s (drift n)) hnext

/-- Nor does it in a run. -/
theorem now_le_run (p : Plan C A α) (s : Scene σ) :
    s.now.nanos ≤ (p.run w deadline s).2.now.nanos := by
  rw [← drifting_zero w deadline 0]
  exact now_le_drifting w deadline _ 0 p s

end Drifting

/-! ## 3. The ideal run -/

/-- Follows a plan where no time passes and nothing is kept: the clock always reads `now`, every
    call ends, and no text is found in the cache. -/
def ideal (w : World C A σ) (now : Instant) : Plan C A α → σ → α × σ
  | done a, s => (a, s)
  | call c next, s => (next (w.respond s c).2.answer).ideal w now (w.respond s c).1
  | clock next, s => (next now).ideal w now s
  | lookup _ next, s => (next none).ideal w now s
  | store _ _ _ next, s => next.ideal w now s
  | evict _ next, s => next.ideal w now s
  | lap _ next, s => next.ideal w now s
  | note _ next, s => next.ideal w now s

/-- Where answers depend on the calls alone, so does the ideal run. -/
theorem ideal_congr {τ : Type} {w : World C A σ} {v : World C A τ}
    (h : ∀ s t c, (w.respond s c).2.answer = (v.respond t c).2.answer) (now : Instant)
    (p : Plan C A α) (s : σ) (t : τ) : (p.ideal w now s).1 = (p.ideal v now t).1 := by
  induction p generalizing s t with
  | done a => rfl
  | call c next ih =>
    rw [ideal, ideal, h s t c]
    exact ih _ _ _
  | clock next ih => exact ih _ _ _
  | lookup key next ih => exact ih _ _ _
  | store key value ttl next ih => exact ih _ _
  | evict key next ih => exact ih _ _
  | lap message next ih => exact ih _ _
  | note event next ih => exact ih _ _

/-- Plans that make the same calls, whatever the clock reads to either and whatever either keeps,
    and that end with related answers. -/
inductive Alike (R : α → β → Prop) : Plan C A α → Plan C A β → Prop where
  | done {a : α} {b : β} (h : R a b) : Alike R (.done a) (.done b)
  | call (c : C) {p : A c → Plan C A α} {q : A c → Plan C A β} (h : ∀ x, Alike R (p x) (q x)) :
      Alike R (.call c p) (.call c q)
  | clock {p : Instant → Plan C A α} {q : Instant → Plan C A β}
      (h : ∀ t u, Alike R (p t) (q u)) : Alike R (.clock p) (.clock q)
  | store (key : String) (value : Bytes) (ttl : Duration) {p : Plan C A α} {q : Plan C A β}
      (h : Alike R p q) : Alike R (.store key value ttl p) q
  | lap (message : String) {p : Plan C A α} {q : Plan C A β} (h : Alike R p q) :
      Alike R (.lap message p) q
  | note (event : Event) {p : Plan C A α} {q : Plan C A β} (h : Alike R p q) :
      Alike R (.note event p) q
  | store' (key : String) (value : Bytes) (ttl : Duration) {p : Plan C A α} {q : Plan C A β}
      (h : Alike R p q) : Alike R p (.store key value ttl q)
  | lap' (message : String) {p : Plan C A α} {q : Plan C A β} (h : Alike R p q) :
      Alike R p (.lap message q)
  | note' (event : Event) {p : Plan C A α} {q : Plan C A β} (h : Alike R p q) :
      Alike R p (.note event q)

/-- **Whoever follows a plan to its end answers what the ideal run does**, and leaves the stores in
    the same state, however long the steps take. -/
theorem Alike.drifting_ideal {R : α → β → Prop} {p : Plan C A α} {q : Plan C A β}
    (h : Alike R p q) {w : World C A σ} {deadline : Option Instant} {drift : Nat → Duration}
    {n : Nat} {s s' : Scene σ} {a : α}
    (hrun : p.drifting w deadline drift n s = (.finished a, s')) (now : Instant) :
    R a (q.ideal w now s.world).1 ∧ (q.ideal w now s.world).2 = s'.world := by
  -- steps that are only in one of the plans change neither the answer nor the stores
  induction h generalizing n s with
  | done h =>
    cases hrun
    exact ⟨h, rfl⟩
  | call c _ ih =>
    rw [drifting_call] at hrun
    split at hrun
    · rename_i now' _
      exact ih _ (s := { s with world := (w.respond s.world c).1, now := now' }) hrun
    · cases hrun
  | clock _ ih => exact ih (s.later (drift n)).now now (s := s.later (drift n)) hrun
  | store key value ttl _ ih =>
    rw [drifting_store] at hrun
    split at hrun
    · rename_i cache _
      exact ih (s := { s.later (drift n) with cache }) hrun
    · cases hrun
  | lap message _ ih =>
    exact ih (s := { s.later (drift n) with
      watch := s.watch.record (s.later (drift n)).now message }) hrun
  | note event _ ih =>
    exact ih (s := { s.later (drift n) with events := s.events ++ [event] }) hrun
  | store' key value ttl _ ih => exact ih hrun
  | lap' message _ ih => exact ih hrun
  | note' event _ ih => exact ih hrun

/-! ## 4. Reliance and promises -/

/-- What a plan may rely on and what it promises: of the answers of calls, the readings of the
    clock and the texts that are found; of the texts that it keeps and of its own answer. -/
structure Contract (C : Type) (A : C → Type) (α : Type) where
  answers : (c : C) → A c → Prop
  reading : Instant → Prop
  found : String → Bytes → Prop
  keeps : String → Bytes → Duration → Prop
  /-- What is kept may be found later. -/
  sound : ∀ key value ttl, keeps key value ttl → found key value
  finishes : α → Prop

/-- Whether a plan keeps its promises, step by step, as long as it can rely on the rest. -/
def Meets (k : Contract C A α) : Plan C A α → Prop
  | done a => k.finishes a
  | call c next => ∀ x, k.answers c x → (next x).Meets k
  | clock next => ∀ t, k.reading t → (next t).Meets k
  | lookup key next => (next none).Meets k ∧ ∀ v, k.found key v → (next (some v)).Meets k
  | store key value ttl next => k.keeps key value ttl ∧ next.Meets k
  | evict _ next => next.Meets k
  | lap _ next => next.Meets k
  | note _ next => next.Meets k

/-- What a run leaves behind when its plan keeps its promises. -/
structure Kept (k : Contract C A α) (ending : Ending α) (s : Scene σ) : Prop where
  cache : s.cache.Holds k.found
  finished : ∀ a, ending = .finished a → k.finishes a
  /-- A run is broken off only when what it promised to keep would outlive the clock. -/
  overflowed : ending = .overflowed →
    ∃ key value ttl, k.keeps key value ttl ∧ s.now.add? ttl = none

/-- **Following a plan keeps its promises**, however long its steps take, if the stores and the
    clock are as the plan relies on and every text in the cache is one that may be found. -/
theorem Meets.drifting {k : Contract C A α} {p : Plan C A α} (h : p.Meets k) {w : World C A σ}
    (hw : ∀ s c, k.answers c (w.respond s c).2.answer) {deadline : Option Instant}
    {drift : Nat → Duration} {n : Nat} {s : Scene σ}
    (hclock : ∀ t : Instant, t.nanos ≤ (p.drifting w deadline drift n s).2.now.nanos → k.reading t)
    (hcache : s.cache.Holds k.found) :
    Kept k (p.drifting w deadline drift n s).1 (p.drifting w deadline drift n s).2 := by
  -- along the plan, with the cache that is left; no reading is behind the last one
  induction p generalizing n s with
  | done a =>
    exact ⟨hcache, fun b hb => by cases hb; exact h, nofun⟩
  | call c next ih =>
    rw [drifting_call] at hclock ⊢
    split at hclock
    · rename_i now _
      exact ih _ (h _ (hw _ _)) (s := { s with world := (w.respond s.world c).1, now })
        hclock hcache
    · exact ⟨hcache, nofun, nofun⟩
  | clock next ih =>
    have hnow : k.reading (s.later (drift n)).now :=
      hclock _ (now_le_drifting w deadline drift (n + 1) (next _) (s.later (drift n)))
    exact ih _ (h _ hnow) (s := s.later (drift n)) hclock hcache
  | lookup key next ih =>
    obtain ⟨hfound, hleft⟩ := hcache.get (s.later (drift n)).now key
    have hnext : (next (s.cache.get (s.later (drift n)).now key).1).Meets k := by
      cases hg : (s.cache.get (s.later (drift n)).now key).1 with
      | none => exact h.1
      | some v => exact h.2 v (hfound v hg)
    exact ih _ hnext
      (s := { s.later (drift n) with cache := (s.cache.get (s.later (drift n)).now key).2 })
      hclock hleft
  | store key value ttl next ih =>
    rw [drifting_store] at hclock ⊢
    split at hclock
    · rename_i cache hset
      exact ih h.2 (s := { s.later (drift n) with cache }) hclock
        (hcache.set? (k.sound _ _ _ h.1) hset)
    · rename_i hset
      exact ⟨hcache, nofun,
        fun _ => ⟨key, value, ttl, h.1, Cache.set?_eq_none hset⟩⟩
  | evict key next ih =>
    exact ih h (s := { s.later (drift n) with cache := s.cache.delete key }) hclock
      (hcache.delete key)
  | lap message next ih =>
    exact ih h
      (s := { s.later (drift n) with watch := s.watch.record (s.later (drift n)).now message })
      hclock hcache
  | note event next ih =>
    exact ih h (s := { s.later (drift n) with events := s.events ++ [event] }) hclock hcache

/-- **A run keeps the promises of its plan**, on the same conditions. -/
theorem Meets.run {k : Contract C A α} {p : Plan C A α} (h : p.Meets k) {w : World C A σ}
    (hw : ∀ s c, k.answers c (w.respond s c).2.answer) {deadline : Option Instant} {s : Scene σ}
    (hclock : ∀ t : Instant, t.nanos ≤ (p.run w deadline s).2.now.nanos → k.reading t)
    (hcache : s.cache.Holds k.found) :
    Kept k (p.run w deadline s).1 (p.run w deadline s).2 := by
  rw [← drifting_zero w deadline 0] at hclock ⊢
  exact h.drifting hw hclock hcache

end CitationFusion.Plan
