import CitationFusion.Proofs.Acceptance
import CitationFusion.Proofs.Eviction
import CitationFusion.Proofs.Keeping

/-!
# Deadlines

A request that is not answered by its deadline is canceled: it is left in the call that would end
too late, as if the rest of it had never been.

* `Plan.EndsBy` : a plan that is followed without a deadline ends in time.
* `Plan.CutShort`, `Plan.drifting_deadline` : a deadline changes nothing, or it cuts a plan off.
* `Meets.finished` : a plan that keeps its promises unless a call breaks its own.
* `Quits` : a store says itself that a request is canceled.
* `fresh_silent` : who is cut off has not found anything wrong.
* `Session.Canceled` : what becomes of a request that is cut off.
* `Session.resolve_deadline` : a request is cut off only past its deadline, and answers as if there
  were none where it ends by then without one.
-/

namespace CitationFusion

namespace Plan

open Deed

variable {C : Type} {A : C → Type} {α σ : Type}

/-! ## 1. Plans with and without a deadline -/

/-- Whether a plan ends, and by some time. -/
def EndsBy (limit : Instant) (out : Ending α × Scene σ) : Prop :=
  out.1 ≠ .cutOff ∧ out.2.now.nanos ≤ limit.nanos

/-- What becomes of a plan that is cut off at a deadline, by what became of it without one. -/
structure CutShort (limit : Instant) (out free : Ending α × Scene σ) (ds ds' : List (Deed C A)) :
    Prop where
  ending : out.1 = .cutOff
  late : limit.nanos ≤ out.2.now.nanos
  belated : ¬ EndsBy limit free
  /-- Both make the same steps up to a call, which is not waited for. -/
  steps : ∃ before c, ds = before ++ [.abandoned c] ∧
    (ds' = ds ∨ ∃ x after, ds' = before ++ .called c x :: after)

theorem CutShort.cons {limit : Instant} {out free : Ending α × Scene σ} {ds ds' : List (Deed C A)}
    (h : CutShort limit out free ds ds') (d : Deed C A) :
    CutShort limit out free (d :: ds) (d :: ds') where
  ending := h.ending
  late := h.late
  belated := h.belated
  steps := by
    obtain ⟨before, c, rfl, h | ⟨x, after, rfl⟩⟩ := h.steps
    · exact ⟨d :: before, c, rfl, .inl (congrArg _ h)⟩
    · exact ⟨d :: before, c, rfl, .inr ⟨x, after, rfl⟩⟩

/-- A call ends at the same time under a deadline, unless that would be later. -/
theorem arrival_cases (limit now : Instant) (takes : Option Duration) :
    (arrival none now takes = none ∧ arrival (some limit) now takes = none) ∨
    ∃ now', arrival none now takes = some now' ∧
      (arrival (some limit) now takes = some now' ∨
        (arrival (some limit) now takes = none ∧ limit.nanos < now'.nanos)) := by
  cases takes with
  | none => exact .inl ⟨rfl, rfl⟩
  | some d =>
    refine .inr ?_
    by_cases hzero : (d.nanos == 0) = true
    · exact ⟨now, by simp [arrival, hzero], .inl (by simp [arrival, hzero])⟩
    · refine ⟨now.advance d, by simp [arrival, hzero], ?_⟩
      by_cases hle : now.nanos + d.nanos ≤ limit.nanos
      · exact .inl (by simp [arrival, hzero, hle])
      · exact .inr ⟨by simp [arrival, hzero, hle], Nat.lt_of_not_le hle⟩

/-- **A deadline changes nothing about how a plan is followed, or it cuts the plan off** in a call
    that would have ended too late. -/
theorem drifting_deadline (w : World C A σ) (limit : Instant) (drift : Nat → Duration) (n : Nat)
    (p : Plan C A α) (s : Scene σ) :
    ((p.drifting w none drift n s).1 ≠ .cutOff ∧
      p.drifting w (some limit) drift n s = p.drifting w none drift n s ∧
      p.deeds w (some limit) drift n s = p.deeds w none drift n s) ∨
    CutShort limit (p.drifting w (some limit) drift n s) (p.drifting w none drift n s)
      (p.deeds w (some limit) drift n s) (p.deeds w none drift n s) := by
  -- what holds of the rest of a plan holds of it with one more step
  have step : ∀ {out free : Ending α × Scene σ} {ds ds' : List (Deed C A)} (d : Deed C A),
      ((free.1 ≠ .cutOff ∧ out = free ∧ ds = ds') ∨ CutShort limit out free ds ds') →
      (free.1 ≠ .cutOff ∧ out = free ∧ d :: ds = d :: ds') ∨
        CutShort limit out free (d :: ds) (d :: ds') := by
    rintro out free ds ds' d (⟨uncut, hout, hds⟩ | h)
    · exact .inl ⟨uncut, hout, congrArg _ hds⟩
    · exact .inr (h.cons d)
  induction p generalizing n s with
  | done a => exact .inl ⟨fun h => (by cases h), rfl, rfl⟩
  | call c next ih =>
    rw [drifting_call, drifting_call, deeds_call, deeds_call]
    rcases arrival_cases limit (s.later (drift n)).now (w.respond s.world c).2.takes with
      ⟨hfree, hlimit⟩ | ⟨now, hfree, hlimit | ⟨hlimit, hlate⟩⟩
    · rw [hfree, hlimit]
      exact .inr ⟨rfl, Nat.le_max_right _ _, fun h => h.1 rfl, [], c, rfl, .inl rfl⟩
    · rw [hfree, hlimit]
      exact step _ (ih _ (n + 1) { s with world := (w.respond s.world c).1, now })
    · rw [hfree, hlimit]
      refine .inr ⟨rfl, Nat.le_max_right _ _, fun h => ?_, [], c, rfl, .inr ⟨_, _, rfl⟩⟩
      have hnow := now_le_drifting w none drift (n + 1)
        (next (w.respond s.world c).2.answer) { s with world := (w.respond s.world c).1, now }
      exact absurd (Nat.le_trans hnow h.2) (Nat.not_le_of_lt hlate)
  | clock next ih => exact step _ (ih _ (n + 1) (s.later (drift n)))
  | lookup key next ih =>
    exact step _ (ih _ (n + 1)
      { s.later (drift n) with cache := (s.cache.get (s.later (drift n)).now key).2 })
  | store key value ttl next ih =>
    rw [drifting_store, drifting_store, deeds_store, deeds_store]
    cases hend : (s.later (drift n)).now.add? ttl with
    | none =>
      simp only [Cache.set?, hend, Option.map_none]
      exact .inl ⟨fun h => (by cases h), trivial, trivial⟩
    | some expires =>
      simp only [Cache.set?, hend, Option.map_some]
      exact step _ (ih (n + 1)
        { s.later (drift n) with cache := s.cache.put key ⟨value, expires⟩ })
  | evict key next ih =>
    exact step _ (ih (n + 1) { s.later (drift n) with cache := s.cache.delete key })
  | lap message next ih =>
    exact step _ (ih (n + 1)
      { s.later (drift n) with watch := s.watch.record (s.later (drift n)).now message })
  | note event next ih =>
    exact step _ (ih (n + 1) { s.later (drift n) with events := s.events ++ [event] })

/-! ## 2. What a plan answers, by what it hears -/

/-- **A plan that finishes promises its answer, by what it hears**: the calls that it makes are
    answered as it relies on, whatever it could hear elsewhere. -/
theorem Meets.finished {k : Contract C A α} {p : Plan C A α} (h : p.Meets k) {w : World C A σ}
    {deadline : Option Instant} {drift : Nat → Duration} {n : Nat} {s : Scene σ}
    (reading : ∀ t, k.reading t) (found : ∀ key v, k.found key v)
    (heard : ∀ c x, .called c x ∈ p.deeds w deadline drift n s → k.answers c x) {a : α}
    (hend : (p.drifting w deadline drift n s).1 = .finished a) : k.finishes a := by
  -- along the plan: `heard` covers just the calls that are made, not all that could be
  induction p generalizing n s with
  | done b =>
    cases hend
    exact h
  | call c next ih =>
    rw [drifting_call] at hend
    rw [deeds_call] at heard
    cases harrival : arrival deadline (s.later (drift n)).now (w.respond s.world c).2.takes with
    | none =>
      rw [harrival] at hend
      cases hend
    | some now =>
      rw [harrival] at hend heard
      have hnext := h _ (heard _ _ List.mem_cons_self)
      exact ih _ hnext (s := { s with world := (w.respond s.world c).1, now })
        (fun c x hmem => heard c x (List.mem_cons_of_mem _ hmem)) hend
  | clock next ih =>
    exact ih _ (h _ (reading _)) (s := s.later (drift n))
      (fun c x hmem => heard c x (List.mem_cons_of_mem _ hmem)) hend
  | lookup key next ih =>
    have hnext : (next (s.cache.get (s.later (drift n)).now key).1).Meets k := by
      cases (s.cache.get (s.later (drift n)).now key).1 with
      | none => exact h.1
      | some v => exact h.2 v (found key v)
    exact ih _ hnext
      (s := { s.later (drift n) with cache := (s.cache.get (s.later (drift n)).now key).2 })
      (fun c x hmem => heard c x (List.mem_cons_of_mem _ hmem)) hend
  | store key value ttl next ih =>
    rw [drifting_store] at hend
    rw [deeds_store] at heard
    cases hexpires : (s.later (drift n)).now.add? ttl with
    | none =>
      simp only [Cache.set?, hexpires, Option.map_none] at hend
      cases hend
    | some expires =>
      simp only [Cache.set?, hexpires, Option.map_some] at hend
      rw [hexpires] at heard
      exact ih h.2 (s := { s.later (drift n) with cache := s.cache.put key ⟨value, expires⟩ })
        (fun c x hmem => heard c x (List.mem_cons_of_mem _ hmem)) hend
  | evict key next ih =>
    exact ih h (s := { s.later (drift n) with cache := s.cache.delete key })
      (fun c x hmem => heard c x (List.mem_cons_of_mem _ hmem)) hend
  | lap message next ih =>
    exact ih h
      (s := { s.later (drift n) with watch := s.watch.record (s.later (drift n)).now message })
      (fun c x hmem => heard c x (List.mem_cons_of_mem _ hmem)) hend
  | note event next ih =>
    exact ih h (s := { s.later (drift n) with events := s.events ++ [event] })
      (fun c x hmem => heard c x (List.mem_cons_of_mem _ hmem)) hend

end Plan

open Plan Plan.Deed

/-! ## 3. Stores that cancel -/

/-- Whether a store answers a call with the failure that stands for a canceled request. It is passed
    on like any other failure. -/
def Quits : (c : StoreCall IndexCall) → StoreCall.Answer IndexCall.Answer c → Prop
  | .doiForId _, x | .idForDoi _, x | .idsForDois _, x | .edges _, x => x = Except.error .canceled
  | .pingIdentifiers, x | .pingCitations, x | .index .ping, x => x = Except.error .canceled
  | .countIdentifiers, x | .countCitations, x | .index .count, x => x = Except.error .canceled
  | .index (.fetch _), _ => False

/-- What may be promised where no store cancels: the answer is not that the request is canceled. -/
def uncanceled (α : Type) :
    Contract (StoreCall IndexCall) (StoreCall.Answer IndexCall.Answer) (Except Failure α) where
  answers c x := ¬ Quits c x
  reading _ := True
  found _ _ := True
  keeps _ _ _ := True
  sound _ _ _ h := h
  finishes a := a ≠ .error .canceled

section Uncanceled

variable {s : Settings} {u : Bool} {started : Instant}

theorem ne_canceled_of_ne {α β : Type} {f : Failure}
    (h : (Except.error f : Except Failure α) ≠ .error .canceled) :
    (Except.error f : Except Failure β) ≠ .error .canceled := by
  intro hf
  cases hf
  exact h rfl

theorem collect_uncanceled {n : Neighbourhood}
    {next : Collected → StorePlan (Except Failure Resolution)}
    (hnext : ∀ c, (next c).Meets (uncanceled Resolution)) (M : List Mapping) (c : Collected) :
    (collect n next M c).Meets (uncanceled Resolution) := by
  induction M generalizing c with
  | nil => exact hnext c
  | cons m M ih =>
    unfold collect
    split
    · exact fun h => by cases h
    · intro x _
      simp only
      split
      · exact ih c
      · exact fun h => by cases h
      · split
        · rename_i f hf
          obtain ⟨message, rfl⟩ := Blob.accept_error_indexData hf
          exact fun h => by cases h
        · exact ih _

/-- **A record that is resolved afresh is canceled by no one but the stores.** -/
theorem fresh_uncanceled (id : String) :
    (fresh s u started id).Meets (uncanceled Resolution) := by
  intro x hx
  simp only
  split
  · exact ne_canceled_of_ne hx
  · intro y hy
    simp only
    split
    · exact ne_canceled_of_ne hy
    · unfold join
      simp only [Meets]
      split
      · exact nofun
      · intro z hz
        simp only
        split
        · exact ne_canceled_of_ne hz
        · rw [mapped_eq]
          refine collect_uncanceled (fun c => ?_) _ _
          exact deliver_meets (fun _ _ => nofun) (fun _ _ _ _ => ⟨trivial, nofun⟩)

/-- Nor is a request. -/
theorem resolve_uncanceled (id : String) : (resolve s u id).Meets (uncanceled Resolution) :=
  resolve_meets (fun _ _ _ _ _ _ _ _ => nofun) (fun _ _ => fresh_uncanceled id)

theorem resolveDoi_uncanceled (doi : String) : (resolveDoi doi).Meets (uncanceled String) :=
  fun _ hx => hx

/-- **A plan that ends with being canceled heard so from a store.** -/
theorem quits_of_finished {α σ : Type} {p : StorePlan (Except Failure α)}
    (h : p.Meets (uncanceled α))
    {w : World (StoreCall IndexCall) (StoreCall.Answer IndexCall.Answer) σ}
    {deadline : Option Instant} {drift : Nat → Duration} {n : Nat} {scene : Scene σ}
    (hend : (p.drifting w deadline drift n scene).1 = .finished (.error .canceled)) :
    ∃ c x, .called c x ∈ p.deeds w deadline drift n scene ∧ Quits c x := by
  by_contra hno
  have heard : ∀ c x, .called c x ∈ p.deeds w deadline drift n scene → ¬ Quits c x :=
    fun c x hmem hquits => hno ⟨c, x, hmem, hquits⟩
  exact h.finished (fun _ => trivial) (fun _ _ => trivial) heard hend rfl

end Uncanceled

/-! ## 4. Records that are resolved until the deadline -/

/-- **A record whose resolution is cut off has nothing noted by it**: something is wrong only where
    it fails. -/
theorem fresh_silent {σ : Type}
    {w : World (StoreCall IndexCall) (StoreCall.Answer IndexCall.Answer) σ}
    {deadline : Option Instant} {drift : Nat → Duration} {s : Settings} {u : Bool}
    {started : Instant} {id : String} (n : Nat) (scene : Scene σ)
    (cut : ((fresh s u started id).drifting w deadline drift n scene).1 = .cutOff) :
    notes ((fresh s u started id).deeds w deadline drift n scene) = [] := by
  have accrues : Accrues fun (out : Ending (Except Failure Resolution) × Scene σ) ds =>
      out.1 = .cutOff → notes ds = [] :=
    { abandoned := fun c scene _ => rfl
      called := fun c x out ds h cut => h cut
      reached := fun t message out ds h cut => h cut
      violated := fun message scene => nofun
      failed := fun f scene => nofun }
  refine fresh_accrues accrues (fun doi scene => nofun) (fun doi e M c _ n scene => ?_) n scene cut
  -- delivering a response makes no calls
  exact deliver_induct (P := fun out ds => out.1 = .cutOff → notes ds = [])
    (fun t last quick => nofun) (fun t t₁ expires last slow later fits ended stored => nofun)
    (fun t last slow later overflow => nofun)

namespace Unserved

variable {u : Bool} {c c' : Cache} {t : Instant} {id : String} {e : Entry} {before : List StoreDeed}

/-- A record that has an entry is looked for in vain only if that is of no use. -/
theorem spent (h : Unserved true c t id before c') (found : c.find? id = some e) : e.Spent t := by
  cases alive : e.alive t with
  | false => exact .inl alive
  | true =>
    have hget := Cache.get_of_alive found alive
    exact .inr (Bool.not_eq_true _ ▸ h.not_document rfl (congrArg Prod.fst hget))

/-- Where the cache is not used, looking for an entry changes nothing either. -/
theorem of_absent (h : Unserved u c t id before c') (absent : u = true → c.find? id = none) :
    c' = c ∧ notes before = [] := by
  cases u with
  | true => exact h.of_none (absent rfl)
  | false =>
    cases h with
    | plain => exact ⟨rfl, rfl⟩
    | missing caching | corrupt caching => cases caching

end Unserved

/-! ## 5. Requests -/

/-- Requests have no deadline, and their steps take time. -/
def Executor.unhurried {σ : Type}
    (w : World (StoreCall IndexCall) (StoreCall.Answer IndexCall.Answer) σ)
    (drift : Nat → Duration) : Executor σ :=
  ⟨fun _ plan => plan.drifting w none drift 0⟩

namespace Session

variable {σ : Type} {w : World (StoreCall IndexCall) (StoreCall.Answer IndexCall.Answer) σ}
  {drift : Nat → Duration} {S : Session σ} {id : String}

/-- What becomes of a request that is cut off at its deadline, and makes the steps `ds` of those
    that it would make without one. It looks for the record when it has `looked`. -/
structure Canceled (S : Session σ) (id : String) (looked : Instant) (ds free : List StoreDeed)
    (out : Verdict Resolution × Session σ × List Event) : Prop where
  answer : out.1 = .answered (.error .canceled)
  late : S.deadline.nanos ≤ out.2.1.now.nanos
  /-- The last step is a call that is not waited for. -/
  steps : ∃ before c, ds = before ++ [.abandoned c] ∧
    (free = ds ∨ ∃ x after, free = before ++ .called c x :: after)
  unwritten : ∀ t key e, .kept t key e ∉ ds
  /-- Nothing is new in the cache. -/
  cache : ∀ key e, out.2.1.cache.find? key = some e → S.cache.find? key = some e
  /-- An entry of the record was of no use. It alone is gone, and that is logged before the
      checkpoints that were reached, if it was alive. -/
  spent : ∀ e, S.service.useCache = true → S.cache.find? id = some e →
    e.Spent looked ∧ out.2.1.cache = S.cache.delete id ∧
      out.2.2 = e.warnings looked id ++ S.reported id ds
  /-- If there was none, the cache is as it was, and the checkpoints are all that is logged. -/
  untouched : (S.service.useCache = true → S.cache.find? id = none) →
    out.2.1.cache = S.cache ∧ out.2.2 = S.reported id ds

/-- **A request that is cut off writes nothing.** It has looked for the record in vain, and that is
    all that it leaves of the cache and, beside its checkpoints, of the log. -/
theorem followed_cutOff (cut : (S.followed w (some S.deadline) drift id).1 = .cutOff) :
    ∃ before, Unserved S.service.useCache S.cache ((S.now.advance (drift 0)).advance (drift 1)) id
        before (S.followed w (some S.deadline) drift id).2.cache ∧
      (∀ t key e, .kept t key e ∉ S.deeds w drift id) ∧
      notes (S.deeds w drift id) = notes before := by
  -- what is served from the cache is not cut off, so the record was resolved afresh
  rcases S.followed_cases w drift id with
    ⟨body, t₁, t₂, message, -, -, -, hend, -⟩ | ⟨before, n, scene, unserved, -, hout, hds⟩
  · rw [hend] at cut
    cases cut
  · let anew := fresh S.service.settings S.service.useCache (S.now.advance (drift 0)) id
    rw [hout] at cut
    have idle : ∀ d ∈ anew.deeds w (some S.deadline) drift n scene, d.Idle := by
      have hafresh : Afresh S.service.settings S.service.useCache (S.now.advance (drift 0)) id
          (anew.drifting w (some S.deadline) drift n scene).1
          (anew.drifting w (some S.deadline) drift n scene).2.now
          (anew.deeds w (some S.deadline) drift n scene) := fresh_afresh n scene
      rw [cut] at hafresh
      cases hafresh with
      | undelivered idle => exact idle
    refine ⟨before, ?_, fun t key e hmem => ?_, ?_⟩
    · rw [hout, cache_drifting, onCacheAll_idle idle]
      exact unserved
    · rw [hds] at hmem
      rcases List.mem_cons.1 hmem with hread | hmem
      · cases hread
      · rcases List.mem_append.1 hmem with hmem | hmem
        · exact unserved.unwritten hmem
        · exact idle _ hmem
    · have hsilent : notes (anew.deeds w (some S.deadline) drift n scene) = [] :=
        fresh_silent n scene cut
      rw [hds, notes, List.filterMap_cons_none rfl, List.filterMap_append]
      show notes before ++ notes _ = _
      rw [hsilent, List.append_nil]

/-- **A request is cut off only past its deadline**, and then it is as if the rest of it had never
    been; it ends as if there were no deadline otherwise, and always where it ends in time without
    one. It is canceled in no other way, but a store may say that it is. All this holds of finding
    the local record of a DOI, too. -/
theorem resolve_deadline (w : World (StoreCall IndexCall) (StoreCall.Answer IndexCall.Answer) σ)
    (drift : Nat → Duration) (S : Session σ) (id doi : String) :
    let plan := CitationFusion.resolve S.service.settings S.service.useCache id
    let out := S.resolve (.drifting w drift) id
    let looked := (S.now.advance (drift 0)).advance (drift 1)
    let ds := S.deeds w drift id
    let redirect := S.resolveDoi (.drifting w drift) doi
    ((¬ EndsBy S.deadline (plan.drifting w none drift 0 S.scene) ∧
        S.Canceled id looked ds (plan.deeds w none drift 0 S.scene) out) ∨
      (out = S.resolve (.unhurried w drift) id ∧
        (out.1 = .answered (.error .canceled) → ∃ c x, .called c x ∈ ds ∧ Quits c x))) ∧
    ((¬ EndsBy S.deadline ((CitationFusion.resolveDoi doi).drifting w none drift 0 S.scene) ∧
        redirect.1 = .answered (.error .canceled) ∧
        S.deadline.nanos ≤ redirect.2.now.nanos) ∨
      (redirect = S.resolveDoi (.unhurried w drift) doi ∧
        (redirect.1 = .answered (.error .canceled) → ∃ c x,
          .called c x ∈ (CitationFusion.resolveDoi doi).deeds w (some S.deadline) drift 0 S.scene ∧
            Quits c x))) := by
  intro plan out looked ds redirect
  constructor
  · -- the deadline changes nothing, or it cuts the plan off
    rcases drifting_deadline w S.deadline drift 0 plan S.scene with ⟨uncut, hout, -⟩ | hcut
    · rw [← hout] at uncut
      refine .inr ⟨congrArg (S.conclude id) hout, fun hcanceled => ?_⟩
      exact quits_of_finished (resolve_uncanceled id) ((verdict_eq_answered uncut).1 hcanceled)
    · refine .inl ⟨hcut.belated, ?_⟩
      have unbroken : (S.followed w (some S.deadline) drift id).1 ≠ .overflowed := by
        rw [show (S.followed w (some S.deadline) drift id).1 = .cutOff from hcut.ending]
        exact nofun
      obtain ⟨before, unserved, unwritten, hnotes⟩ := followed_cutOff hcut.ending
      have hlog : out.2.2 = notes before ++ S.reported id ds := by
        rw [← hnotes]
        exact S.resolve_events w drift id unbroken
      exact {
        answer := congrArg verdict hcut.ending
        late := hcut.late
        steps := hcut.steps
        unwritten
        cache := fun key e => unserved.find?
        spent := fun e caching found => by
          rw [caching] at unserved
          obtain ⟨hcache, hwarnings⟩ := unserved.of_spent found
          rw [hlog, hwarnings]
          exact ⟨unserved.spent found, hcache, rfl⟩
        untouched := fun absent => by
          obtain ⟨hcache, hnone⟩ := unserved.of_absent absent
          rw [hlog, hnone]
          exact ⟨hcache, rfl⟩ }
  · rcases drifting_deadline w S.deadline drift 0 (CitationFusion.resolveDoi doi) S.scene with
      ⟨uncut, hout, -⟩ | hcut
    · rw [← hout] at uncut
      refine .inr ⟨congrArg (fun o => (verdict o.1, S.afterwards o.2)) hout, fun hcanceled => ?_⟩
      exact quits_of_finished (resolveDoi_uncanceled doi)
        ((verdict_eq_answered uncut).1 hcanceled)
    · exact .inl ⟨hcut.belated, congrArg verdict hcut.ending, hcut.late⟩

/-- Stores that say at once that a request is canceled. -/
def quitting : World (StoreCall IndexCall) (StoreCall.Answer IndexCall.Answer) Unit where
  respond _
    | .doiForId _ => ((), ⟨some .zero, .error .canceled⟩)
    | .idForDoi _ => ((), ⟨some .zero, .error .canceled⟩)
    | c => (knowing .zero ⟨[], []⟩ []).respond () c

/-- Where a store says so, a request is canceled at once, half a minute before its deadline. And a
    request that is cut off where nothing but an empty text was kept has that removed, and logs so,
    though no checkpoint was reached. -/
theorem canceled_beside_deadline :
    let still : Nat → Duration := fun _ => .zero
    let S : Session Unit :=
      .start ⟨⟨.ofSecs 30, true, .zero, .ofSecs 60⟩, true, ⟨true, true⟩⟩ ⟨0⟩ ()
    let T : Session Unit :=
      ⟨⟨⟨.ofMillis 500, true, .zero, .ofSecs 60⟩, true, ⟨true, true⟩⟩, ⟨0⟩, (),
        .put .empty "r" ⟨[], ⟨10⟩⟩⟩
    let early := S.resolve (.drifting quitting still) "r"
    let redirect := S.resolveDoi (.drifting quitting still) "a"
    let late := T.resolve (.drifting (knowing (.ofSecs 1) ⟨["b"], []⟩ []) still) "r"
    (early.1 = .answered (.error .canceled) ∧ early.2.1.now = ⟨0⟩ ∧
      redirect.1 = .answered (.error .canceled) ∧ redirect.2.now = ⟨0⟩ ∧
      S.deadline = ⟨30 * nanosPerSecond⟩) ∧
    late.1 = .answered (.error .canceled) ∧ late.2.2 = [.evictedCorrupt "r"] ∧
      T.cache.find? "r" = some ⟨[], ⟨10⟩⟩ ∧ late.2.1.cache.find? "r" = none := by
  intro still S T early redirect late
  refine ⟨⟨rfl, rfl, rfl, rfl, by decide +kernel⟩, ?_⟩
  let w := knowing (.ofSecs 1) ⟨["b"], []⟩ []
  let left : Scene Unit := ⟨⟨0⟩, (), .empty, T.scene.watch, [.evictedCorrupt "r"]⟩
  let out := (fresh T.service.settings true ⟨0⟩ "r").drifting w (some T.deadline) still 4 left
  -- the empty text is removed, and the record is resolved afresh
  have hget : T.cache.get ((T.now.advance (still 0)).advance (still (0 + 1))) "r" =
      (some [], T.cache) := rfl
  have anew : (CitationFusion.resolve T.service.settings true "r").drifting w (some T.deadline)
      still 0 T.scene = out := by
    simp only [CitationFusion.resolve, if_true, Plan.drifting, Scene.later, Session.scene, hget,
      Json.isDocument_nil, Bool.false_eq_true, if_false]
    rfl
  have hlate : late = T.conclude "r" out := congrArg (T.conclude "r") anew
  have hcut : out.1 = .cutOff := by decide +kernel
  have hlog : out.2.events ++ out.2.watch.events "r" = [.evictedCorrupt "r"] := by decide +kernel
  have hgone : out.2.cache.find? "r" = none := by decide +kernel
  clear_value out
  rw [hlate, conclude, hcut]
  exact ⟨rfl, hlog, rfl, hgone⟩

/-- A call that ends at the deadline is in time; one that ends later is not. -/
example :
    let S : Session Unit :=
      .start ⟨⟨.ofSecs 30, false, .zero, .ofSecs 60⟩, false, ⟨true, true⟩⟩ ⟨0⟩ ()
    let drift : Nat → Duration := fun _ => .zero
    (S.resolve (.drifting (knowing (.ofSecs 30) ⟨[], []⟩ []) drift) "r").1 =
        .answered (.ok (.noRelated "r" "a")) ∧
      (S.resolve (.drifting (knowing ⟨30000000001⟩ ⟨[], []⟩ []) drift) "r").1 =
        .answered (.error .canceled) := ⟨rfl, rfl⟩

end Session

end CitationFusion
