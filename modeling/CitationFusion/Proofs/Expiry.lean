import CitationFusion.Cache.Sweeper
import CitationFusion.Proofs.Clock
import CitationFusion.Proofs.Config
import CitationFusion.Proofs.Fresh
import CitationFusion.Proofs.Fusion

/-!
# Entries that the clock cannot let expire

Whether a request is broken off is settled by the configuration alone: it is when its answer came
later than the trigger and the lifetime of an entry, counted from then, ends where the clock cannot
read. No check of the configuration bounds that lifetime.

* `Instant.add?_ofSecs`, `Instant.fits_below_iff` : the spans that fit every reading below a bound.
* `Overdue`, `fresh_delivers` : what happens to an answer that came later than the trigger.
* `Session.IsOverdue`, `Session.resolve_overdue` : the same of a request.
* `accepted_expiry` : what becomes of requests and sweepers under a configuration.
-/

namespace CitationFusion

open Plan Plan.Deed

/-! ## 1. Spans of whole seconds -/

namespace Instant

/-- The whole seconds of a reading. -/
def secs (t : Instant) : Nat := t.nanos / nanosPerSecond

variable {t : Instant} {n bound : Nat}

theorem secs_advance : (t.advance (.ofSecs n)).secs = t.secs + n :=
  Nat.add_mul_div_right _ _ (by decide)

/-- **A number of seconds fits if the sum of the seconds does.** -/
theorem add?_ofSecs : t.add? (.ofSecs n) =
    if t.secs + n < limitSecs then some (t.advance (.ofSecs n)) else none := by
  have hsecs : (t.nanos + (Duration.ofSecs n).nanos) / nanosPerSecond = t.secs + n := secs_advance
  unfold add?
  simp only [hsecs]
  rfl

theorem add?_ofSecs_ne_none : t.add? (.ofSecs n) ≠ none ↔ t.secs + n < limitSecs := by
  rw [add?_ofSecs]
  split <;> simp_all

/-- **A number of seconds fits all readings below a bound** if it fits the last second before it. -/
theorem fits_below_iff (positive : 0 < bound) :
    (∀ t : Instant, t.secs < bound → t.add? (.ofSecs n) ≠ none) ↔ n + bound ≤ limitSecs := by
  constructor
  · intro h
    let last : Instant := ⟨(bound - 1) * nanosPerSecond⟩
    have hlast : last.secs = bound - 1 := Nat.mul_div_cancel _ (by decide)
    have hfits := add?_ofSecs_ne_none.1 (h last (by omega))
    omega
  · intro h t ht
    rw [add?_ofSecs_ne_none]
    omega

end Instant

/-- A sweeper lives if its interval is something, and the clock can express its first tick. -/
theorem Sweeper.finished_start {now : Instant} {n : Nat} (hn : n ≠ 0) :
    (Sweeper.start now (.ofSecs n)).finished = false ↔ now.add? (.ofSecs n) ≠ none := by
  have hspan : ((Duration.ofSecs n).nanos == 0) = false := by
    simp [Duration.ofSecs, hn, nanosPerSecond]
  simp only [Sweeper.start, Sweeper.finished, hspan, Bool.false_eq_true, if_false]
  cases now.add? (.ofSecs n) <;> simp

/-! ## 2. Answers that came late -/

/-- What happens to an answer of which the clock, read at `t`, tells that it came later than the
    trigger: how that ends, when, and the steps that follow. -/
inductive Overdue (s : Settings) (id : String) (t : Instant) :
    Ending (Except Failure Resolution) → Instant → List StoreDeed → Prop where
  | kept {r : Response} {t₁ t₂ last : Instant} {message : String} (later : t.nanos ≤ t₁.nanos)
      (ended : t₁.nanos ≤ last.nanos)
      (fits : t₁.add? s.cacheTtl = some (t₁.advance s.cacheTtl)) (marked : r.extra.cached = true) :
      Overdue s id t (.finished (.ok (.resolved r))) last
        [.kept t₁ id ⟨r.write, t₁.advance s.cacheTtl⟩, .reached t₂ message]
  | broken {last : Instant} (later : t.nanos ≤ last.nanos)
      (overflow : last.add? s.cacheTtl = none) : Overdue s id t .overflowed last []

/-- Whether the steps of resolving a record afresh deal so with an answer that came late, and break
    off nothing else. -/
structure Delivers (s : Settings) (u : Bool) (started : Instant) (id : String)
    (ending : Ending (Except Failure Resolution)) (last : Instant) (ds : List StoreDeed) :
    Prop where
  overdue : ∀ before t later, ds = before ++ .read t :: later → Slow s u started t →
    Overdue s id t ending last later
  broken : ending = .overflowed →
    ∃ before t later, ds = before ++ .read t :: later ∧ Slow s u started t

section Fresh

variable {σ : Type} {w : World (StoreCall IndexCall) (StoreCall.Answer IndexCall.Answer) σ}
  {deadline : Option Instant} {drift : Nat → Duration} {s : Settings} {u : Bool}
  {started last : Instant} {id : String} {ending : Ending (Except Failure Resolution)}
  {d : StoreDeed} {ds : List StoreDeed}

theorem delivers_nil (h : ending ≠ .overflowed) : Delivers s u started id ending last [] where
  overdue before t later hds := absurd hds.symm (by simp)
  broken hend := absurd hend h

/-- An idle step before all others changes nothing. -/
theorem Delivers.cons (hd : d.Idle) (h : Delivers s u started id ending last ds) :
    Delivers s u started id ending last (d :: ds) where
  overdue before t later hds slow := by
    cases before with
    | nil =>
      cases hds
      exact hd.elim
    | cons d' before =>
      cases hds
      exact h.overdue before t later rfl slow
  broken hend := by
    obtain ⟨before, t, later, rfl, slow⟩ := h.broken hend
    exact ⟨d :: before, t, later, rfl, slow⟩

/-- The clock is read once. -/
theorem delivers_read {t : Instant} (unread : ∀ t', .read t' ∉ ds)
    (overdue : Slow s u started t → Overdue s id t ending last ds)
    (broken : ending = .overflowed → Slow s u started t) :
    Delivers s u started id ending last (.read t :: ds) where
  overdue before t' later hds slow := by
    cases before with
    | nil =>
      cases hds
      exact overdue slow
    | cons d' before =>
      cases hds
      exact absurd (List.mem_append_right before List.mem_cons_self) (unread t')
  broken hend := ⟨[], t, ds, rfl, broken hend⟩

theorem deliver_delivers {r : Response} (hid : r.id = id) (n : Nat) (scene : Scene σ) :
    Delivers s u started id ((deliver s u started r).drifting w deadline drift n scene).1
      ((deliver s u started r).drifting w deadline drift n scene).2.now
      ((deliver s u started r).deeds w deadline drift n scene) := by
  subst hid
  refine deliver_induct (P := fun out ds => Delivers s u started r.id out.1 out.2.now ds)
    (fun t last quick => ?_) (fun t t₁ expires last slow later fits ended _ => ?_)
    (fun t last slow later overflow => ?_)
  · exact delivers_read (fun _ => List.not_mem_nil) (fun slow => absurd slow quick) nofun
  · obtain rfl := Instant.eq_advance_of_add? fits
    have hlast : t₁.nanos ≤ last.now.nanos := by
      rw [ended]
      exact Nat.le_add_right _ _
    exact delivers_read (by simp) (fun _ => .kept later hlast fits rfl) nofun
  · exact delivers_read (fun _ => List.not_mem_nil) (fun _ => .broken later overflow) fun _ => slow

/-- **Of a record that is resolved afresh, an answer that came late is kept, or broken off** where
    the clock cannot express when it expires. Nothing else is broken off. -/
theorem fresh_delivers (n : Nat) (scene : Scene σ) :
    Delivers s u started id ((fresh s u started id).drifting w deadline drift n scene).1
      ((fresh s u started id).drifting w deadline drift n scene).2.now
      ((fresh s u started id).deeds w deadline drift n scene) := by
  have accrues : Accrues fun (out : Ending (Except Failure Resolution) × Scene σ) ds =>
      Delivers s u started id out.1 out.2.now ds :=
    { abandoned := fun c scene => .cons trivial (delivers_nil nofun)
      called := fun c x out ds h => h.cons trivial
      reached := fun t message out ds h => h.cons trivial
      violated := fun message scene => .cons trivial (delivers_nil nofun)
      failed := fun f scene => delivers_nil nofun }
  refine fresh_accrues accrues (fun doi scene => delivers_nil nofun)
    (fun doi e M c _ n scene => ?_) n scene
  have hid : ((Neighbourhood.ofEdges id doi e).response M c).id = id := rfl
  exact deliver_delivers hid n scene

/-- An answer that came late is kept until it expires, or broken off. -/
theorem Overdue.outcome {t : Instant} {later : List StoreDeed}
    (h : Overdue s id t ending last later) : ∃ t', t'.nanos ≤ last.nanos ∧
      ((t'.add? s.cacheTtl ≠ none ∧ ∃ r, ending = .finished (.ok (.resolved r)) ∧
          r.extra.cached = true ∧ ∀ before c, (onCacheAll (before ++ .read t :: later) c).find? id =
            some ⟨r.write, t'.advance s.cacheTtl⟩) ∨
        (t'.add? s.cacheTtl = none ∧ t' = last ∧ ending = .overflowed)) := by
  cases h with
  | @kept r t₁ _ _ _ _ ended fits marked =>
    have hfits : t₁.add? s.cacheTtl ≠ none := by
      rw [fits]
      exact nofun
    refine ⟨t₁, ended, .inl ⟨hfits, r, rfl, marked, fun before c => ?_⟩⟩
    rw [onCacheAll, List.foldl_append]
    exact Cache.find?_put.trans (if_pos rfl)
  | broken _ overflow => exact ⟨last, Nat.le_refl _, .inr ⟨overflow, rfl, rfl⟩⟩

end Fresh

/-! ## 3. Requests -/

/-- The clock is not read to look for a record in the cache. -/
theorem Unserved.unread {u : Bool} {c c' : Cache} {t t' : Instant} {id : String}
    {before : List StoreDeed} (h : Unserved u c t id before c') : .read t' ∉ before := by
  cases h <;> simp

namespace Session

variable {σ : Type} {w : World (StoreCall IndexCall) (StoreCall.Answer IndexCall.Answer) σ}
  {drift : Nat → Duration} {S : Session σ} {id : String}

/-- Whether a request has an answer that came late: it is not served from the cache, and the clock
    is read behind its calls, more than the trigger later than when it began. -/
def IsOverdue (w : World (StoreCall IndexCall) (StoreCall.Answer IndexCall.Answer) σ)
    (drift : Nat → Duration) (S : Session σ) (id : String) : Prop :=
  (∀ body, (S.resolve (.drifting w drift) id).1 ≠ .answered (.ok (.cached body))) ∧
  ∃ before t later,
    S.deeds w drift id = .read (S.now.advance (drift 0)) :: (before ++ .read t :: later) ∧
    S.service.settings.cacheTrigger.nanos < (t.since (S.now.advance (drift 0))).nanos

/-- **An answer that came late is kept, or broken off** where the clock cannot express when it
    expires. Nothing else is broken off. -/
theorem resolve_overdue (caching : S.service.useCache = true) :
    let ttl := S.service.settings.cacheTtl
    let out := S.resolve (.drifting w drift) id
    (S.IsOverdue w drift id → ∃ t, t.nanos ≤ out.2.1.now.nanos ∧
      ((t.add? ttl ≠ none ∧ ∃ r, out.1 = .answered (.ok (.resolved r)) ∧
          r.extra.cached = true ∧ out.2.1.cache.find? id = some ⟨r.write, t.advance ttl⟩) ∨
        (t.add? ttl = none ∧ t = out.2.1.now ∧ out.1 = .clockOverflow))) ∧
    (out.1 = .clockOverflow → S.IsOverdue w drift id) := by
  intro ttl out
  let p := S.followed w (some S.deadline) drift id
  show (S.IsOverdue w drift id → ∃ t : Instant, t.nanos ≤ p.2.now.nanos ∧
    ((_ ∧ ∃ r, verdict p.1 = _ ∧ _ ∧ p.2.cache.find? id = _) ∨
      (_ ∧ t = p.2.now ∧ verdict p.1 = _))) ∧
    (verdict p.1 = _ → _)
  rcases S.followed_cases w drift id with
    ⟨body, t₁, t₂, message, -, -, -, hend, -, -, -⟩ | ⟨before, n, scene, unserved, -, hout, hds⟩
  · have hcached : verdict p.1 = .answered (.ok (.cached _)) := congrArg verdict hend
    refine ⟨fun overdue => absurd hcached (overdue.1 _), fun hover => ?_⟩
    cases hcached.symm.trans hover
  · let anew := fresh S.service.settings S.service.useCache (S.now.advance (drift 0)) id
    have delivers : Delivers S.service.settings S.service.useCache (S.now.advance (drift 0)) id p.1
        p.2.now (anew.deeds w (some S.deadline) drift n scene) := by
      show Delivers _ _ _ _ (S.followed w (some S.deadline) drift id).1
        (S.followed w (some S.deadline) drift id).2.now _
      rw [hout]
      exact fresh_delivers n scene
    have hcache : p.2.cache =
        onCacheAll (anew.deeds w (some S.deadline) drift n scene) scene.cache := by
      show (S.followed w (some S.deadline) drift id).2.cache = _
      rw [hout]
      exact cache_drifting w (some S.deadline) drift n anew scene
    constructor
    · rintro ⟨-, front, t, later, hsplit, hslow⟩
      -- the clock is not read before the record is resolved afresh
      have hbehind : ∃ front', anew.deeds w (some S.deadline) drift n scene =
          front' ++ .read t :: later := by
        have hsame := (List.cons.inj (hds.symm.trans hsplit)).2
        rcases List.append_eq_append_iff.1 hsame with ⟨front', -, hfront⟩ | ⟨gap, hgap, hlater⟩
        · exact ⟨front', hfront⟩
        · cases gap with
          | nil => exact ⟨[], hlater.symm⟩
          | cons d gap =>
            cases hlater
            have unread : .read t ∉ before := unserved.unread
            exact absurd (by simp [hgap]) unread
      obtain ⟨front', hfront⟩ := hbehind
      obtain ⟨t', hle, hcases⟩ := (delivers.overdue front' t later hfront ⟨caching, hslow⟩).outcome
      refine ⟨t', hle, ?_⟩
      rcases hcases with ⟨fits, r, hend, marked, hfound⟩ | ⟨overflow, hlast, hend⟩
      · rw [hend, hcache, hfront]
        exact .inl ⟨fits, r, rfl, marked, hfound front' scene.cache⟩
      · rw [hend]
        exact .inr ⟨overflow, hlast, rfl⟩
    · intro hover
      obtain ⟨front, t, later, hfront, slow⟩ :=
        delivers.broken (verdict_eq_clockOverflow.1 hover)
      refine ⟨fun body hbody => ?_, before ++ front, t, later, ?_, slow.2⟩
      · cases hover.symm.trans hbody
      · rw [hds, List.append_assoc]
        exact congrArg (fun ds => _ :: (before ++ ds)) hfront

end Session

/-! ## 4. Configurations -/

/-- The seconds for which no machine was up. -/
def uptimeSecs : Nat := 2 ^ 40

/-- **Under a configuration with a cache that is accepted, exactly the lifetime and the interval of
    sweeps that it sets are at fault.** Lifetimes below `2 ^ 63 - 2 ^ 40` seconds fit whenever they
    are added to the clock of a machine, and intervals do; longer ones do not. An answer that came
    later than the trigger is kept if the lifetime fits at that time, and the request is broken off
    if it does not, and then only. -/
theorem accepted_expiry {σ : Type}
    {w : World (StoreCall IndexCall) (StoreCall.Answer IndexCall.Answer) σ}
    {drift : Nat → Duration} {c : Config} {S : Session σ} (accepted : c.validate = .ok ())
    (enabled : c.cache.enabled = true) (serves : S.service.settings = c.settings)
    (caching : S.service.useCache = c.cache.enabled) (id : String) :
    ((∀ now : Instant, now.secs < uptimeSecs → now.add? c.settings.cacheTtl ≠ none) ↔
      c.cache.ttlSecs + uptimeSecs ≤ Instant.limitSecs) ∧
    ((∀ now : Instant, now.secs < uptimeSecs →
        (Sweeper.start now c.cache.sweepInterval).finished = false) ↔
      c.cache.sweepIntervalSecs + uptimeSecs ≤ Instant.limitSecs) ∧
    let out := S.resolve (.drifting w drift) id
    (S.IsOverdue w drift id → ∃ t : Instant, t.nanos ≤ out.2.1.now.nanos ∧
      ((t.secs + c.cache.ttlSecs < Instant.limitSecs ∧
          ∃ r, out.1 = .answered (.ok (.resolved r)) ∧ r.extra.cached = true ∧
            out.2.1.cache.find? id = some ⟨r.write, t.advance c.settings.cacheTtl⟩) ∨
        (Instant.limitSecs ≤ t.secs + c.cache.ttlSecs ∧ t = out.2.1.now ∧
          out.1 = .clockOverflow))) ∧
    (out.1 = .clockOverflow → S.IsOverdue w drift id) := by
  have positive : 0 < uptimeSecs := by decide
  have interval : c.cache.sweepIntervalSecs ≠ 0 :=
    (Config.validate_eq_ok_iff.1 accepted).sweepInterval enabled
  refine ⟨Instant.fits_below_iff positive, ?_, ?_⟩
  · rw [← Instant.fits_below_iff positive]
    exact forall₂_congr fun now _ => Sweeper.finished_start interval
  · obtain ⟨late, broken⟩ := @Session.resolve_overdue σ w drift S id (caching.trans enabled)
    refine ⟨fun overdue => ?_, broken⟩
    obtain ⟨t, hle, hcases⟩ := late overdue
    have httl : S.service.settings.cacheTtl = .ofSecs c.cache.ttlSecs :=
      congrArg (·.cacheTtl) serves
    rw [httl] at hcases
    refine ⟨t, hle, ?_⟩
    rcases hcases with ⟨fits, hkept⟩ | ⟨overflow, hbroken⟩
    · exact .inl ⟨Instant.add?_ofSecs_ne_none.1 fits, hkept⟩
    · refine .inr ⟨Nat.le_of_not_lt fun hlt => ?_, hbroken⟩
      exact Instant.add?_ofSecs_ne_none.2 hlt overflow

/-- A configuration whose answers are all kept for some time, the cache being swept every so
    often. -/
def Config.keeping (ttlSecs sweepIntervalSecs : Nat) : Config :=
  { Config.sample "http://x" with cache := ⟨true, 0, ttlSecs, sweepIntervalSecs⟩ }

/-- A record that takes a moment is kept for a minute. -/
theorem accepted_expiry_minute :
    let c := Config.keeping 60 300
    let w := knowing (.ofNanos 1) ⟨["b"], []⟩ []
    let still : Nat → Duration := fun _ => .zero
    let S : Session Unit := .start ⟨c.settings, c.cache.enabled, ⟨true, true⟩⟩ ⟨0⟩ ()
    S.IsOverdue w still "r" ∧ ∃ r, ∃ t : Instant,
      (S.resolve (.drifting w still) "r").1 = .answered (.ok (.resolved r)) ∧
      (S.resolve (.drifting w still) "r").2.1.cache.find? "r" =
        some ⟨r.write, t.advance c.settings.cacheTtl⟩ := by
  intro c w still S
  let r : Response :=
    ⟨"r", "a", [], [], ⟨[⟨"b"⟩], []⟩, ⟨(Duration.ofNanos 1).seconds, 1, 0, 0, 0, true⟩⟩
  have hend : (S.followed w (some S.deadline) still "r").1 = .finished (.ok (.resolved r)) := by
    decide +kernel
  have hr : (S.resolve (.drifting w still) "r").1 = .answered (.ok (.resolved r)) := by
    rw [Session.resolve_eq, Session.conclude, hend, Session.verdict]
  have overdue : S.IsOverdue w still "r" := by
    refine ⟨fun body hbody => (nomatch hr.symm.trans hbody), [.looked ⟨0⟩ "r",
      .called (.doiForId "r") (.ok "a"), .reached ⟨1⟩ "found doi",
      .called (.edges "a") (.ok ⟨["b"], []⟩),
      .reached ⟨1⟩ "found 1 outbound and 0 inbound edges", .called (.idsForDois ["b"]) (.ok []),
      .reached ⟨1⟩ "mapped 0 dois back to ids", .reached ⟨1⟩ "recorded unmatched ids",
      .reached ⟨1⟩ "fetched 0 blobs"], ⟨1⟩, _, rfl, by decide⟩
  have accepted : c.validate = .ok () := by decide +kernel
  have serves : S.service.settings = c.settings := rfl
  have caching : S.service.useCache = c.cache.enabled := rfl
  obtain ⟨-, -, late, -⟩ := accepted_expiry (w := w) accepted rfl serves caching "r"
  obtain ⟨t, -, ⟨-, r', hr', -, hfound⟩ | ⟨-, -, hover⟩⟩ := late overdue
  · exact ⟨overdue, r', t, hr', hfound⟩
  · exact nomatch hr.symm.trans hover

/-- A configuration with the longest lifetime and the longest interval that can be set is accepted.
    The first record that takes longer than the trigger is broken off on a machine that has just
    begun, and the sweeper has ended before its first tick. -/
theorem expiry_overflows_longest :
    let c := Config.keeping 9223372036854775807 18446744073709551615
    let S : Session Unit := .start ⟨c.settings, c.cache.enabled, ⟨true, true⟩⟩ ⟨0⟩ ()
    let out := S.resolve (.drifting (knowing (.ofSecs 1) ⟨["b"], []⟩ []) fun _ => .zero) "r"
    c.validate = .ok () ∧ c.cache.enabled = true ∧ out.2.1.now.secs < uptimeSecs ∧
      out.1 = .clockOverflow ∧ (Sweeper.start ⟨0⟩ c.cache.sweepInterval).finished = true :=
  ⟨by decide +kernel, rfl, by decide +kernel, rfl, by decide +kernel⟩

end CitationFusion
