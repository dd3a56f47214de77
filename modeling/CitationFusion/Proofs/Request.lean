import CitationFusion.Proofs.Deeds
import CitationFusion.Proofs.Play
import CitationFusion.Resolve

/-!
# A request, step by step

* `Unserved` : the record is looked for in the cache in vain, or not at all.
* `Session.followed`, `Session.deeds` : how a request for a record goes, and its steps.
* `Session.Resumes` : where it stands once the record was looked for in vain.
* `Session.followed_cases` : it serves the document that it finds, or it resolves the record afresh.
* `Session.resolve_events` : what a request logs is what its steps note and the checkpoints that
  they reach.
-/

namespace CitationFusion

open Plan Plan.Deed

/-- A step of a plan of calls on the stores. -/
abbrev StoreDeed : Type := Deed (StoreCall IndexCall) (StoreCall.Answer IndexCall.Answer)

/-- A record is looked for in a cache, and no document is found there: the steps, and what they
    leave of the cache. -/
inductive Unserved (u : Bool) (c : Cache) (t : Instant) (id : String) :
    List StoreDeed → Cache → Prop where
  | plain (uncached : u = false) : Unserved u c t id [] c
  | missing (caching : u = true) (missing : (c.get t id).1 = none) :
      Unserved u c t id [.looked t id] (c.get t id).2
  | corrupt (caching : u = true) {body : Bytes} (found : (c.get t id).1 = some body)
      (corrupt : Json.isDocument body = false) :
      Unserved u c t id [.looked t id, .evicted id, .noted (.evictedCorrupt id)]
        ((c.get t id).2.delete id)

namespace Unserved

variable {u : Bool} {c c' : Cache} {t : Instant} {id : String} {before : List StoreDeed}

/-- No calls are made to look for a record in the cache. -/
theorem calls (h : Unserved u c t id before c') (started : Instant) (ds : List StoreDeed) :
    Deed.calls (.read started :: (before ++ ds)) = Deed.calls ds := by
  cases h <;> rfl

/-- Nor are checkpoints reached. -/
theorem laps (h : Unserved u c t id before c') (started : Instant) (ds : List StoreDeed) :
    Deed.laps (.read started :: (before ++ ds)) = Deed.laps ds := by
  cases h <;> rfl

/-- Nor is anything written. -/
theorem unwritten {t' : Instant} {key : String} {e : Entry} (h : Unserved u c t id before c') :
    .kept t' key e ∉ before := by
  cases h <;> simp

/-- All that is left in the cache was there before. -/
theorem find? {key : String} {e : Entry} (h : Unserved u c t id before c')
    (he : c'.find? key = some e) : c.find? key = some e := by
  have get : ∀ {key e}, (c.get t id).2.find? key = some e → c.find? key = some e := by
    intro key e he
    rw [Cache.find?_get] at he
    split at he
    · exact (Option.filter_eq_some_iff.1 he).1
    · exact he
  cases h with
  | plain => exact he
  | missing => exact get he
  | corrupt =>
    rw [Cache.find?_delete] at he
    split at he
    · cases he
    · exact get he

/-- A document that is found is served. -/
theorem not_document {body : Bytes} (h : Unserved u c t id before c') (caching : u = true)
    (found : (c.get t id).1 = some body) : ¬ Json.isDocument body = true := by
  intro document
  cases h with
  | plain uncached => cases caching.symm.trans uncached
  | missing _ missing => cases found.symm.trans missing
  | corrupt _ found' corrupt =>
    cases found.symm.trans found'
    cases document.symm.trans corrupt

end Unserved

namespace Session

variable {σ : Type} (w : World (StoreCall IndexCall) (StoreCall.Answer IndexCall.Answer) σ)
  (deadline : Option Instant) (drift : Nat → Duration) (S : Session σ) (id : String)

/-- How a request for a record goes, with some deadline. -/
def followed : Ending (Except Failure Resolution) × Scene σ :=
  (CitationFusion.resolve S.service.settings S.service.useCache id).drifting w deadline drift 0
    S.scene

/-- What becomes of a request that goes in some way. -/
def conclude (S : Session σ) (id : String) (out : Ending (Except Failure Resolution) × Scene σ) :
    Verdict Resolution × Session σ × List Event :=
  (verdict out.1, S.afterwards out.2, out.2.events ++
    match out.1 with
    | .overflowed => []
    | _ => out.2.watch.events id)

theorem resolve_eq : S.resolve (.drifting w drift) id =
    S.conclude id (S.followed w (some S.deadline) drift id) := rfl

/-- The steps of a request for a record. -/
def deeds (w : World (StoreCall IndexCall) (StoreCall.Answer IndexCall.Answer) σ)
    (drift : Nat → Duration) (S : Session σ) (id : String) : List StoreDeed :=
  (CitationFusion.resolve S.service.settings S.service.useCache id).deeds w (some S.deadline) drift
    0 S.scene

/-- Where a request stands that has looked for the record in vain, by some steps. -/
structure Resumes (drift : Nat → Duration) (S : Session σ) (before : List StoreDeed)
    (scene : Scene σ) : Prop where
  world : scene.world = S.world
  watch : scene.watch = S.scene.watch
  events : scene.events = notes before
  /-- It takes no time to look for a record, but for what the steps take. -/
  now : (∀ i, drift i = .zero) → scene.now = S.now

/-- **A request reads the clock and looks for the record.** It serves the document that it finds, or
    it resolves the record afresh, with what is left of the cache. -/
theorem followed_cases :
    let started := S.now.advance (drift 0)
    let looked := started.advance (drift 1)
    let out := S.followed w (some S.deadline) drift id
    let anew := fresh S.service.settings S.service.useCache started id
    (∃ body t₁ t₂ message, S.service.useCache = true ∧ (S.cache.get looked id).1 = some body ∧
      Json.isDocument body = true ∧
      out.1 = .finished (.ok (.cached (Took.patch body (t₂.since started)))) ∧
      out.2.world = S.world ∧ out.2.cache = (S.cache.get looked id).2 ∧
      S.deeds w drift id = [.read started, .looked looked id, .reached t₁ message, .read t₂]) ∨
    ∃ before n scene, Unserved S.service.useCache S.cache looked id before scene.cache ∧
      S.Resumes drift before scene ∧
      out = anew.drifting w (some S.deadline) drift n scene ∧
      S.deeds w drift id =
        .read started :: (before ++ anew.deeds w (some S.deadline) drift n scene) := by
  intro started looked out anew
  simp only [out, anew, followed, deeds, CitationFusion.resolve]
  cases caching : S.service.useCache with
  | false =>
    have resumes : S.Resumes drift [] (S.scene.later (drift 0)) :=
      ⟨rfl, rfl, rfl, fun still => by rw [still 0]; rfl⟩
    refine .inr ⟨[], 1, S.scene.later (drift 0), .plain rfl, resumes, ?_⟩
    simp only [Bool.false_eq_true, if_false, Plan.drifting, Plan.deeds]
    exact ⟨rfl, rfl⟩
  | true =>
    simp only [if_true, Plan.drifting, Plan.deeds, Scene.later]
    have hget : S.scene.cache.get ((S.scene.now.advance (drift 0)).advance (drift (0 + 1))) id =
      S.cache.get looked id := rfl
    rw [hget]
    cases found : (S.cache.get looked id).1 with
    | none =>
      refine .inr ⟨_, _, _, .missing rfl found, ?_, rfl, rfl⟩
      exact ⟨rfl, rfl, rfl, fun still => by rw [still, still]; rfl⟩
    | some body =>
      cases document : Json.isDocument body with
      | true =>
        simp only [document, if_true, Plan.drifting, Plan.deeds]
        exact .inl ⟨body, _, _, _, trivial, rfl, document, rfl, rfl, rfl, rfl⟩
      | false =>
        simp only [document, Bool.false_eq_true, if_false, Plan.drifting, Plan.deeds]
        refine .inr ⟨_, _, _, .corrupt rfl found document, ?_, rfl, rfl⟩
        exact ⟨rfl, rfl, rfl, fun still => by simp only [Scene.later, still]; rfl⟩

/-! ## What is logged -/

/-- The checkpoints of some steps, as they are reported when the request ends. -/
def reported (S : Session σ) (id : String) (ds : List StoreDeed) : List Event :=
  Stopwatch.events ⟨S.service.settings.stopwatch, S.now, laps ds⟩ id

/-- **A request logs what its steps note, and at its end the checkpoints that they reach**, unless
    it is broken off. -/
theorem resolve_events (unbroken : (S.followed w (some S.deadline) drift id).1 ≠ .overflowed) :
    (S.resolve (.drifting w drift) id).2.2 =
      notes (S.deeds w drift id) ++ S.reported id (S.deeds w drift id) := by
  let out := S.followed w (some S.deadline) drift id
  have left : Leaves (S.deeds w drift id) S.scene out.2 := drifting_leaves w _ drift 0 _ _
  have hlog : (S.resolve (.drifting w drift) id).2.2 = out.2.events ++ out.2.watch.events id := by
    rw [resolve_eq]
    show out.2.events ++ _ = _
    cases hend : out.1 with
    | overflowed => exact absurd hend unbroken
    | finished | cutOff => rfl
  have hwatch : out.2.watch.events id = S.reported id (S.deeds w drift id) := by
    rw [left.watch, Stopwatch.recordAll_eq]
    cases h : S.service.settings.stopwatch with
    | true => simp [Session.scene, Stopwatch.start, reported, h]
    | false => simp [Session.scene, Stopwatch.start, reported, Stopwatch.events, h]
  rw [hlog, left.events, hwatch]
  rfl

end Session

/-- The messages of the checkpoints that are reported are those with which they were reached. -/
theorem Stopwatch.messages_events (v : Stopwatch) (id : String) :
    (v.events id).map Event.message = if v.enabled then v.laps.map Lap.message else [] := by
  have times : ∀ (started previous : Instant) (laps : List Lap) (step : Nat),
      (eventsFrom id step (timesFrom started previous laps)).map Event.message =
        laps.map Lap.message := by
    intro started previous laps
    induction laps generalizing previous with
    | nil => exact fun _ => rfl
    | cons lap laps ih => exact fun step => congrArg (lap.message :: ·) (ih lap.reached (step + 1))
  unfold events
  split
  · exact times _ _ _ _
  · rfl

end CitationFusion
