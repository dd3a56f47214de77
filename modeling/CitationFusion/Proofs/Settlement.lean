import CitationFusion.Proofs.Resolve
import CitationFusion.Service

/-!
# What a record resolves to

What the stores answer settles what a record resolves to: the clock has a say only in the time of
the response and in whether it is kept.

* `Resolution.timeless` : a resolution without what depends on the time.
* `fresh_alike` : a record is resolved by the same calls, whatever the clock reads, whether or not
  there is a cache.
* `fresh_drifting` : whoever resolves a record to the end answers its settlement.
* `Session.resolved_cases` : what a request of a service does.
-/

namespace CitationFusion

open Plan

/-! ## 1. Answers but for the time -/

/-- The response without what depends on the time that it took. -/
def Response.timeless (r : Response) : Response :=
  { r with extra := { r.extra with took := .zero, cached := false } }

theorem Response.timeless_withTook (r : Response) (x : Binary64) :
    (r.withTook x).timeless = r.timeless := rfl

/-- The resolution without what depends on the time that it took. -/
def Resolution.timeless : Resolution → Resolution
  | .cached body => .cached body
  | .resolved r => .resolved r.timeless
  | .noRelated id doi => .noRelated id doi

/-- Whether two answers differ in their times only. -/
def SameButTime (a b : Except Failure Resolution) : Prop :=
  a.map Resolution.timeless = b.map Resolution.timeless

/-- What a record resolves to where no time passes, and the state that the stores are left in. -/
def settlement {σ : Type} (w : World (StoreCall IndexCall) (StoreCall.Answer IndexCall.Answer) σ)
    (id : String) (s : σ) : Except Failure Resolution × σ :=
  (fresh .standard false ⟨0⟩ id).ideal w ⟨0⟩ s

variable {s s' : Settings} {u u' : Bool} {t t' : Instant}

theorem deliver_alike {r r' : Response} (h : r.timeless = r'.timeless) :
    Alike SameButTime (deliver s u t r) (deliver s' u' t' r') := by
  have same : ∀ (x x' : Binary64) (k k' : Bool), SameButTime
      (.ok (.resolved { r with extra := { r.extra with took := x, cached := k } }))
      (.ok (.resolved { r' with extra := { r'.extra with took := x', cached := k' } })) :=
    fun _ _ _ _ => congrArg (fun q => Except.ok (Resolution.resolved q)) h
  refine .clock fun now now' => ?_
  simp only
  split <;> split
  · exact .store _ _ _ (.lap _ (.store' _ _ _ (.lap' _ (.done (same _ _ _ _)))))
  · exact .store _ _ _ (.lap _ (.done (same _ _ _ _)))
  · exact .store' _ _ _ (.lap' _ (.done (same _ _ _ _)))
  · exact .done (same _ _ _ _)

theorem collect_alike (n : Neighbourhood)
    {next next' : Collected → StorePlan (Except Failure Resolution)}
    (h : ∀ c, Alike SameButTime (next c) (next' c)) (M : List Mapping) (c : Collected) :
    Alike SameButTime (collect n next M c) (collect n next' M c) := by
  induction M generalizing c with
  | nil => exact h c
  | cons m M ih =>
    unfold collect
    split
    · exact .note _ (.note' _ (.done rfl))
    · refine .call _ fun x => ?_
      split
      · exact ih c
      · exact .done rfl
      · split
        · exact .done rfl
        · exact ih _

theorem mapped_alike (n : Neighbourhood) (M : List Mapping) :
    Alike SameButTime (mapped s u t n M) (mapped s' u' t' n M) := by
  rw [mapped_eq, mapped_eq]
  refine .lap _ (.lap' _ (.lap _ (.lap' _ (collect_alike n (fun c => ?_) M _))))
  exact .lap _ (.lap' _ (deliver_alike rfl))

theorem join_alike (n : Neighbourhood) :
    Alike SameButTime (join s u t n) (join s' u' t' n) := by
  unfold join
  refine .lap _ (.lap' _ ?_)
  split
  · exact .done rfl
  · refine .call _ fun x => ?_
    split
    · exact .done rfl
    · exact mapped_alike n _

/-- **A record is resolved by the same calls, whatever the clock reads**, and to the same, up to
    the time that it takes. -/
theorem fresh_alike (id : String) :
    Alike SameButTime (fresh s u t id) (fresh s' u' t' id) := by
  refine .call _ fun x => ?_
  split
  · exact .done rfl
  · refine .lap _ (.lap' _ (.call _ fun y => ?_))
    split
    · exact .done rfl
    · exact join_alike _

/-- Without a cache, delivering a response answers it. -/
theorem deliver_ideal {σ : Type}
    (w : World (StoreCall IndexCall) (StoreCall.Answer IndexCall.Answer) σ) (now : Instant)
    (r : Response) (state : σ) :
    (deliver s false t r).ideal w now state =
      (.ok (.resolved (r.withTook (now.since t).seconds)), state) := rfl

/-- **Whoever resolves a record to the end answers its settlement**, however long that takes. -/
theorem fresh_drifting {σ : Type}
    {w : World (StoreCall IndexCall) (StoreCall.Answer IndexCall.Answer) σ}
    {deadline : Option Instant} {drift : Nat → Duration} {n : Nat} {id : String} {scene : Scene σ}
    {a : Except Failure Resolution}
    (h : ((fresh s u t id).drifting w deadline drift n scene).1 = .finished a) :
    SameButTime a (settlement w id scene.world).1 ∧
      (settlement w id scene.world).2 =
        ((fresh s u t id).drifting w deadline drift n scene).2.world :=
  (fresh_alike id).drifting_ideal (Prod.ext h rfl) ⟨0⟩

/-! ## 2. Requests of a service -/

namespace Session

variable {σ : Type} (w : World (StoreCall IndexCall) (StoreCall.Answer IndexCall.Answer) σ)
  (S : Session σ) (id : String)

/-- How a request for a record ends, and where. -/
def resolved : Ending (Except Failure Resolution) × Scene σ :=
  (CitationFusion.resolve S.service.settings S.service.useCache id).run w (some S.deadline) S.scene

theorem resolve_verdict : (S.resolve (.direct w) id).1 = verdict (S.resolved w id).1 := rfl

theorem resolve_afterwards :
    (S.resolve (.direct w) id).2.1 = S.afterwards (S.resolved w id).2 := rfl

section Verdict

variable {α : Type} {ending : Ending (Except Failure α)}

/-- A request is answered what its plan ends with, unless that is cut off. -/
theorem verdict_eq_answered (uncut : ending ≠ .cutOff) {a : Except Failure α} :
    verdict ending = .answered a ↔ ending = .finished a := by
  constructor
  · intro h
    cases ending with
    | finished b =>
      cases h
      rfl
    | cutOff => exact absurd rfl uncut
    | overflowed => cases h
  · rintro rfl
    rfl

/-- A request is answered a value exactly when its plan ends with it. -/
theorem verdict_eq_ok {a : α} :
    verdict ending = .answered (.ok a) ↔ ending = .finished (.ok a) := by
  by_cases hcut : ending = .cutOff
  · rw [hcut]
    constructor
    · intro h
      cases h
    · intro h
      cases h
  · exact verdict_eq_answered hcut

/-- It is broken off exactly when its plan is. -/
theorem verdict_eq_clockOverflow : verdict ending = .clockOverflow ↔ ending = .overflowed := by
  cases ending with
  | finished | cutOff => exact iff_of_false (fun h => by cases h) (fun h => by cases h)
  | overflowed => exact iff_of_true rfl rfl

end Verdict

/-- **A request serves a document that it finds in the cache**, or it resolves the record afresh,
    with what is left of the cache. -/
theorem resolved_cases :
    (∃ body, S.service.useCache = true ∧ (S.cache.get S.now id).1 = some body ∧
      Json.isDocument body = true ∧
      (S.resolved w id).1 = .finished (.ok (.cached (Took.patch body (S.now.since S.now)))) ∧
      (S.resolved w id).2.cache = (S.cache.get S.now id).2) ∨
    ((S.service.useCache = true → ∀ body, (S.cache.get S.now id).1 = some body →
        Json.isDocument body = false) ∧
      ∃ cache, (cache = S.cache ∨ cache = (S.cache.get S.now id).2 ∨
          cache = (S.cache.get S.now id).2.delete id) ∧
        Effect S.service.settings S.service.useCache (some S.deadline) S.now id cache
          (S.resolved w id).1 (S.resolved w id).2 ∧
        ∀ a, (S.resolved w id).1 = .finished a → SameButTime a (settlement w id S.world).1) := by
  rcases resolve_run w (some S.deadline) S.service.settings id S.scene S.service.useCache with
    ⟨body, hu, hbody, hdoc, hend, -, -, hcache⟩ | ⟨hmiss, scene', -, hworld, hfrom, hrun⟩
  · exact .inl ⟨body, hu, hbody, hdoc, hend, hcache⟩
  · refine .inr ⟨hmiss, scene'.cache, hfrom, ?_⟩
    rw [resolved, hrun]
    refine ⟨fresh_effect, fun a ha => ?_⟩
    rw [← Plan.drifting_zero w _ 0] at ha
    have hsame := (fresh_drifting ha).1
    rwa [hworld] at hsame

end Session

end CitationFusion
