import CitationFusion.Proofs.Fusion
import CitationFusion.Proofs.Request

/-!
# The order of the edges does not matter

The citation store may list the documents around a record in any order and any number of times.

* `Plan.InStep` : plans that make the same calls and reach the same checkpoints where they are
  followed, whatever the clocks read.
* `Plan.InStep.drifting` : so they do, and end with related answers, unless one of them is cut off.
* `SameDocuments`, `AlikeButListing` : stores that differ in how they list the edges, and in times.
* `fresh_inStep` : a record is resolved in step on such stores.
* `Session.resolve_listing` : so two requests for it differ in the time of the response only.
-/

namespace CitationFusion

open Plan Plan.Deed

/-! ## 1. Plans in step -/

namespace Plan

variable {C : Type} {A : C → Type} {α β σ τ : Type}

/-- Plans that make the same calls, reach the same checkpoints and note the same events, the one on
    stores in a state `s` and the other on stores in a state `t`, whatever the clock reads to
    either, and that end with related answers. Neither of them looks at the cache. -/
inductive InStep (w : World C A σ) (v : World C A τ) (R : α → β → Prop) :
    Plan C A α → σ → Plan C A β → τ → Prop where
  | done {a : α} {b : β} {s : σ} {t : τ} (h : R a b) : InStep w v R (.done a) s (.done b) t
  | call (c : C) {p : A c → Plan C A α} {q : A c → Plan C A β} {s : σ} {t : τ}
      (h : InStep w v R (p (w.respond s c).2.answer) (w.respond s c).1
        (q (v.respond t c).2.answer) (v.respond t c).1) : InStep w v R (.call c p) s (.call c q) t
  | clock {p : Instant → Plan C A α} {q : Instant → Plan C A β} {s : σ} {t : τ}
      (h : ∀ now now', InStep w v R (p now) s (q now') t) : InStep w v R (.clock p) s (.clock q) t
  | lap (message : String) {p : Plan C A α} {q : Plan C A β} {s : σ} {t : τ}
      (h : InStep w v R p s q t) : InStep w v R (.lap message p) s (.lap message q) t
  | note (event : Event) {p : Plan C A α} {q : Plan C A β} {s : σ} {t : τ}
      (h : InStep w v R p s q t) : InStep w v R (.note event p) s (.note event q) t

/-- Two plans did the same, and ended with related answers. -/
structure Concur (R : α → β → Prop) (ending : Ending α) (ds : List (Deed C A)) (ending' : Ending β)
    (ds' : List (Deed C A)) : Prop where
  calls : made ds = made ds'
  messages : (laps ds).map Lap.message = (laps ds').map Lap.message
  notes : notes ds = notes ds'
  answers : ∃ a b, ending = .finished a ∧ ending' = .finished b ∧ R a b

/-- **Plans in step do the same**, however long the calls and the steps of either take, unless one
    of them is cut off. -/
theorem InStep.drifting {w : World C A σ} {v : World C A τ} {R : α → β → Prop} {p : Plan C A α}
    {q : Plan C A β} {s : σ} {t : τ} (h : InStep w v R p s q t)
    {deadline deadline' : Option Instant} {drift drift' : Nat → Duration} (n n' : Nat)
    (scene : Scene σ) (scene' : Scene τ)
    (hs : scene.world = s) (ht : scene'.world = t)
    (uncut : (p.drifting w deadline drift n scene).1 ≠ .cutOff)
    (uncut' : (q.drifting v deadline' drift' n' scene').1 ≠ .cutOff) :
    Concur R (p.drifting w deadline drift n scene).1 (p.deeds w deadline drift n scene)
      (q.drifting v deadline' drift' n' scene').1 (q.deeds v deadline' drift' n' scene') := by
  -- along both plans; their clocks and counts of steps differ, so these are for any
  induction h generalizing n n' scene scene' with
  | @done a b _ _ hR => exact ⟨rfl, rfl, rfl, a, b, rfl, rfl, hR⟩
  | call c _ ih =>
    subst hs ht
    rw [drifting_call] at uncut uncut' ⊢
    rw [drifting_call, deeds_call, deeds_call]
    cases harrival : arrival deadline (scene.later (drift n)).now
      (w.respond scene.world c).2.takes with
    | none =>
      rw [harrival] at uncut
      exact absurd rfl uncut
    | some now =>
      cases harrival' : arrival deadline' (scene'.later (drift' n')).now
        (v.respond scene'.world c).2.takes with
      | none =>
        rw [harrival'] at uncut'
        exact absurd rfl uncut'
      | some now' =>
        rw [harrival] at uncut
        rw [harrival'] at uncut'
        obtain ⟨calls, messages, notes, answers⟩ := ih (n + 1) (n' + 1)
          { scene with world := (w.respond scene.world c).1, now }
          { scene' with world := (v.respond scene'.world c).1, now := now' } rfl rfl uncut uncut'
        exact ⟨congrArg (c :: ·) calls, messages, notes, answers⟩
  | clock _ ih =>
    obtain ⟨calls, messages, notes, answers⟩ := ih _ _ (n + 1) (n' + 1)
      (scene.later (drift n)) (scene'.later (drift' n')) hs ht uncut uncut'
    exact ⟨calls, messages, notes, answers⟩
  | lap message _ ih =>
    obtain ⟨calls, messages, notes, answers⟩ := ih (n + 1) (n' + 1)
      { scene.later (drift n) with
        watch := scene.watch.record (scene.later (drift n)).now message }
      { scene'.later (drift' n') with
        watch := scene'.watch.record (scene'.later (drift' n')).now message } hs ht uncut uncut'
    exact ⟨calls, congrArg (message :: ·) messages, notes, answers⟩
  | note event _ ih =>
    obtain ⟨calls, messages, notes, answers⟩ := ih (n + 1) (n' + 1)
      { scene.later (drift n) with events := scene.events ++ [event] }
      { scene'.later (drift' n') with events := scene'.events ++ [event] }
      hs ht uncut uncut'
    exact ⟨calls, messages, congrArg (event :: ·) notes, answers⟩

end Plan

/-! ## 2. Stores that list the edges in another way -/

/-- Whether two answers list the same documents on each side, in any order and any number of
    times. -/
inductive SameDocuments : Except Failure Edges → Except Failure Edges → Prop where
  | failed (f : Failure) : SameDocuments (.error f) (.error f)
  | listed {e e' : Edges} (citing : ∀ x, x ∈ e.citing ↔ x ∈ e'.citing)
      (cited : ∀ x, x ∈ e.cited ↔ x ∈ e'.cited) : SameDocuments (.ok e) (.ok e')

/-- Whether stores in two states answer a request for a record in the same way, but for the time
    that they take and for how they list the edges. What is asked behind those is answered as a
    function of the call alone. -/
structure AlikeButListing {σ τ : Type}
    (w : World (StoreCall IndexCall) (StoreCall.Answer IndexCall.Answer) σ) (s : σ)
    (v : World (StoreCall IndexCall) (StoreCall.Answer IndexCall.Answer) τ) (t : τ)
    (id : String) : Prop where
  doi : (w.respond s (.doiForId id)).2.answer = (v.respond t (.doiForId id)).2.answer
  edges : ∀ doi, (w.respond s (.doiForId id)).2.answer = Except.ok doi →
    SameDocuments (w.respond (w.respond s (.doiForId id)).1 (.edges doi)).2.answer
      (v.respond (v.respond t (.doiForId id)).1 (.edges doi)).2.answer
  mappings : ∀ s t dois,
    (w.respond s (.idsForDois dois)).2.answer = (v.respond t (.idsForDois dois)).2.answer
  metadata : ∀ s t id,
    (w.respond s (.index (.fetch id))).2.answer = (v.respond t (.index (.fetch id))).2.answer

/-- A resolution without the time that a response took. -/
def Resolution.untimed : Resolution → Resolution
  | .cached body => .cached body
  | .resolved r => .resolved (r.withTook .zero)
  | .noRelated id doi => .noRelated id doi

/-- Whether two answers are the same but for the time that a response took. -/
def SameButTook (a b : Except Failure Resolution) : Prop :=
  a.map Resolution.untimed = b.map Resolution.untimed

section Fresh

variable {σ τ : Type} {w : World (StoreCall IndexCall) (StoreCall.Answer IndexCall.Answer) σ}
  {v : World (StoreCall IndexCall) (StoreCall.Answer IndexCall.Answer) τ} {s : σ} {t : τ}
  {id : String} {r r' : Settings} {started started' : Instant}

theorem deliver_inStep (q : Response) (s : σ) (t : τ) :
    InStep w v SameButTook (deliver r false started q) s (deliver r' false started' q) t := by
  refine .clock fun now now' => ?_
  simp only [Bool.false_and, Bool.false_eq_true, if_false]
  exact .done rfl

/-- **Collecting metadata goes on in step** where that is a function of the record. -/
theorem collect_inStep (metadata : ∀ s t id,
      (w.respond s (.index (.fetch id))).2.answer = (v.respond t (.index (.fetch id))).2.answer)
    (n : Neighbourhood) {next next' : Collected → StorePlan (Except Failure Resolution)}
    (hnext : ∀ c s t, InStep w v SameButTook (next c) s (next' c) t) (M : List Mapping)
    (c : Collected) (s : σ) (t : τ) :
    InStep w v SameButTook (collect n next M c) s (collect n next' M c) t := by
  induction M generalizing c s t with
  | nil => exact hnext c s t
  | cons m M ih =>
    unfold collect
    cases n.classify m.doi with
    | none => exact .note _ (.done rfl)
    | some side =>
      refine .call _ ?_
      rw [metadata s t m.id]
      split
      · exact ih c _ _
      · exact .done rfl
      · split
        · exact .done rfl
        · exact ih _ _ _

theorem mapped_inStep (h : AlikeButListing w s v t id) (n : Neighbourhood) (M : List Mapping)
    (s' : σ) (t' : τ) :
    InStep w v SameButTook (mapped r false started n M) s' (mapped r' false started' n M) t' := by
  rw [mapped_eq, mapped_eq]
  exact .lap _ (.lap _ (collect_inStep h.metadata n
    (fun _ _ _ => .lap _ (deliver_inStep _ _ _)) M _ s' t'))

theorem join_inStep (h : AlikeButListing w s v t id) (n : Neighbourhood) (s' : σ) (t' : τ) :
    InStep w v SameButTook (join r false started n) s' (join r' false started' n) t' := by
  unfold join
  refine .lap _ ?_
  split
  · exact .done rfl
  · refine .call _ ?_
    rw [h.mappings s' t']
    split
    · exact .done rfl
    · exact mapped_inStep h n _ _ _

/-- **A record is resolved in step** on stores that differ in how they list the edges. -/
theorem fresh_inStep (h : AlikeButListing w s v t id) :
    InStep w v SameButTook (fresh r false started id) s (fresh r' false started' id) t := by
  refine .call _ ?_
  rw [← h.doi]
  cases hdoi : (w.respond s (.doiForId id)).2.answer with
  | error f => exact .done rfl
  | ok doi =>
    refine .lap _ (.call _ ?_)
    have edges := h.edges doi hdoi
    generalize (w.respond (w.respond s (.doiForId id)).1 (.edges doi)).2.answer = a at edges ⊢
    generalize (v.respond (v.respond t (.doiForId id)).1 (.edges doi)).2.answer = b at edges ⊢
    cases edges with
    | failed f => exact .done rfl
    | listed citing cited =>
      simp only
      rw [Neighbourhood.ofEdges_congr citing cited]
      exact join_inStep h _ _ _

/-! ## 3. Requests -/

variable {S : Session σ} {T : Session τ} {drift drift' : Nat → Duration}

/-- **Two requests for a record, without a cache, do not differ in how the edges are listed**: they
    make the same calls, reach the same checkpoints, log the same messages if they report those, and
    answer the same but for the time that a response took, unless one of them is cut off at its
    deadline. -/
theorem Session.resolve_listing (plain : S.service.useCache = false)
    (plain' : T.service.useCache = false) (alike : AlikeButListing w S.world v T.world id)
    (uncut : (S.followed w (some S.deadline) drift id).1 ≠ .cutOff)
    (uncut' : (T.followed v (some T.deadline) drift' id).1 ≠ .cutOff) :
    let out := S.resolve (.drifting w drift) id
    let out' := T.resolve (.drifting v drift') id
    made (S.deeds w drift id) = made (T.deeds v drift' id) ∧
    (laps (S.deeds w drift id)).map Lap.message = (laps (T.deeds v drift' id)).map Lap.message ∧
    (S.service.settings.stopwatch = T.service.settings.stopwatch →
      out.2.2.map Event.message = out'.2.2.map Event.message) ∧
    ∃ a b, out.1 = .answered a ∧ out'.1 = .answered b ∧ SameButTook a b := by
  intro out out'
  have inStep : InStep w v SameButTook
      (CitationFusion.resolve S.service.settings S.service.useCache id) S.world
      (CitationFusion.resolve T.service.settings T.service.useCache id) T.world := by
    rw [plain, plain']
    exact .clock fun _ _ => fresh_inStep alike
  obtain ⟨calls, messages, notes, a, b, hend, hend', hsame⟩ :=
    inStep.drifting 0 0 S.scene T.scene rfl rfl uncut uncut'
  refine ⟨calls, messages, fun watches => ?_, a, b, congrArg Session.verdict hend,
    congrArg Session.verdict hend', hsame⟩
  have reported : (S.reported id (S.deeds w drift id)).map Event.message =
      (T.reported id (T.deeds v drift' id)).map Event.message := by
    unfold Session.reported
    rw [Stopwatch.messages_events, Stopwatch.messages_events, watches]
    exact congrArg (fun l => if T.service.settings.stopwatch = true then l else []) messages
  have unbroken : (S.followed w (some S.deadline) drift id).1 ≠ .overflowed := by
    rw [Session.followed, hend]
    exact fun h => by cases h
  have unbroken' : (T.followed v (some T.deadline) drift' id).1 ≠ .overflowed := by
    rw [Session.followed, hend']
    exact fun h => by cases h
  rw [S.resolve_events w drift id unbroken, T.resolve_events v drift' id unbroken',
    List.map_append, List.map_append, reported]
  exact congrArg (fun l => l.map Event.message ++ _) notes

/-- A record whose edges are listed in another order and some of them more than once, by stores that
    take longer, to a service that is slow. -/
theorem Session.resolve_listing_shuffled :
    let M : List Mapping := [⟨"2", "b"⟩, ⟨"3", "d"⟩]
    let w := knowing (.ofMillis 1) ⟨["c", "b"], ["d", "b"]⟩ M
    let v := knowing (.ofSecs 1) ⟨["b", "c", "b"], ["b", "d", "d"]⟩ M
    let S : Session Unit :=
      .start ⟨⟨.ofSecs 30, true, .zero, .ofSecs 60⟩, false, ⟨true, true⟩⟩ ⟨0⟩ ()
    let T : Session Unit :=
      .start ⟨⟨.ofSecs 5, true, .zero, .ofSecs 60⟩, false, ⟨true, true⟩⟩ ⟨7⟩ ()
    let drift : Nat → Duration := fun _ => .zero
    let drift' : Nat → Duration := fun _ => .ofMillis 3
    (S.followed w (some S.deadline) drift "r").1 ≠ .cutOff ∧
    (T.followed v (some T.deadline) drift' "r").1 ≠ .cutOff ∧
    made (S.deeds w drift "r") = made (T.deeds v drift' "r") ∧
    (S.resolve (.drifting w drift) "r").2.2.map Event.message =
      (T.resolve (.drifting v drift') "r").2.2.map Event.message ∧
    ∃ a b, (S.resolve (.drifting w drift) "r").1 = .answered a ∧
      (T.resolve (.drifting v drift') "r").1 = .answered b ∧ SameButTook a b := by
  intro M w v S T drift drift'
  have uncut : (S.followed w (some S.deadline) drift "r").1 ≠ .cutOff := by decide +kernel
  have uncut' : (T.followed v (some T.deadline) drift' "r").1 ≠ .cutOff := by decide +kernel
  have alike : AlikeButListing w () v () "r" :=
    { doi := rfl
      edges := fun _ _ => .listed (by simp [or_comm]) (by simp [or_comm])
      mappings := fun _ _ _ => rfl
      metadata := fun _ _ _ => rfl }
  have watches : S.service.settings.stopwatch = T.service.settings.stopwatch := rfl
  obtain ⟨calls, -, messages, answers⟩ :=
    Session.resolve_listing (S := S) (T := T) rfl rfl alike uncut uncut'
  exact ⟨uncut, uncut', calls, messages watches, answers⟩

end Fresh

end CitationFusion
