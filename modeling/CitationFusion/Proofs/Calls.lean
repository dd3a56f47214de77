import CitationFusion.Proofs.Acceptance
import CitationFusion.Proofs.Neighbourhood
import CitationFusion.Proofs.Request
import Mathlib.Data.List.Forall2

/-!
# What is asked of the stores

A request for a record asks the stores one thing after the other, each of them once, and nothing
behind what failed.

* `Plan.Exchange` : calls that are made on stores, and what those answer.
* `Plan.Warranted` : calls that are due when they are made.
* `Plan.Asks`, `Plan.Asks.warranted` : a plan that makes only such calls, and its steps.
* `Due` : what is due in resolving a record, of what was answered so far.
* `Due.script` : what is due is the next call of a fixed list.
* `fresh_asks` : to resolve a record asks only what is due, and all of it.
* `Session.resolve_calls` : so does a request that is not served from the cache.
-/

namespace CitationFusion

open Plan Plan.Deed

/-! ## 1. Calls that are due -/

namespace Plan

variable {C : Type} {A : C → Type} {α σ : Type}

/-- Calls that are made on stores one after the other, with what those answer. What a call that is
    not waited for does to the stores, it does when it is made. -/
inductive Exchange (w : World C A σ) : σ → List (Deed C A) → σ → Prop where
  | nil (s : σ) : Exchange w s [] s
  | called {s s' : σ} {ds : List (Deed C A)} (c : C) (rest : Exchange w (w.respond s c).1 ds s') :
      Exchange w s (.called c (w.respond s c).2.answer :: ds) s'
  | abandoned (s : σ) (c : C) : Exchange w s [.abandoned c] (w.respond s c).1

/-- **The calls of a plan are made on the stores that it is followed on**, and change nothing else
    about them. -/
theorem drifting_exchange (w : World C A σ) (deadline : Option Instant) (drift : Nat → Duration)
    (n : Nat) (p : Plan C A α) (s : Scene σ) :
    Exchange w s.world (calls (p.deeds w deadline drift n s))
      (p.drifting w deadline drift n s).2.world := by
  induction p generalizing n s with
  | done a => exact .nil _
  | call c next ih =>
    rw [drifting_call, deeds_call]
    cases arrival deadline (s.later (drift n)).now (w.respond s.world c).2.takes with
    | none => exact .abandoned _ c
    | some now => exact .called c (ih _ (n + 1) { s with world := (w.respond s.world c).1, now })
  | clock next ih => exact ih _ (n + 1) (s.later (drift n))
  | lookup key next ih =>
    exact ih _ (n + 1)
      { s.later (drift n) with cache := (s.cache.get (s.later (drift n)).now key).2 }
  | store key value ttl next ih =>
    rw [drifting_store, deeds_store]
    cases hend : (s.later (drift n)).now.add? ttl with
    | none =>
      simp only [Cache.set?, hend, Option.map_none]
      exact .nil _
    | some expires =>
      simp only [Cache.set?, hend, Option.map_some]
      exact ih (n + 1) { s.later (drift n) with cache := s.cache.put key ⟨value, expires⟩ }
  | evict key next ih => exact ih (n + 1) { s.later (drift n) with cache := s.cache.delete key }
  | lap message next ih =>
    exact ih (n + 1)
      { s.later (drift n) with watch := s.watch.record (s.later (drift n)).now message }
  | note event next ih =>
    exact ih (n + 1) { s.later (drift n) with events := s.events ++ [event] }

/-- Calls that are made after some others, each of them when it is due: `due` says what is due after
    some calls and their answers. Nothing is called behind a call that was not answered. -/
inductive Warranted (due : List (Deed C A) → C → Prop) :
    List (Deed C A) → List (Deed C A) → Prop where
  | nil (before : List (Deed C A)) : Warranted due before []
  | called {before ds : List (Deed C A)} {c : C} (h : due before c) (x : A c)
      (rest : Warranted due (before ++ [.called c x]) ds) : Warranted due before (.called c x :: ds)
  | abandoned {before : List (Deed C A)} {c : C} (h : due before c) :
      Warranted due before [.abandoned c]

/-- The last of such calls was due behind all others. -/
theorem Warranted.last {due : List (Deed C A) → C → Prop} {before ds : List (Deed C A)}
    (h : Warranted due before ds) :
    ds = [] ∨ ∃ front d c, ds = front ++ [d] ∧ d.call? = some c ∧ due (before ++ front) c := by
  induction h with
  | nil => exact .inl rfl
  | @called before ds c h x _ ih =>
    refine .inr ?_
    rcases ih with rfl | ⟨front, d, c', rfl, hd, hdue⟩
    · exact ⟨[], .called c x, c, rfl, rfl, by rw [List.append_nil]; exact h⟩
    · refine ⟨.called c x :: front, d, c', rfl, hd, ?_⟩
      rw [List.append_assoc] at hdue
      exact hdue
  | @abandoned before c h =>
    exact .inr ⟨[], .abandoned c, c, rfl, rfl, by rw [List.append_nil]; exact h⟩

/-- Whether a plan makes only calls that are due, behind some others, and ends only where none is.
    -/
def Asks (due : List (Deed C A) → C → Prop) : Plan C A α → List (Deed C A) → Prop
  | done _, before => ∀ c, ¬ due before c
  | call c next, before => due before c ∧ ∀ x, (next x).Asks due (before ++ [.called c x])
  | clock next, before => ∀ t, (next t).Asks due before
  | lookup _ next, before => ∀ v, (next v).Asks due before
  | store _ _ _ next, before => next.Asks due before
  | evict _ next, before => next.Asks due before
  | lap _ next, before => next.Asks due before
  | note _ next, before => next.Asks due before

/-- **Following such a plan makes only calls that are due**, and if it finishes, all of them. -/
theorem Asks.warranted {due : List (Deed C A) → C → Prop} {p : Plan C A α}
    {before : List (Deed C A)} (h : p.Asks due before) (w : World C A σ)
    (deadline : Option Instant) (drift : Nat → Duration) (n : Nat) (s : Scene σ) :
    Warranted due before (calls (p.deeds w deadline drift n s)) ∧
    ∀ a, (p.drifting w deadline drift n s).1 = .finished a →
      ∀ c, ¬ due (before ++ calls (p.deeds w deadline drift n s)) c := by
  -- along the plan, with the calls that were made so far in `before`
  induction p generalizing before n s with
  | done a =>
    refine ⟨.nil before, fun _ _ c => ?_⟩
    have hdone := h c
    rw [← List.append_nil before] at hdone
    exact hdone
  | call c next ih =>
    rw [drifting_call, deeds_call]
    cases arrival deadline (s.later (drift n)).now (w.respond s.world c).2.takes with
    | none => exact ⟨.abandoned h.1, fun _ ha => by cases ha⟩
    | some now =>
      obtain ⟨rest, all⟩ := ih _ (h.2 (w.respond s.world c).2.answer) (n + 1)
        { s with world := (w.respond s.world c).1, now }
      refine ⟨.called h.1 _ rest, fun a ha c' => ?_⟩
      have hall := all a ha c'
      rw [List.append_assoc] at hall
      exact hall
  | clock next ih => exact ih _ (h _) (n + 1) (s.later (drift n))
  | lookup key next ih =>
    exact ih _ (h _) (n + 1)
      { s.later (drift n) with cache := (s.cache.get (s.later (drift n)).now key).2 }
  | store key value ttl next ih =>
    rw [drifting_store, deeds_store]
    cases hend : (s.later (drift n)).now.add? ttl with
    | none =>
      simp only [Cache.set?, hend, Option.map_none]
      exact ⟨.nil before, fun _ ha => by cases ha⟩
    | some expires =>
      simp only [Cache.set?, hend, Option.map_some]
      exact ih h (n + 1) { s.later (drift n) with cache := s.cache.put key ⟨value, expires⟩ }
  | evict key next ih =>
    exact ih h (n + 1) { s.later (drift n) with cache := s.cache.delete key }
  | lap message next ih =>
    exact ih h (n + 1)
      { s.later (drift n) with watch := s.watch.record (s.later (drift n)).now message }
  | note event next ih =>
    exact ih h (n + 1) { s.later (drift n) with events := s.events ++ [event] }

end Plan

/-! ## 2. What is due -/

/-- Whether an answer to a fetch is no failure: there is no metadata, or it is usable. -/
def Tolerable : Except FetchFailure Bytes → Prop
  | .error (.notFound _) => True
  | .error (.backend _) => False
  | .ok bytes => ¬ Unusable bytes

/-- A local record was fetched, and that was no failure. -/
inductive Passed : Mapping → StoreDeed → Prop where
  | fetched (m : Mapping) {x : Except FetchFailure Bytes} (tolerable : Tolerable x) :
      Passed m (.called (.index (.fetch m.id)) x)

/-- What is due in resolving a record, of what was called so far and how that was answered: its DOI;
    the edges of that; the local records of the documents around it, if there are any, asked for all
    at once; and the metadata of each of those, as long as no fetch failed and every local record so
    far is one that was asked for. -/
inductive Due (id : String) : List StoreDeed → StoreCall IndexCall → Prop where
  | doi : Due id [] (.doiForId id)
  | edges (doi : String) : Due id [.called (.doiForId id) (Except.ok doi)] (.edges doi)
  | mappings (doi : String) (e : Edges) {dois : List String} (nonempty : dois ≠ [])
      (ascending : dois.Pairwise fun a b => Utf8.ofString a < Utf8.ofString b)
      (related : ∀ x, x ∈ dois ↔ x ∈ e.citing ∨ x ∈ e.cited) :
      Due id [.called (.doiForId id) (Except.ok doi), .called (.edges doi) (Except.ok e)]
        (.idsForDois dois)
  | metadata (doi : String) (e : Edges) (dois : List String) {front rest : List Mapping}
      {m : Mapping} {fetches : List StoreDeed} (passed : List.Forall₂ Passed front fetches)
      (related : ∀ x ∈ front ++ [m], x.doi ∈ e.citing ∨ x.doi ∈ e.cited) :
      Due id (.called (.doiForId id) (Except.ok doi) :: .called (.edges doi) (Except.ok e) ::
        .called (.idsForDois dois) (Except.ok (front ++ m :: rest)) :: fetches)
        (.index (.fetch m.id))

/-- The calls in which a record is resolved if nothing fails. -/
def script (id doi : String) (dois : List String) (M : List Mapping) : List (StoreCall IndexCall) :=
  .doiForId id :: .edges doi :: .idsForDois dois :: M.map fun m => .index (.fetch m.id)

section Due

variable {id doi : String} {e : Edges} {dois : List String} {M : List Mapping}
  {fetches : List StoreDeed} {c : StoreCall IndexCall}

theorem made_passed (h : List.Forall₂ Passed M fetches) :
    made fetches = M.map fun m => .index (.fetch m.id) := by
  induction h with
  | nil => rfl
  | cons hd _ ih =>
    cases hd with
    | fetched => exact congrArg (_ :: ·) ih

/-- **What is due is the next call of the script.** -/
theorem Due.script {ds : List StoreDeed} (h : Due id ds c) :
    ∃ doi dois M, made ds ++ [c] <+: script id doi dois M := by
  cases h with
  | doi => exact ⟨"", [], [], List.prefix_append [_] _⟩
  | edges doi => exact ⟨doi, [], [], List.prefix_append [_, _] _⟩
  | mappings doi e => exact ⟨doi, _, [], List.prefix_append [_, _, _] _⟩
  | @metadata doi e dois front rest m fetches passed =>
    refine ⟨doi, dois, front ++ m :: rest, rest.map fun m => .index (.fetch m.id), ?_⟩
    have hmade : made (.called (.doiForId id) (Except.ok doi) ::
        .called (.edges doi) (Except.ok e) ::
        .called (.idsForDois dois) (Except.ok (front ++ m :: rest)) :: fetches) =
        .doiForId id :: .edges doi :: .idsForDois dois ::
          front.map fun m => StoreCall.index (.fetch m.id) := by
      rw [← made_passed passed]
      rfl
    rw [hmade]
    simp [CitationFusion.script]

/-- The calls up to the answer that lists the local records. -/
def opening (id doi : String) (e : Edges) (dois : List String) (M : List Mapping) :
    List StoreDeed :=
  [.called (.doiForId id) (Except.ok doi), .called (.edges doi) (Except.ok e),
    .called (.idsForDois dois) (Except.ok M)]

/-- Behind those only metadata is due: that of the next local record. -/
theorem Due.next (h : Due id (opening id doi e dois M ++ fetches) c) :
    ∃ front m rest, M = front ++ m :: rest ∧ List.Forall₂ Passed front fetches ∧
      ∀ x ∈ front ++ [m], x.doi ∈ e.citing ∨ x.doi ∈ e.cited := by
  cases h with
  | metadata _ _ _ passed related => exact ⟨_, _, _, rfl, passed, related⟩

/-- Nothing is due once all metadata was fetched. -/
theorem not_due_fetched (passed : List.Forall₂ Passed M fetches) :
    ¬ Due id (opening id doi e dois M ++ fetches) c := by
  intro h
  obtain ⟨front, m, rest, rfl, hfront, -⟩ := h.next
  have hlength := passed.length_eq.trans hfront.length_eq.symm
  simp at hlength

/-- Nor when the next local record is one that nobody asked for. -/
theorem not_due_stray {front rest : List Mapping} {m : Mapping}
    (passed : List.Forall₂ Passed front fetches) (stray : ¬ (m.doi ∈ e.citing ∨ m.doi ∈ e.cited)) :
    ¬ Due id (opening id doi e dois (front ++ m :: rest) ++ fetches) c := by
  intro h
  obtain ⟨front', m', rest', hM, hfront, related⟩ := h.next
  obtain ⟨-, hrest⟩ := List.append_inj hM (passed.length_eq.trans hfront.length_eq.symm)
  cases hrest
  exact stray (related m (by simp))

theorem tolerable_of_passed {x : Except FetchFailure Bytes} {key : String}
    (passed : List.Forall₂ Passed M fetches) (h : .called (.index (.fetch key)) x ∈ fetches) :
    Tolerable x := by
  induction passed with
  | nil => cases h
  | cons hd _ ih =>
    rcases List.mem_cons.1 h with rfl | h
    · cases hd with
      | fetched tolerable => exact tolerable
    · exact ih h

/-- Nor behind a fetch that failed. -/
theorem not_due_failed {x : Except FetchFailure Bytes} {key : String} (failed : ¬ Tolerable x) :
    ¬ Due id (opening id doi e dois M ++ (fetches ++ [.called (.index (.fetch key)) x])) c := by
  intro h
  obtain ⟨_, _, _, -, passed, -⟩ := h.next
  exact failed (tolerable_of_passed passed (List.mem_append_right _ (List.mem_singleton_self _)))

end Due

/-! ## 3. Resolving a record asks what is due -/

section Asks

variable {s : Settings} {u : Bool} {started : Instant} {id doi : String} {e : Edges}
  {before : List StoreDeed}

/-- Delivering a response asks nothing. -/
theorem deliver_asks (r : Response) (ended : ∀ c, ¬ Due id before c) :
    (deliver s u started r).Asks (Due id) before := by
  intro now
  simp only
  split
  · exact ended
  · exact ended

/-- **Collecting metadata asks for that of the local records in order**, as long as nothing failed:
    those in `front` were fetched. -/
theorem collect_asks {dois : List String}
    {next : Collected → StorePlan (Except Failure Resolution)} {M : List Mapping}
    (hnext : ∀ c fetches, List.Forall₂ Passed M fetches →
      (next c).Asks (Due id) (opening id doi e dois M ++ fetches))
    (front rest : List Mapping) (hM : M = front ++ rest) (fetches : List StoreDeed)
    (passed : List.Forall₂ Passed front fetches)
    (related : ∀ x ∈ front, x.doi ∈ e.citing ∨ x.doi ∈ e.cited) (c : Collected) :
    (collect (.ofEdges id doi e) next rest c).Asks (Due id)
      (opening id doi e dois M ++ fetches) := by
  -- along the local records that are left; those in `front` were asked for, and are related
  induction rest generalizing front fetches c with
  | nil =>
    rw [List.append_nil] at hM
    subst hM
    exact hnext c fetches passed
  | cons m rest ih =>
    unfold collect
    cases hside : (Neighbourhood.ofEdges id doi e).classify m.doi with
    | none =>
      rw [Neighbourhood.classify_none, Neighbourhood.mem_related_ofEdges] at hside
      intro c' hdue
      rw [hM] at hdue
      exact not_due_stray passed hside hdue
    | some side =>
      have hm := Neighbourhood.mem_related_ofEdges.1 (Neighbourhood.mem_related_of_classify hside)
      have related' : ∀ x ∈ front ++ [m], x.doi ∈ e.citing ∨ x.doi ∈ e.cited := by
        intro x hx
        rcases List.mem_append.1 hx with hx | hx
        · exact related x hx
        · rw [List.mem_singleton.1 hx]
          exact hm
      -- found or missing, the record is behind us, and the next one is due
      have goOn : ∀ x c, Tolerable x →
          (collect (.ofEdges id doi e) next rest c).Asks (Due id)
            (opening id doi e dois M ++ (fetches ++ [.called (.index (.fetch m.id)) x])) := by
        intro x c tolerable
        refine ih (front ++ [m]) (by simp [hM]) _ ?_ related' c
        exact List.rel_append passed (.cons (.fetched m tolerable) .nil)
      refine ⟨?_, fun x => ?_⟩
      · rw [hM]
        exact .metadata doi e dois passed related'
      · rw [List.append_assoc]
        cases x with
        | error failure =>
          cases failure with
          | notFound => exact goOn _ _ trivial
          | backend => exact fun c' => not_due_failed fun tolerable => tolerable
        | ok bytes =>
          simp only
          cases hb : Blob.accept m.id bytes with
          | error f =>
            exact fun c' => not_due_failed fun usable => usable (Blob.accept_error_iff.1 ⟨f, hb⟩)
          | ok b =>
            refine goOn _ _ fun unusable => ?_
            obtain ⟨f, hf⟩ := Blob.accept_error_iff.2 unusable
            rw [hb] at hf
            cases hf

/-- **Resolving a record afresh asks only what is due**, and if it finishes, all of it. -/
theorem fresh_asks (s : Settings) (u : Bool) (started : Instant) (id : String) :
    (fresh s u started id).Asks (Due id) [] := by
  refine ⟨.doi, fun answer => ?_⟩
  cases answer with
  | error f => exact fun c hdue => by cases hdue
  | ok doi =>
    refine ⟨.edges doi, fun answer => ?_⟩
    cases answer with
    | error f => exact fun c hdue => by cases hdue
    | ok e =>
      let L := (Neighbourhood.ofEdges id doi e).related.toList
      have related : ∀ x, x ∈ L ↔ x ∈ e.citing ∨ x ∈ e.cited :=
        fun x => Neighbourhood.mem_related_ofEdges
      show (join s u started (.ofEdges id doi e)).Asks (Due id) _
      unfold join
      simp only [Asks]
      split
      · rename_i hempty
        intro c hdue
        cases hdue with
        | @mappings _ _ dois nonempty _ related' =>
          have hL : L = [] := List.isEmpty_iff.1 hempty
          refine nonempty (List.eq_nil_iff_forall_not_mem.2 fun x hx => ?_)
          rw [related', ← related, hL] at hx
          exact List.not_mem_nil hx
      · rename_i hsome
        have nonempty : L ≠ [] := fun hnil => hsome (List.isEmpty_iff.2 hnil)
        have ascending : L.Pairwise fun a b => Utf8.ofString a < Utf8.ofString b :=
          (Neighbourhood.ofEdges id doi e).related.ascending.imp Utf8.ofString_lt_iff.2
        refine ⟨.mappings doi e nonempty ascending related, fun answer => ?_⟩
        cases answer with
        | error f => exact fun c hdue => by cases hdue
        | ok M =>
          show (mapped s u started (.ofEdges id doi e) M).Asks (Due id) _
          rw [mapped_eq]
          refine collect_asks (fun c fetches passed => ?_) [] M rfl [] .nil (by simp) _
          exact deliver_asks _ fun c => not_due_fetched passed

end Asks

/-! ## 4. Requests -/

/-- **A request asks the stores what is due, one call after the other, and nothing else.** So its
    calls are the first ones of a script: the DOI of the record, the edges of that, the local
    records of all documents around it at once, and the metadata of those in order. What is found in
    the cache is served without a call; a request that finishes in another way has asked all that
    was due. -/
theorem Session.resolve_calls {σ : Type}
    (w : World (StoreCall IndexCall) (StoreCall.Answer IndexCall.Answer) σ)
    (drift : Nat → Duration) (S : Session σ) (id : String) :
    let out := S.resolve (.drifting w drift) id
    let ds := S.deeds w drift id
    let looked := (S.now.advance (drift 0)).advance (drift 1)
    Exchange w S.world (calls ds) out.2.1.world ∧
    Warranted (Due id) [] (calls ds) ∧
    (∃ doi dois M, made ds <+: script id doi dois M) ∧
    (∀ body, S.service.useCache = true → (S.cache.get looked id).1 = some body →
      Json.isDocument body = true → made ds = []) ∧
    (∀ answer, (S.followed w (some S.deadline) drift id).1 = .finished answer →
      (∀ body, answer ≠ .ok (.cached body)) → ∀ c, ¬ Due id (calls ds) c) := by
  intro out ds looked
  have exchange : Exchange w S.world (calls ds) out.2.1.world :=
    drifting_exchange w _ drift 0 _ S.scene
  have warranted : Warranted (Due id) [] (calls ds) ∧
      (∀ body, S.service.useCache = true → (S.cache.get looked id).1 = some body →
        Json.isDocument body = true → made ds = []) ∧
      (∀ answer, (S.followed w (some S.deadline) drift id).1 = .finished answer →
        (∀ body, answer ≠ .ok (.cached body)) → ∀ c, ¬ Due id (calls ds) c) := by
    rcases S.followed_cases w drift id with
      ⟨body, t₁, t₂, message, -, -, -, hend, -, -, hds⟩ | ⟨before, n, scene, unserved, -, hout, hds⟩
    · have hcalls : calls ds = [] := congrArg calls hds
      rw [hcalls, ← made_calls, hcalls]
      refine ⟨.nil [], fun _ _ _ _ => rfl, fun answer hanswer uncached => ?_⟩
      rw [hend] at hanswer
      cases hanswer
      exact absurd rfl (uncached _)
    · obtain ⟨due, all⟩ := (fresh_asks S.service.settings S.service.useCache
        (S.now.advance (drift 0)) id).warranted w (some S.deadline) drift n scene
      have hcalls : calls ds = calls ((fresh S.service.settings S.service.useCache
          (S.now.advance (drift 0)) id).deeds w (some S.deadline) drift n scene) := by
        show calls (S.deeds w drift id) = _
        rw [hds]
        exact unserved.calls _ _
      rw [hcalls, hout]
      refine ⟨due, fun body caching found document => ?_,
        fun answer hanswer _ => all answer hanswer⟩
      exact absurd document (unserved.not_document caching found)
  -- the last call that was due tells how far along the script the request came
  have scripted : ∃ doi dois M, made ds <+: script id doi dois M := by
    rcases warranted.1.last with hnil | ⟨front, d, c, hlast, hc, hdue⟩
    · rw [← made_calls, hnil]
      exact ⟨"", [], [], List.nil_prefix⟩
    · rw [← made_calls, hlast, made_append, made, made, List.filterMap_cons_some hc]
      exact hdue.script
  exact ⟨exchange, warranted.1, scripted, warranted.2⟩

end CitationFusion
