import CitationFusion.Proofs.Calls
import CitationFusion.Proofs.Settlement
import CitationFusion.Proofs.Stopwatch
import Mathlib.Data.List.Dedup

/-!
# What a request logs of its checkpoints

The checkpoints that a request reports are settled by its calls, its writes and its answer.

* `Plan.Recounts`, `Plan.Recounts.drifting` : a plan whose calls, writes and answer settle its
  checkpoints, and following it.
* `Plan.deeds_inOrder` : checkpoints are reached one after the other.
* `Plan.drifting_rewatched` : a stopwatch has no say in how a plan is followed.
* `Story`, `Story.congr` : the checkpoints of a request, which is settled by how far it got.
* `resolve_recounts` : resolving a record tells its story.
* `Session.resolve_journal` : so does the log of a request.
-/

namespace CitationFusion

open Plan Plan.Deed

/-! ## 1. Plans and their checkpoints -/

namespace Plan

variable {C : Type} {A : C → Type} {α σ : Type}

/-- Whether a step is a call or a write. -/
def Deed.isAct : Deed C A → Bool
  | called _ _ | abandoned _ | kept _ _ _ => true
  | read _ | looked _ _ | evicted _ | reached _ _ | noted _ => false

/-- The calls and the writes of some steps. -/
def Deed.acts (ds : List (Deed C A)) : List (Deed C A) := ds.filter isAct

theorem Deed.kept_mem_acts {ds : List (Deed C A)} {t : Instant} {key : String} {e : Entry} :
    .kept t key e ∈ acts ds ↔ .kept t key e ∈ ds :=
  List.mem_filter.trans (and_iff_left rfl)

/-- Whether a plan, having made some calls and writes and reached some checkpoints, is one whose
    calls, writes and ending settle the messages of its checkpoints by `P`, however long its steps
    take. What it logs by itself is no checkpoint. -/
def Recounts (P : List (Deed C A) → Ending α → List String → Prop) :
    Plan C A α → List (Deed C A) → List String → Prop
  | done a, before, told => P before (.finished a) told
  | call c next, before, told =>
    P (before ++ [.abandoned c]) .cutOff told ∧
      ∀ x, (next x).Recounts P (before ++ [.called c x]) told
  | clock next, before, told => ∀ t, (next t).Recounts P before told
  | lookup _ next, before, told => ∀ v, (next v).Recounts P before told
  | store key value _ next, before, told =>
    ∀ t expires, next.Recounts P (before ++ [.kept t key ⟨value, expires⟩]) told
  | evict _ next, before, told => next.Recounts P before told
  | lap message next, before, told => next.Recounts P before (told ++ [message])
  | note event next, before, told => event.line? = none ∧ next.Recounts P before told

section Follow

variable (w : World C A σ) (deadline : Option Instant) (drift : Nat → Duration)

/-- **Following such a plan reaches the checkpoints that it tells of**, unless it is broken off. -/
theorem Recounts.drifting {P : List (Deed C A) → Ending α → List String → Prop} {p : Plan C A α}
    {before : List (Deed C A)} {told : List String} (h : p.Recounts P before told) (n : Nat)
    (s : Scene σ) :
    Event.lines (notes (p.deeds w deadline drift n s)) = [] ∧
    ((p.drifting w deadline drift n s).1 ≠ .overflowed →
      P (before ++ acts (p.deeds w deadline drift n s)) (p.drifting w deadline drift n s).1
        (told ++ (laps (p.deeds w deadline drift n s)).map Lap.message)) := by
  -- along the plan, with what was done and told before; the story is that of both together
  induction p generalizing before told n s with
  | done a =>
    refine ⟨rfl, fun _ => ?_⟩
    rw [← List.append_nil before, ← List.append_nil told] at h
    exact h
  | call c next ih =>
    rw [drifting_call, deeds_call]
    cases arrival deadline (s.later (drift n)).now (w.respond s.world c).2.takes with
    | none =>
      refine ⟨rfl, fun _ => ?_⟩
      have hcut := h.1
      rw [← List.append_nil told] at hcut
      exact hcut
    | some now =>
      obtain ⟨hnotes, hstory⟩ := ih _ (h.2 (w.respond s.world c).2.answer) (n + 1)
        { s with world := (w.respond s.world c).1, now }
      refine ⟨hnotes, fun unbroken => ?_⟩
      have hrest := hstory unbroken
      rw [List.append_assoc] at hrest
      exact hrest
  | clock next ih => exact ih _ (h _) (n + 1) (s.later (drift n))
  | lookup key next ih =>
    exact ih _ (h _) (n + 1)
      { s.later (drift n) with cache := (s.cache.get (s.later (drift n)).now key).2 }
  | store key value ttl next ih =>
    rw [drifting_store, deeds_store]
    cases hend : (s.later (drift n)).now.add? ttl with
    | none =>
      simp only [Cache.set?, hend, Option.map_none]
      -- the clock cannot express the expiry, so the plan is broken off, and nothing is told of it
      exact ⟨rfl, fun unbroken => absurd rfl unbroken⟩
    | some expires =>
      simp only [Cache.set?, hend, Option.map_some]
      obtain ⟨hnotes, hstory⟩ := ih (h (s.later (drift n)).now expires) (n + 1)
        { s.later (drift n) with cache := s.cache.put key ⟨value, expires⟩ }
      refine ⟨hnotes, fun unbroken => ?_⟩
      have hrest := hstory unbroken
      rw [List.append_assoc] at hrest
      exact hrest
  | evict key next ih =>
    exact ih h (n + 1) { s.later (drift n) with cache := s.cache.delete key }
  | lap message next ih =>
    obtain ⟨hnotes, hstory⟩ := ih h (n + 1)
      { s.later (drift n) with watch := s.watch.record (s.later (drift n)).now message }
    refine ⟨hnotes, fun unbroken => ?_⟩
    have hrest := hstory unbroken
    rw [List.append_assoc] at hrest
    exact hrest
  | note event next ih =>
    obtain ⟨hnotes, hstory⟩ := ih h.2 (n + 1)
      { s.later (drift n) with events := s.events ++ [event] }
    refine ⟨?_, hstory⟩
    -- what is noted is no checkpoint
    rw [Event.lines_eq_nil_iff] at hnotes ⊢
    exact List.forall_mem_cons.2 ⟨h.1, hnotes⟩

/-- **Checkpoints are reached one after the other**, as the clock does not go back. -/
theorem deeds_inOrder (n : Nat) (p : Plan C A α) (s : Scene σ) :
    InOrder s.now (laps (p.deeds w deadline drift n s)) := by
  -- along the plan: what is reached later is in order from a later reading, so from now, too
  induction p generalizing n s with
  | done a => trivial
  | call c next ih =>
    rw [deeds_call]
    cases harrival : arrival deadline (s.later (drift n)).now (w.respond s.world c).2.takes with
    | none => trivial
    | some now =>
      exact (ih _ (n + 1) { s with world := (w.respond s.world c).1, now }).mono
        (Nat.le_trans (le_later s (drift n)) (le_arrival harrival))
  | clock next ih => exact (ih _ (n + 1) (s.later (drift n))).mono (le_later s (drift n))
  | lookup key next ih =>
    exact (ih _ (n + 1)
      { s.later (drift n) with cache := (s.cache.get (s.later (drift n)).now key).2 }).mono
      (le_later s (drift n))
  | store key value ttl next ih =>
    rw [deeds_store]
    cases (s.later (drift n)).now.add? ttl with
    | none => trivial
    | some expires =>
      exact (ih (n + 1)
        { s.later (drift n) with cache := s.cache.put key ⟨value, expires⟩ }).mono
        (le_later s (drift n))
  | evict key next ih =>
    exact (ih (n + 1) { s.later (drift n) with cache := s.cache.delete key }).mono
      (le_later s (drift n))
  | lap message next ih =>
    exact ⟨le_later s (drift n), ih (n + 1)
      { s.later (drift n) with watch := s.watch.record (s.later (drift n)).now message }⟩
  | note event next ih =>
    exact (ih (n + 1) { s.later (drift n) with events := s.events ++ [event] }).mono
      (le_later s (drift n))

/-- **A stopwatch has no say in how a plan is followed**: with another one, only that differs. -/
theorem drifting_rewatched (n : Nat) (p : Plan C A α) (s : Scene σ) (watch : Stopwatch) :
    p.deeds w deadline drift n { s with watch } = p.deeds w deadline drift n s ∧
    ∃ watch', p.drifting w deadline drift n { s with watch } =
      ((p.drifting w deadline drift n s).1,
        { (p.drifting w deadline drift n s).2 with watch := watch' }) := by
  -- for any other stopwatch, as each checkpoint changes both
  induction p generalizing n s watch with
  | done a => exact ⟨rfl, watch, rfl⟩
  | call c next ih =>
    rw [drifting_call, deeds_call, drifting_call, deeds_call]
    simp only [Scene.later]
    cases arrival deadline (s.now.advance (drift n)) (w.respond s.world c).2.takes with
    | none => exact ⟨rfl, watch, rfl⟩
    | some now =>
      obtain ⟨hdeeds, hout⟩ := ih (w.respond s.world c).2.answer (n + 1)
        { s with world := (w.respond s.world c).1, now } watch
      exact ⟨congrArg (List.cons _) hdeeds, hout⟩
  | clock next ih =>
    obtain ⟨hdeeds, hout⟩ := ih (s.later (drift n)).now (n + 1) (s.later (drift n)) watch
    exact ⟨congrArg (List.cons _) hdeeds, hout⟩
  | lookup key next ih =>
    obtain ⟨hdeeds, hout⟩ := ih (s.cache.get (s.later (drift n)).now key).1 (n + 1)
      { s.later (drift n) with cache := (s.cache.get (s.later (drift n)).now key).2 } watch
    exact ⟨congrArg (List.cons _) hdeeds, hout⟩
  | store key value ttl next ih =>
    rw [drifting_store, deeds_store, drifting_store, deeds_store]
    simp only [Scene.later, Cache.set?]
    cases (s.now.advance (drift n)).add? ttl with
    | none => exact ⟨rfl, watch, rfl⟩
    | some expires =>
      obtain ⟨hdeeds, hout⟩ := ih (n + 1)
        { s.later (drift n) with cache := s.cache.put key ⟨value, expires⟩ } watch
      exact ⟨congrArg (List.cons _) hdeeds, hout⟩
  | evict key next ih =>
    obtain ⟨hdeeds, hout⟩ := ih (n + 1)
      { s.later (drift n) with cache := s.cache.delete key } watch
    exact ⟨congrArg (List.cons _) hdeeds, hout⟩
  | lap message next ih =>
    obtain ⟨hdeeds, hout⟩ := ih (n + 1)
      { s.later (drift n) with watch := s.watch.record (s.later (drift n)).now message }
      (watch.record (s.later (drift n)).now message)
    exact ⟨congrArg (List.cons _) hdeeds, hout⟩
  | note event next ih =>
    obtain ⟨hdeeds, hout⟩ := ih (n + 1)
      { s.later (drift n) with events := s.events ++ [event] } watch
    exact ⟨congrArg (List.cons _) hdeeds, hout⟩

end Follow

end Plan

/-! ## 2. The story of a request -/

/-- The number of documents on either side of one, as it is logged. -/
def foundEdges (e : Edges) : String :=
  "found " ++ toString e.citing.dedup.length ++ " outbound and " ++
    toString e.cited.dedup.length ++ " inbound edges"

/-- The number of local records, as it is logged. -/
def mappedBack (M : List Mapping) : String :=
  "mapped " ++ toString M.length ++ " dois back to ids"

/-- The amount of metadata in a response, as it is logged. -/
def fetchedBlobs (r : Response) : String :=
  "fetched " ++ toString (r.citing.length + r.cited.length) ++ " blobs"

/-- A call failed, or it was not answered in time: the step, and what becomes of the request. -/
inductive Missed : StoreCall IndexCall → StoreDeed → Verdict Resolution → Prop where
  | abandoned (c : StoreCall IndexCall) : Missed c (.abandoned c) (.answered (.error .canceled))
  | doi (id : String) (f : Failure) :
      Missed (.doiForId id) (.called (.doiForId id) (Except.error f)) (.answered (.error f))
  | edges (doi : String) (f : Failure) :
      Missed (.edges doi) (.called (.edges doi) (Except.error f)) (.answered (.error f))
  | mappings (dois : List String) (f : Failure) :
      Missed (.idsForDois dois) (.called (.idsForDois dois) (Except.error f)) (.answered (.error f))

/-- Whether a step asks for the metadata of one of some local records. -/
def Fetches (M : List Mapping) (d : StoreDeed) : Prop :=
  ∃ m ∈ M, d.call? = some (.index (.fetch m.id))

/-- The checkpoints of a request for a record, by its calls and its writes and by what becomes of
    it. -/
inductive Story (id : String) : List StoreDeed → Verdict Resolution → List String → Prop where
  | served (body : Bytes) : Story id [] (.answered (.ok (.cached body))) ["served from cache"]
  | unknown {d : StoreDeed} {v : Verdict Resolution} (missed : Missed (.doiForId id) d v) :
      Story id [d] v []
  | unconnected {doi : String} {d : StoreDeed} {v : Verdict Resolution}
      (missed : Missed (.edges doi) d v) :
      Story id [.called (.doiForId id) (Except.ok doi), d] v ["found doi"]
  | alone {doi : String} {e : Edges} (alone : e.isEmpty = true) :
      Story id [.called (.doiForId id) (Except.ok doi), .called (.edges doi) (Except.ok e)]
        (.answered (.ok (.noRelated id doi))) ["found doi", foundEdges e]
  | unmapped {doi : String} {e : Edges} {dois : List String} {d : StoreDeed}
      {v : Verdict Resolution} (missed : Missed (.idsForDois dois) d v) :
      Story id [.called (.doiForId id) (Except.ok doi), .called (.edges doi) (Except.ok e), d] v
        ["found doi", foundEdges e]
  | unfetched {doi : String} {e : Edges} {dois : List String} {M : List Mapping}
      {fetches : List StoreDeed} (f : Failure) (fetching : ∀ d ∈ fetches, Fetches M d) :
      Story id (opening id doi e dois M ++ fetches) (.answered (.error f))
        ["found doi", foundEdges e, mappedBack M, "recorded unmatched ids"]
  | delivered {doi : String} {e : Edges} {dois : List String} {M : List Mapping}
      {fetches : List StoreDeed} {r : Response} (fetching : ∀ d ∈ fetches, Fetches M d)
      (unmarked : r.extra.cached = false) :
      Story id (opening id doi e dois M ++ fetches) (.answered (.ok (.resolved r)))
        ["found doi", foundEdges e, mappedBack M, "recorded unmatched ids", fetchedBlobs r]
  | kept {doi : String} {e : Edges} {dois : List String} {M : List Mapping}
      {fetches : List StoreDeed} {r : Response} (fetching : ∀ d ∈ fetches, Fetches M d)
      (marked : r.extra.cached = true) (t expires : Instant) :
      Story id (opening id doi e dois M ++ fetches ++ [.kept t id ⟨r.write, expires⟩])
        (.answered (.ok (.resolved r)))
        ["found doi", foundEdges e, mappedBack M, "recorded unmatched ids", fetchedBlobs r,
          "encoded and cached"]

/-- The number of items of a list that differ. -/
theorem StringSet.size_ofList (xs : List String) :
    (StringSet.ofList xs).size = xs.dedup.length := by
  have hnodup : (StringSet.ofList xs).values.Nodup :=
    (StringSet.ofList xs).ascending.imp fun {a b} hlt heq => by
      rw [heq] at hlt
      exact String.lt_irrefl b hlt
  refine Nat.le_antisymm (length_le_of_mem hnodup fun x hx => ?_)
    (length_le_of_mem xs.nodup_dedup fun x hx => ?_)
  · exact List.mem_dedup.2 (StringSet.mem_ofList.1 hx)
  · exact StringSet.mem_ofList.2 (List.mem_dedup.1 hx)

section Recounts

variable {s : Settings} {u : Bool} {started : Instant} {id doi : String} {e : Edges}
  {dois : List String} {M : List Mapping} {fetches : List StoreDeed}

/-- Whether a plan that resolves a record tells its story, behind some calls and checkpoints. -/
abbrev TellsOf (id : String) (p : StorePlan (Except Failure Resolution)) (before : List StoreDeed)
    (told : List String) : Prop :=
  p.Recounts (fun acts ending told => Story id acts (Session.verdict ending) told) before told

theorem deliver_recounts {r : Response} (hid : r.id = id) (unmarked : r.extra.cached = false)
    (fetching : ∀ d ∈ fetches, Fetches M d) :
    TellsOf id (deliver s u started r) (opening id doi e dois M ++ fetches)
      ["found doi", foundEdges e, mappedBack M, "recorded unmatched ids", fetchedBlobs r] := by
  subst hid
  intro t
  simp only
  split
  · exact fun t' expires => .kept fetching rfl t' expires
  · exact .delivered fetching unmarked

/-- **Collecting metadata tells what delivering it does**, or that something failed. -/
theorem collect_recounts {next : Collected → StorePlan (Except Failure Resolution)}
    (hnext : ∀ c fetches, (∀ d ∈ fetches, Fetches M d) →
      TellsOf id (next c) (opening id doi e dois M ++ fetches)
        ["found doi", foundEdges e, mappedBack M, "recorded unmatched ids"])
    (n : Neighbourhood) (rest : List Mapping) (hrest : ∀ m ∈ rest, m ∈ M)
    (fetching : ∀ d ∈ fetches, Fetches M d) (c : Collected) :
    TellsOf id (collect n next rest c) (opening id doi e dois M ++ fetches)
      ["found doi", foundEdges e, mappedBack M, "recorded unmatched ids"] := by
  induction rest generalizing fetches c with
  | nil => exact hnext c fetches fetching
  | cons m rest ih =>
    obtain ⟨hm, hrest⟩ := List.forall_mem_cons.1 hrest
    have more : ∀ d : StoreDeed, d.call? = some (.index (.fetch m.id)) →
        ∀ d' ∈ fetches ++ [d], Fetches M d' := by
      intro d hd d' hd'
      rcases List.mem_append.1 hd' with hd' | hd'
      · exact fetching d' hd'
      · rw [List.mem_singleton.1 hd']
        exact ⟨m, hm, hd⟩
    unfold collect
    split
    · exact ⟨rfl, .unfetched _ fetching⟩
    · refine ⟨?_, fun x => ?_⟩
      · rw [List.append_assoc]
        exact .unfetched .canceled (more (.abandoned _) rfl)
      · rw [List.append_assoc]
        have fetching' := more (.called (.index (.fetch m.id)) x) rfl
        cases x with
        | error failure =>
          cases failure with
          | notFound => exact ih hrest fetching' c
          | backend => exact .unfetched _ fetching'
        | ok bytes =>
          simp only
          cases Blob.accept m.id bytes with
          | error failure => exact .unfetched failure fetching'
          | ok blob => exact ih hrest fetching' _

/-- **Resolving a record afresh tells its story.** -/
theorem fresh_recounts (s : Settings) (u : Bool) (started : Instant) (id : String) :
    TellsOf id (fresh s u started id) [] [] := by
  -- a call is abandoned, fails or is answered, and there is a story for each
  refine ⟨.unknown (.abandoned _), fun answer => ?_⟩
  cases answer with
  | error f => exact .unknown (.doi id f)
  | ok doi =>
    refine ⟨.unconnected (.abandoned _), fun answer => ?_⟩
    cases answer with
    | error f => exact .unconnected (.edges doi f)
    | ok e =>
      show TellsOf id (join s u started (.ofEdges id doi e))
        [.called (.doiForId id) (Except.ok doi), .called (.edges doi) (Except.ok e)] ["found doi"]
      have hedges : "found " ++ toString (Neighbourhood.ofEdges id doi e).outbound.size ++
          " outbound and " ++ toString (Neighbourhood.ofEdges id doi e).inbound.size ++
          " inbound edges" = foundEdges e := by
        simp only [Neighbourhood.ofEdges, StringSet.size_ofList, foundEdges]
      unfold join
      simp only [TellsOf, Recounts, hedges]
      split
      · rename_i hempty
        rw [Neighbourhood.isEmpty_related_ofEdges] at hempty
        exact .alone hempty
      · refine ⟨.unmapped (.abandoned _), fun answer => ?_⟩
        cases answer with
        | error f => exact .unmapped (.mappings _ f)
        | ok M =>
          show TellsOf id (mapped s u started (.ofEdges id doi e) M) _ _
          rw [mapped_eq]
          refine collect_recounts (fun c fetches fetching => ?_) _ M (fun _ hm => hm)
            (fun _ hd => absurd hd List.not_mem_nil) _
          exact deliver_recounts rfl rfl fetching

/-- **Resolving a record tells its story**, whether it is served from the cache or not. -/
theorem resolve_recounts (s : Settings) (u : Bool) (id : String) :
    TellsOf id (resolve s u id) [] [] := by
  intro started
  cases u with
  | false => exact fresh_recounts s false started id
  | true =>
    intro found
    cases found with
    | none => exact fresh_recounts s true started id
    | some body =>
      simp only
      split
      · exact fun t => .served _
      · exact ⟨rfl, fresh_recounts s true started id⟩

end Recounts

/-! ## 3. What a story says -/

/-- All checkpoints of a request that is not served from the cache, in order. -/
def checkpoints (e : Edges) (M : List Mapping) (r : Response) : List String :=
  ["found doi", foundEdges e, mappedBack M, "recorded unmatched ids", fetchedBlobs r,
    "encoded and cached"]

/-- **Of all checkpoints only the last one says that something was written**: no other begins with
    that letter. -/
theorem encoded_not_mem (e : Edges) (M : List Mapping) (r : Response) {messages : List String}
    (h : messages <+: (checkpoints e M r).dropLast) : "encoded and cached" ∉ messages := by
  have letters : ∀ message ∈ (checkpoints e M r).dropLast, message.toList.head? ≠ some 'e' := by
    simp [checkpoints, foundEdges, mappedBack, fetchedBlobs]
  exact fun hmem => letters _ (h.subset hmem) rfl

theorem Missed.ne_kept {c : StoreCall IndexCall} {d : StoreDeed} {v : Verdict Resolution}
    (h : Missed c d v) {t : Instant} {key : String} {e : Entry} : .kept t key e ≠ d := by
  cases h <;> exact nofun

namespace Story

variable {id : String} {acts acts' : List StoreDeed} {v v' : Verdict Resolution}
  {messages messages' : List String}

/-- **The calls, the writes and the answer of a request settle its checkpoints.** -/
theorem congr (h : Story id acts v messages) (h' : Story id acts' v' messages')
    (hacts : acts = acts') (hv : v = v') : messages = messages' := by
  -- other stories have other calls, or end in another way
  cases h with
  | served =>
    cases h' with
    | served => rfl
    | unknown | unconnected | alone | unmapped | unfetched | delivered | kept => cases hacts
  | unknown missed =>
    cases h' with
    | unknown => rfl
    | served | unconnected | alone | unmapped | unfetched | delivered | kept => cases hacts
  | unconnected missed =>
    cases h' with
    | unconnected => rfl
    | alone => cases hacts; cases missed
    | served | unknown | unmapped | unfetched | delivered | kept => cases hacts
  | alone =>
    cases h' with
    | alone => cases hacts; rfl
    | unconnected missed => cases hacts; cases missed
    | served | unknown | unmapped | unfetched | delivered | kept => cases hacts
  | unmapped missed =>
    cases h' with
    | unmapped => cases hacts; rfl
    | unfetched | delivered => cases hacts; cases missed
    | kept => cases missed <;> cases hv
    | served | unknown | unconnected | alone => cases hacts
  | unfetched =>
    cases h' with
    | unfetched => cases hacts; rfl
    | unmapped missed => cases hacts; cases missed
    | delivered | kept => cases hv
    | served | unknown | unconnected | alone => cases hacts
  | delivered _ unmarked =>
    cases h' with
    | delivered => cases hacts; cases hv; rfl
    | kept _ marked => cases hv; cases marked.symm.trans unmarked
    | unmapped missed => cases hacts; cases missed
    | unfetched => cases hv
    | served | unknown | unconnected | alone => cases hacts
  | @kept doi e dois M _ r _ marked =>
    cases h' with
    | @kept doi' e' dois' M' _ r' =>
      have hopening : opening id doi e dois M = opening id doi' e' dois' M' :=
        congrArg (List.take 3) hacts
      cases hopening
      cases hv
      rfl
    | delivered _ unmarked => cases hv; cases marked.symm.trans unmarked
    | unmapped missed => cases missed <;> cases hv
    | unfetched => cases hv
    | served | unknown | unconnected | alone => cases hacts

/-- **The checkpoints of a story are the first ones of all**, or the record was served. -/
theorem isPrefix (h : Story id acts v messages) :
    messages = ["served from cache"] ∨ ∃ e M r, messages <+: checkpoints e M r := by
  cases h with
  | served => exact .inl rfl
  | unknown => exact .inr ⟨⟨[], []⟩, [], .ofRecord "" "", List.nil_prefix⟩
  | unconnected => exact .inr ⟨⟨[], []⟩, [], .ofRecord "" "", List.prefix_append [_] _⟩
  | alone => exact .inr ⟨_, [], .ofRecord "" "", List.prefix_append [_, _] _⟩
  | unmapped => exact .inr ⟨_, [], .ofRecord "" "", List.prefix_append [_, _] _⟩
  | unfetched => exact .inr ⟨_, _, .ofRecord "" "", List.prefix_append [_, _, _, _] _⟩
  | delivered => exact .inr ⟨_, _, _, List.prefix_append [_, _, _, _, _] _⟩
  | kept => exact .inr ⟨_, _, _, List.prefix_rfl⟩

/-- Neither the calls up to the local records nor those for metadata write anything. -/
theorem unwritten {doi : String} {e : Edges} {dois : List String} {M : List Mapping}
    {fetches : List StoreDeed} (fetching : ∀ d ∈ fetches, Fetches M d) :
    ¬ ∃ t key x, .kept t key x ∈ opening id doi e dois M ++ fetches := by
  rintro ⟨t, key, x, h⟩
  rcases List.mem_append.1 h with h | h
  · simp [opening] at h
  · obtain ⟨m, -, hcall⟩ := fetching _ h
    cases hcall

/-- **The last checkpoint of all is that something was written.** -/
theorem mem_encoded_iff (h : Story id acts v messages) :
    "encoded and cached" ∈ messages ↔ ∃ t key e, .kept t key e ∈ acts := by
  cases h with
  | served => exact iff_of_false (by simp) (by simp)
  | unknown missed => exact iff_of_false (by simp) (by simp [missed.ne_kept])
  | unconnected missed => exact iff_of_false (by simp) (by simp [missed.ne_kept])
  | @alone doi e =>
    have unsaid := encoded_not_mem e [] (.ofRecord "" "") (List.prefix_append [_, _] _)
    exact iff_of_false unsaid (by simp)
  | @unmapped doi e _ _ _ missed =>
    have unsaid := encoded_not_mem e [] (.ofRecord "" "") (List.prefix_append [_, _] _)
    exact iff_of_false unsaid (by simp [missed.ne_kept])
  | @unfetched doi e _ M _ f fetching =>
    have unsaid := encoded_not_mem e M (.ofRecord "" "") (List.prefix_append [_, _, _, _] _)
    exact iff_of_false unsaid (unwritten fetching)
  | @delivered doi e _ M _ r fetching =>
    exact iff_of_false (encoded_not_mem e M r List.prefix_rfl) (unwritten fetching)
  | kept fetching marked t expires =>
    exact iff_of_true (by simp) ⟨t, id, _, List.mem_append_right _ (List.mem_singleton_self _)⟩

end Story

/-! ## 4. Requests -/

namespace Session

variable {σ : Type} (w : World (StoreCall IndexCall) (StoreCall.Answer IndexCall.Answer) σ)
  (drift : Nat → Duration) (S : Session σ) (id : String)

/-- A service that does not report checkpoints. -/
def muted (S : Session σ) : Session σ :=
  { S with service := { S.service with
      settings := { S.service.settings with stopwatch := false } } }

/-- The steps of a request tell its story, but for those that break it off. -/
theorem deeds_recount :
    Event.lines (notes (S.deeds w drift id)) = [] ∧
    ((S.resolve (.drifting w drift) id).1 ≠ .clockOverflow →
      Story id (acts (S.deeds w drift id)) (S.resolve (.drifting w drift) id).1
        ((laps (S.deeds w drift id)).map Lap.message)) := by
  obtain ⟨hnotes, hstory⟩ := (resolve_recounts S.service.settings S.service.useCache id).drifting w
    (some S.deadline) drift 0 S.scene
  refine ⟨hnotes, fun unbroken => hstory fun hend => unbroken ?_⟩
  exact verdict_eq_clockOverflow.2 hend

/-- The lines of a request are those of the checkpoints that its steps reach, unless it is broken
    off. -/
theorem lines_resolve (unbroken : (S.resolve (.drifting w drift) id).1 ≠ .clockOverflow) :
    Event.lines (S.resolve (.drifting w drift) id).2.2 =
      Event.lines (S.reported id (S.deeds w drift id)) := by
  have hend : (S.followed w (some S.deadline) drift id).1 ≠ .overflowed :=
    fun hend => unbroken (verdict_eq_clockOverflow.2 hend)
  rw [S.resolve_events w drift id hend, Event.lines_append, (S.deeds_recount w drift id).1,
    List.nil_append]

/-- A request that is broken off logs what its steps note. -/
theorem resolve_events_overflowed (broken : (S.resolve (.drifting w drift) id).1 = .clockOverflow) :
    (S.resolve (.drifting w drift) id).2.2 = notes (S.deeds w drift id) := by
  have hend : (S.followed w (some S.deadline) drift id).1 = .overflowed :=
    verdict_eq_clockOverflow.1 broken
  have left : Leaves (S.deeds w drift id) S.scene (S.followed w (some S.deadline) drift id).2 :=
    drifting_leaves w _ drift 0 _ _
  rw [resolve_eq, conclude, hend, List.append_nil, left.events]
  rfl

/-- Whether checkpoints are reported has no say in how a request goes. -/
theorem followed_muted : S.muted.deeds w drift id = S.deeds w drift id ∧
    ∃ watch, S.muted.followed w (some S.muted.deadline) drift id =
      ((S.followed w (some S.deadline) drift id).1,
        { (S.followed w (some S.deadline) drift id).2 with watch }) :=
  drifting_rewatched w (some S.deadline) drift 0
    (CitationFusion.resolve S.service.settings S.service.useCache id) S.scene (.start false S.now)

/-- **A service that does not report checkpoints does as one that does**, and logs what its steps
    note. -/
theorem resolve_muted :
    S.muted.resolve (.drifting w drift) id =
      ((S.resolve (.drifting w drift) id).1, (S.resolve (.drifting w drift) id).2.1.muted,
        notes (S.deeds w drift id)) := by
  obtain ⟨hdeeds, watch, hout⟩ := S.followed_muted w drift id
  have hlog : (S.muted.resolve (.drifting w drift) id).2.2 = notes (S.muted.deeds w drift id) := by
    by_cases hend : (S.muted.resolve (.drifting w drift) id).1 = .clockOverflow
    · exact resolve_events_overflowed w drift S.muted id hend
    · rw [resolve_events w drift S.muted id fun h => hend (verdict_eq_clockOverflow.2 h)]
      exact List.append_nil _
  rw [hdeeds] at hlog
  rw [← hlog, resolve_eq, resolve_eq, hout]
  rfl

/-- What a request logs beside checkpoints is what its steps note. -/
theorem unlined_resolve :
    Event.unlined (S.resolve (.drifting w drift) id).2.2 = notes (S.deeds w drift id) := by
  have hnotes := Event.unlined_eq_self (S.deeds_recount w drift id).1
  by_cases hend : (S.resolve (.drifting w drift) id).1 = .clockOverflow
  · rw [S.resolve_events_overflowed w drift id hend, hnotes]
  · rw [S.resolve_events w drift id fun h => hend (verdict_eq_clockOverflow.2 h),
      Event.unlined_append, hnotes, reported,
      Event.unlined_eq_nil fun _ => Stopwatch.line_of_mem_events, List.append_nil]

end Session

/-- **The log of a request tells its story.** If checkpoints are reported, its lines are those of
    the checkpoints that its calls, its writes and its answer settle: that the record was served
    from the cache, or the first ones of all; the last one of all is logged if and only if something
    was written; and each gives the times since the request began and since the line before, at
    which its step reached the checkpoint. A request that is broken off logs none. The lines are
    numbered, and their times do not decrease and add up. If checkpoints are not reported, there are
    no lines, and all else is as if they were. -/
theorem Session.resolve_journal {σ : Type}
    (w : World (StoreCall IndexCall) (StoreCall.Answer IndexCall.Answer) σ)
    (drift : Nat → Duration) (S : Session σ) (id : String) :
    let out := S.resolve (.drifting w drift) id
    let ds := S.deeds w drift id
    let log := Event.lines out.2.2
    let messages := log.map Line.message
    let muted := S.muted.resolve (.drifting w drift) id
    (S.service.settings.stopwatch = true →
      (out.1 = .clockOverflow ∧ messages = []) ∨
      (out.1 ≠ .clockOverflow ∧ Story id (acts ds) out.1 messages ∧
        (∀ others, Story id (acts ds) out.1 others → others = messages) ∧
        (messages = ["served from cache"] ∨ ∃ e M r, messages <+: checkpoints e M r) ∧
        ("encoded and cached" ∈ messages ↔ ∃ t key e, .kept t key e ∈ ds) ∧
        Clocked S.now S.now (laps ds) log)) ∧
    Faithful id 0 0 log ∧
    muted.1 = out.1 ∧ muted.2.1 = out.2.1.muted ∧ muted.2.2 = Event.unlined out.2.2 ∧
    Event.lines muted.2.2 = [] := by
  intro out ds log messages muted
  obtain ⟨hnotes, hstory⟩ := S.deeds_recount w drift id
  have hmuted : muted = (out.1, out.2.1.muted, notes ds) := S.resolve_muted w drift id
  have broken : out.1 = .clockOverflow → log = [] := by
    intro hend
    show Event.lines out.2.2 = []
    rw [S.resolve_events_overflowed w drift id hend]
    exact hnotes
  have unbroken : out.1 ≠ .clockOverflow → log = Event.lines (S.reported id ds) :=
    S.lines_resolve w drift id
  have told : S.service.settings.stopwatch = true → out.1 ≠ .clockOverflow →
      Story id (acts ds) out.1 messages := by
    intro watches hend
    have hmessages : messages = (laps ds).map Lap.message := by
      show log.map Line.message = _
      rw [unbroken hend, reported, Event.messages_lines fun _ => Stopwatch.line_of_mem_events,
        Stopwatch.messages_events]
      exact if_pos watches
    rw [hmessages]
    exact hstory hend
  have faithful : Faithful id 0 0 log := by
    by_cases hend : out.1 = .clockOverflow
    · rw [broken hend]
      exact faithful_nil
    · rw [unbroken hend]
      exact Stopwatch.faithful_events (deeds_inOrder w _ drift 0 _ S.scene) id
  refine ⟨fun watches => ?_, faithful, ?_⟩
  · by_cases hend : out.1 = .clockOverflow
    · exact .inl ⟨hend, congrArg (List.map Line.message) (broken hend)⟩
    · have story := told watches hend
      have written : "encoded and cached" ∈ messages ↔ ∃ t key e, .kept t key e ∈ ds := by
        rw [story.mem_encoded_iff]
        simp only [kept_mem_acts]
      have clocked : Clocked S.now S.now (laps ds) log := by
        rw [unbroken hend]
        exact Stopwatch.clocked_events (v := ⟨_, S.now, laps ds⟩) watches id
      exact .inr ⟨hend, story, fun _ other => other.congr story rfl rfl, story.isPrefix, written,
        clocked⟩
  · rw [hmuted]
    exact ⟨rfl, rfl, (S.unlined_resolve w drift id).symm, hnotes⟩

end CitationFusion
