import CitationFusion.Proofs.Deeds
import CitationFusion.Service
import Mathlib.Algebra.GroupWithZero.Nat

/-!
# Groups of index data stores are flat

However groups are put into groups, what counts is the list of the single stores in them: a call on
a group is the same plan of calls as on the flat group of these stores.

* `Fetcher.leaves` : the single stores of a fetcher, in order.
* `consult` : stores are asked the same in order, as long as their answers pass.
* `fetch_bind`, `ping_bind`, `count_bind` : what a fetcher does before something else is to consult
  its leaves.
* `Consulted`, `consult_consulted` : what is asked and answered when such a plan is followed.
* `Fetcher.group_flat` : a group is as good as the flat one, and what either of them does.
-/

namespace CitationFusion

namespace Plan

variable {C : Type} {A : C → Type} {α β γ : Type}

/-- Going on twice is going on with what goes on. -/
theorem bind_assoc (p : Plan C A α) (f : α → Plan C A β) (g : β → Plan C A γ) :
    (p.bind f).bind g = p.bind fun a => (f a).bind g := by
  induction p with
  | done a => rfl
  | call c next ih => exact congrArg (call c) (funext ih)
  | clock next ih => exact congrArg clock (funext ih)
  | lookup key next ih => exact congrArg (lookup key) (funext ih)
  | store key value ttl next ih => exact congrArg (store key value ttl) ih
  | evict key next ih => exact congrArg (evict key) ih
  | lap message next ih => exact congrArg (lap message) ih
  | note event next ih => exact congrArg (note event) ih

end Plan

namespace Fetcher

variable {L α : Type}

/-! ## 1. Leaves -/

mutual

/-- The single stores of a fetcher, in order. -/
def leaves : Fetcher L → List L
  | .leaf l => [l]
  | .group members => leavesOfAll members

/-- The single stores of some fetchers, in order. -/
def leavesOfAll : List (Fetcher L) → List L
  | [] => []
  | m :: rest => leaves m ++ leavesOfAll rest

end

/-- The group of the single stores of a fetcher. -/
def flat (f : Fetcher L) : Fetcher L := .group (f.leaves.map .leaf)

theorem leavesOfAll_leaf (stores : List L) : leavesOfAll (stores.map Fetcher.leaf) = stores := by
  induction stores with
  | nil => rfl
  | cons store stores ih => exact congrArg (store :: ·) ih

theorem leaves_flat (f : Fetcher L) : f.flat.leaves = f.leaves := leavesOfAll_leaf f.leaves

mutual

/-- **A fetcher can do what some single store in it can do.** -/
theorem abilities_eq (of : L → Abilities) : ∀ f : Fetcher L,
    f.abilities of = ⟨f.leaves.any fun l => (of l).pings, f.leaves.any fun l => (of l).counts⟩
  | .leaf l => by simp [abilities, leaves]
  | .group members => abilitiesOfAny_eq of members

/-- So can some fetchers together. -/
theorem abilitiesOfAny_eq (of : L → Abilities) : ∀ members : List (Fetcher L),
    abilitiesOfAny of members =
      ⟨(leavesOfAll members).any fun l => (of l).pings,
        (leavesOfAll members).any fun l => (of l).counts⟩
  | [] => rfl
  | m :: rest => by
    simp only [abilitiesOfAny, leavesOfAll, List.any_append, abilities_eq of m,
      abilitiesOfAny_eq of rest]

end

/-! ## 2. Consulting stores in order -/

section Consult

variable {A : Type}

/-- Goes on with an answer that passes; any other is the answer. -/
def onward (passes : A → Bool) (next : A → LeafPlan L A) (x : A) : LeafPlan L A :=
  if passes x then next x else .done x

/-- Where one plan goes on, the next one does. -/
theorem onward_bind (passes : A → Bool) (f g : A → LeafPlan L A) (p : LeafPlan L A) :
    (p.bind (onward passes f)).bind (onward passes g) =
      p.bind (onward passes fun x => (f x).bind (onward passes g)) := by
  rw [Plan.bind_assoc]
  congr 1
  funext x
  by_cases h : passes x = true
  · simp only [onward, h, if_true]
  · simp only [onward, h, if_false, Plan.bind, Bool.false_eq_true]

end Consult

/-- Asks stores the same in order, as long as their answers pass, and goes on with those. The first
    answer that does not pass is the answer. -/
def consult (call : IndexCall) (passes : call.Answer → Bool) :
    List L → (List call.Answer → LeafPlan L call.Answer) → LeafPlan L call.Answer
  | [], next => next []
  | l :: rest, next =>
    .call (.index (l, call))
      (onward passes fun x => consult call passes rest fun xs => next (x :: xs))

/-- To consult two lists of stores is to consult the one and then the other. -/
theorem consult_append (call : IndexCall) (passes : call.Answer → Bool) (ls ls' : List L)
    (next : List call.Answer → LeafPlan L call.Answer) :
    consult call passes (ls ++ ls') next =
      consult call passes ls fun xs => consult call passes ls' fun ys => next (xs ++ ys) := by
  induction ls generalizing next with
  | nil => rfl
  | cons l ls ih =>
    simp only [List.cons_append, consult, ih]

/-! ## 3. What a fetcher does is to consult its leaves -/

/-- Whether an answer is that there is no metadata. -/
def misses : Except FetchFailure Bytes → Bool
  | .error failure => failure.isNotFound
  | .ok _ => false

theorem fetchFirst_cons (id : String) (m : Fetcher L) (rest : List (Fetcher L)) :
    fetchFirst id (m :: rest) = (m.fetch id).bind (onward misses fun _ => fetchFirst id rest) := by
  rw [fetchFirst]
  congr 1
  funext x
  rcases x with (_ | _) | _ <;> rfl

mutual

/-- **Fetching goes through the leaves**, up to the first that has an answer. -/
theorem fetch_bind (id : String) : ∀ (f : Fetcher L) (next : LeafPlan L _),
    (f.fetch id).bind (onward misses fun _ => next) =
      consult (.fetch id) misses f.leaves fun _ => next
  | .leaf _, _ => rfl
  | .group members, next => fetchFirst_bind id members next

theorem fetchFirst_bind (id : String) : ∀ (members : List (Fetcher L)) (next : LeafPlan L _),
    (fetchFirst id members).bind (onward misses fun _ => next) =
      consult (.fetch id) misses (leavesOfAll members) fun _ => next
  | [], _ => rfl
  | m :: rest, next => by
    rw [fetchFirst_cons, onward_bind, fetchFirst_bind id rest, fetch_bind id m, leavesOfAll,
      consult_append]

end

/-- **A group has no metadata if none of its stores has any.** -/
theorem fetch_group (id : String) (members : List (Fetcher L)) :
    (group members).fetch id =
      consult (.fetch id) misses (group members).leaves fun _ => .done (.error (.notFound id)) := by
  show fetchFirst id members = consult (.fetch id) misses (leavesOfAll members) _
  induction members with
  | nil => rfl
  | cons m rest ih => rw [fetchFirst_cons, ih, fetch_bind, leavesOfAll, consult_append]

/-- Whether an answer is no failure. -/
def succeeds {α : Type} : Except Failure α → Bool
  | .error _ => false
  | .ok _ => true

/-- The stores of a fetcher that can be pinged. -/
def pingers (of : L → Abilities) (f : Fetcher L) : List L := f.leaves.filter fun l => (of l).pings

theorem pingers_cons (of : L → Abilities) (m : Fetcher L) (rest : List (Fetcher L)) :
    (group (m :: rest)).pingers of = m.pingers of ++ (group rest).pingers of :=
  List.filter_append _ _

theorem pingAll_cons (of : L → Abilities) (m : Fetcher L) (rest : List (Fetcher L)) :
    pingAll of (m :: rest) = (m.ping of).bind (onward succeeds fun _ => pingAll of rest) := by
  rw [pingAll]
  congr 1
  funext x
  rcases x with _ | _ <;> rfl

mutual

/-- **Pinging goes through the leaves that can be pinged**, up to the first that fails. -/
theorem ping_bind (of : L → Abilities) : ∀ (f : Fetcher L) (next : LeafPlan L _),
    (f.ping of).bind (onward succeeds fun _ => next) =
      consult .ping succeeds (f.pingers of) fun _ => next
  | .leaf l, next => by
    cases h : (of l).pings with
    | true =>
      simp only [ping, pingers, leaves, h, List.filter, if_true]
      rfl
    | false => simp [ping, pingers, leaves, h, Plan.bind, consult, onward, succeeds]
  | .group members, next => pingAll_bind of members next

theorem pingAll_bind (of : L → Abilities) : ∀ (members : List (Fetcher L)) (next : LeafPlan L _),
    (pingAll of members).bind (onward succeeds fun _ => next) =
      consult .ping succeeds ((group members).pingers of) fun _ => next
  | [], _ => rfl
  | m :: rest, next => by
    rw [pingAll_cons, onward_bind, pingAll_bind of rest, ping_bind of m, pingers_cons,
      consult_append]

end

/-- **A group is well if all of its stores are that can be pinged.** -/
theorem ping_group (of : L → Abilities) (members : List (Fetcher L)) :
    (group members).ping of =
      consult .ping succeeds ((group members).pingers of) fun _ => .done (.ok ()) := by
  show pingAll of members = _
  induction members with
  | nil => rfl
  | cons m rest ih => rw [pingAll_cons, ih, ping_bind, pingers_cons, consult_append]

/-- The number of records that a store answered. -/
def number : Except Failure Nat → Nat
  | .error _ => 0
  | .ok n => n

/-- The number of records that stores answered together. -/
def sum (xs : List (Except Failure Nat)) : Nat := (xs.map number).sum

theorem sum_append (xs ys : List (Except Failure Nat)) : sum (xs ++ ys) = sum xs + sum ys := by
  simp [sum]

/-- The stores of a fetcher that can count. -/
def counters (of : L → Abilities) (f : Fetcher L) : List L :=
  f.leaves.filter fun l => (of l).counts

theorem counters_cons (of : L → Abilities) (m : Fetcher L) (rest : List (Fetcher L)) :
    (group (m :: rest)).counters of = m.counters of ++ (group rest).counters of :=
  List.filter_append _ _

theorem countAll_cons (of : L → Abilities) (total : Nat) (m : Fetcher L)
    (rest : List (Fetcher L)) :
    countAll of total (m :: rest) =
      (m.count of).bind
        (onward succeeds fun x => countAll of (min (total + number x) countLimit) rest) := by
  rw [countAll]
  congr 1
  funext x
  rcases x with _ | _ <;> rfl

/-- Groups within a group cut their number at the limit, which makes no difference behind them. -/
theorem min_add_min (total n : Nat) :
    min (total + min n countLimit) countLimit = min (total + n) countLimit := by omega

mutual

/-- **Counting goes through the leaves that can count**, up to the first that fails, if what follows
    does not depend on how far their number is past the limit. -/
theorem count_bind (of : L → Abilities) : ∀ (f : Fetcher L) (next : Nat → LeafPlan L _),
    (∀ n, next (min n countLimit) = next n) →
    (f.count of).bind (onward succeeds fun x => next (number x)) =
      consult .count succeeds (f.counters of) fun xs => next (sum xs)
  | .leaf l, next, _ => by
    cases h : (of l).counts with
    | true =>
      simp only [count, counters, leaves, h, List.filter, if_true, consult, sum, List.map_cons,
        List.map_nil, List.sum_singleton]
      rfl
    | false => simp [count, counters, leaves, h, Plan.bind, consult, onward, succeeds, number, sum]
  | .group members, next, limited => by
    show (countAll of 0 members).bind _ = _
    rw [countAll_bind of members 0 next limited]
    simp only [Nat.zero_add]

theorem countAll_bind (of : L → Abilities) : ∀ (members : List (Fetcher L)) (total : Nat)
    (next : Nat → LeafPlan L _), (∀ n, next (min n countLimit) = next n) →
    (countAll of total members).bind (onward succeeds fun x => next (number x)) =
      consult .count succeeds ((group members).counters of) fun xs => next (total + sum xs)
  | [], total, next, _ => rfl
  | m :: rest, total, next, limited => by
    rw [countAll_cons, onward_bind,
      count_bind of m (fun n => (countAll of (min (total + n) countLimit) rest).bind _)]
    · rw [counters_cons, consult_append]
      congr 1
      funext xs
      rw [countAll_bind of rest _ next limited]
      congr 1
      funext ys
      rw [← limited, ← limited (total + sum (xs ++ ys)), sum_append]
      congr 1
      omega
    · intro n
      simp only [min_add_min]

end

/-- **A group has as many records as its stores together that can count**, up to the limit. -/
theorem count_group (of : L → Abilities) (members : List (Fetcher L)) :
    (group members).count of =
      consult .count succeeds ((group members).counters of)
        fun xs => .done (.ok (min (sum xs) countLimit)) := by
  -- for any total so far; that groups within it are cut at the limit too changes no sum
  have hall : ∀ total ≤ countLimit, countAll of total members =
      consult .count succeeds ((group members).counters of)
        fun xs => .done (.ok (min (total + sum xs) countLimit)) := by
    induction members with
    | nil =>
      intro total htotal
      have hmin : min (total + sum []) countLimit = total := Nat.min_eq_left htotal
      simp only [counters, leaves, leavesOfAll, List.filter_nil, consult, hmin, countAll]
    | cons m rest ih =>
      intro total _
      rw [countAll_cons, count_bind of m fun n => countAll of (min (total + n) countLimit) rest]
      · rw [counters_cons, consult_append]
        congr 1
        funext xs
        rw [ih _ (Nat.min_le_right _ _)]
        congr 1
        funext ys
        rw [sum_append]
        congr 2
        omega
      · intro n
        simp only [min_add_min]
  have hzero := hall 0 (Nat.zero_le _)
  simp only [Nat.zero_add] at hzero
  exact hzero

/-! ## 4. What is asked and answered -/

/-- A step of a plan in which every index data store is called by itself. -/
abbrev LeafDeed (L : Type) : Type := Plan.Deed (LeafCall L) (LeafAnswer L)

/-- The steps in which stores were asked the same, one after the other, with their answers. -/
def asked (call : IndexCall) (ls : List L) (xs : List call.Answer) : List (LeafDeed L) :=
  List.zipWith (fun l x => .called (.index (l, call)) x) ls xs

/-- How stores are asked the same in order: all of them, if every answer passes, and then the answer
    is made of theirs; or up to the first whose answer does not pass, and then that is the answer,
    unchanged; or up to the one that is cut off. -/
inductive Consulted (call : IndexCall) (passes : call.Answer → Bool)
    (total : List call.Answer → call.Answer) :
    List L → List (LeafDeed L) → Plan.Ending call.Answer → Prop where
  | passed {ls : List L} (xs : List call.Answer) (each : xs.length = ls.length)
      (pass : ∀ x ∈ xs, passes x = true) :
      Consulted call passes total ls (asked call ls xs) (.finished (total xs))
  | stopped (front : List L) (l : L) (rest : List L) (xs : List call.Answer) {x : call.Answer}
      (each : xs.length = front.length) (pass : ∀ x ∈ xs, passes x = true)
      (stop : passes x = false) :
      Consulted call passes total (front ++ l :: rest)
        (asked call front xs ++ [.called (.index (l, call)) x]) (.finished x)
  | abandoned (front : List L) (l : L) (rest : List L) (xs : List call.Answer)
      (each : xs.length = front.length) (pass : ∀ x ∈ xs, passes x = true) :
      Consulted call passes total (front ++ l :: rest)
        (asked call front xs ++ [.abandoned (.index (l, call))]) .cutOff

section Consulted

variable {call : IndexCall} {passes : call.Answer → Bool}
  {total : List call.Answer → call.Answer} {ls : List L} {l : L} {ds : List (LeafDeed L)}
  {ending : Plan.Ending call.Answer} {x : call.Answer}

/-- A store whose answer passes goes before the others. -/
theorem Consulted.cons (hx : passes x = true)
    (h : Consulted call passes (fun xs => total (x :: xs)) ls ds ending) :
    Consulted call passes total (l :: ls) (.called (.index (l, call)) x :: ds) ending := by
  have pass : ∀ xs : List call.Answer, (∀ y ∈ xs, passes y = true) →
      ∀ y ∈ x :: xs, passes y = true :=
    fun xs hxs => List.forall_mem_cons.2 ⟨hx, hxs⟩
  cases h with
  | passed xs each hxs => exact .passed (x :: xs) (congrArg (· + 1) each) (pass xs hxs)
  | stopped front l' rest xs each hxs stop =>
    exact .stopped (l :: front) l' rest (x :: xs) (congrArg (· + 1) each) (pass xs hxs) stop
  | abandoned front l' rest xs each hxs =>
    exact .abandoned (l :: front) l' rest (x :: xs) (congrArg (· + 1) each) (pass xs hxs)

/-- **Who consults stores asks them in order**, whoever answers and whenever time runs out. -/
theorem consult_consulted {σ : Type} (ls : List L) (total : List call.Answer → call.Answer)
    (w : Plan.World (LeafCall L) (LeafAnswer L) σ) (deadline : Option Instant)
    (drift : Nat → Duration) (n : Nat) (s : Plan.Scene σ) :
    let p := consult call passes ls fun xs => .done (total xs)
    Consulted call passes total ls (p.deeds w deadline drift n s)
      (p.drifting w deadline drift n s).1 := by
  induction ls generalizing total n s with
  | nil => exact .passed [] rfl (by simp)
  | cons l ls ih =>
    intro p
    show Consulted call passes total (l :: ls) (Plan.deeds _ _ _ n (.call _ _) s)
      (Plan.drifting _ _ _ n (.call _ _) s).1
    rw [Plan.deeds_call, Plan.drifting_call]
    cases Plan.arrival deadline (s.later (drift n)).now
      (w.respond s.world (.index (l, call))).2.takes with
    | none => exact .abandoned [] l ls [] rfl (by simp)
    | some now =>
      simp only [onward]
      by_cases hx : passes (w.respond s.world (.index (l, call))).2.answer = true
      · rw [if_pos hx]
        exact .cons hx (ih _ _ _)
      · rw [if_neg hx]
        exact .stopped [] l ls [] rfl (by simp) (by simpa using hx)

/-- **What passes is answered only by all of them**: each of them was asked and had an answer that
    passes. -/
theorem Consulted.passing (h : Consulted call passes total ls ds (.finished x))
    (hx : passes x = true) :
    ∃ xs, xs.length = ls.length ∧ (∀ y ∈ xs, passes y = true) ∧ ds = asked call ls xs ∧
      x = total xs := by
  cases h with
  | passed xs each pass => exact ⟨xs, each, pass, rfl, rfl⟩
  | stopped _ _ _ _ _ _ stop =>
    rw [stop] at hx
    cases hx

/-- Only what succeeded was answered with nothing. -/
theorem asked_ping {xs : List (Except Failure Unit)} (each : xs.length = ls.length)
    (pass : ∀ x ∈ xs, succeeds x = true) :
    asked .ping ls xs = ls.map fun l => .called (.index (l, .ping)) (Except.ok ()) := by
  induction ls generalizing xs with
  | nil => rfl
  | cons l ls ih =>
    cases xs with
    | nil => cases each
    | cons x xs =>
      obtain ⟨hx, hxs⟩ := List.forall_mem_cons.1 pass
      cases x with
      | error f => cases hx
      | ok u => exact congrArg (_ :: ·) (ih (Nat.succ.inj each) hxs)

/-- **All is well if and only if all stores said so.** -/
theorem Consulted.ping_iff {ending : Plan.Ending (IndexCall.Answer .ping)}
    (h : Consulted .ping succeeds (fun _ => .ok ()) ls ds ending) :
    ending = .finished (.ok ()) ↔
      ds = ls.map fun l => .called (.index (l, .ping)) (Except.ok ()) := by
  constructor
  · rintro rfl
    obtain ⟨xs, each, pass, rfl, -⟩ := h.passing rfl
    exact asked_ping each pass
  · intro hds
    cases h with
    | passed => rfl
    | @stopped front l rest xs x each pass stop =>
      have hlast : (.called (.index (l, .ping)) x : LeafDeed L) ∈
          asked .ping front xs ++ [.called (.index (l, .ping)) x] := by simp
      rw [hds] at hlast
      obtain ⟨l', -, hl'⟩ := List.mem_map.1 hlast
      cases hl'
      cases stop
    | abandoned front l rest xs each pass =>
      have hlast : (.abandoned (.index (l, .ping)) : LeafDeed L) ∈
          asked .ping front xs ++ [.abandoned (.index (l, .ping))] := by simp
      rw [hds] at hlast
      obtain ⟨l', -, hl'⟩ := List.mem_map.1 hlast
      cases hl'

end Consulted

/-! ## 5. Groups -/

/-- **A group is as good as the flat group of its single stores**, however groups are put into
    groups: what is asked of it becomes the same plan of calls, and it can do what some store of it
    can do. Metadata is fetched from its stores in order, up to the first that has an answer, found
    or failed, and there is none only if no store has any; the stores that can be pinged are pinged
    in order, and all is well if they are; the stores that can count are asked in order, and their
    numbers are added and cut at the limit. -/
theorem group_flat (of : L → Abilities) (members : List (Fetcher L)) :
    let g : Fetcher L := .group members
    (∀ call, g.answer of call = g.flat.answer of call) ∧
    g.abilities of = g.flat.abilities of ∧
    ((g.abilities of).pings = true ↔ ∃ l ∈ g.leaves, (of l).pings = true) ∧
    ((g.abilities of).counts = true ↔ ∃ l ∈ g.leaves, (of l).counts = true) ∧
    ∀ {σ : Type} (w : Plan.World (LeafCall L) (LeafAnswer L) σ) (deadline : Option Instant)
      (drift : Nat → Duration) (n : Nat) (s : Plan.Scene σ),
      (∀ id, Consulted (.fetch id) misses (fun _ => .error (.notFound id)) g.leaves
        ((g.fetch id).deeds w deadline drift n s) ((g.fetch id).drifting w deadline drift n s).1) ∧
      (∀ id key, ((g.fetch id).drifting w deadline drift n s).1 =
          .finished (.error (.notFound key)) →
        key = id ∧ ∃ xs, xs.length = g.leaves.length ∧ (∀ x ∈ xs, misses x = true) ∧
          (g.fetch id).deeds w deadline drift n s = asked (.fetch id) g.leaves xs) ∧
      Consulted .ping succeeds (fun _ => .ok ()) (g.pingers of)
        ((g.ping of).deeds w deadline drift n s) ((g.ping of).drifting w deadline drift n s).1 ∧
      (((g.ping of).drifting w deadline drift n s).1 = .finished (.ok ()) ↔
        (g.ping of).deeds w deadline drift n s =
          (g.pingers of).map fun l => .called (.index (l, .ping)) (Except.ok ())) ∧
      Consulted .count succeeds (fun xs => .ok (min (sum xs) countLimit)) (g.counters of)
        ((g.count of).deeds w deadline drift n s)
        ((g.count of).drifting w deadline drift n s).1 := by
  intro g
  have hleaves : g.flat.leaves = g.leaves := leaves_flat g
  -- what is asked of a group depends on its leaves only, and flattening keeps these
  have flattened : ∀ call, g.answer of call = g.flat.answer of call := by
    intro call
    cases call with
    | fetch id =>
      show g.fetch id = g.flat.fetch id
      rw [flat, fetch_group, fetch_group, ← flat, hleaves]
    | ping =>
      show g.ping of = g.flat.ping of
      rw [flat, ping_group, ping_group, ← flat, pingers, pingers, hleaves]
    | count =>
      show g.count of = g.flat.count of
      rw [flat, count_group, count_group, ← flat, counters, counters, hleaves]
  have able : g.abilities of = g.flat.abilities of := by
    rw [abilities_eq, abilities_eq, hleaves]
  refine ⟨flattened, able, ?_, ?_, fun w deadline drift n s => ?_⟩
  · rw [abilities_eq, List.any_eq_true]
  · rw [abilities_eq, List.any_eq_true]
  have fetched : ∀ id, Consulted (.fetch id) misses (fun _ => .error (.notFound id)) g.leaves
      ((g.fetch id).deeds w deadline drift n s) ((g.fetch id).drifting w deadline drift n s).1 := by
    intro id
    rw [show g.fetch id = _ from fetch_group id members]
    exact consult_consulted _ _ w deadline drift n s
  have pinged : Consulted .ping succeeds (fun _ => .ok ()) (g.pingers of)
      ((g.ping of).deeds w deadline drift n s) ((g.ping of).drifting w deadline drift n s).1 := by
    rw [show g.ping of = _ from ping_group of members]
    exact consult_consulted _ _ w deadline drift n s
  have counted : Consulted .count succeeds (fun xs => .ok (min (sum xs) countLimit))
      (g.counters of) ((g.count of).deeds w deadline drift n s)
      ((g.count of).drifting w deadline drift n s).1 := by
    rw [show g.count of = _ from count_group of members]
    exact consult_consulted _ _ w deadline drift n s
  refine ⟨fetched, fun id key hend => ?_, pinged, pinged.ping_iff, counted⟩
  have hmissing := fetched id
  rw [hend] at hmissing
  obtain ⟨xs, each, missing, hds, htotal⟩ := hmissing.passing rfl
  cases htotal
  exact ⟨rfl, xs, each, missing, hds⟩

end Fetcher

end CitationFusion
