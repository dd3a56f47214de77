import CitationFusion.Proofs.Cache
import CitationFusion.Proofs.Clock
import Mathlib.Data.List.Perm.Basic
import Mathlib.Logic.Function.Basic

/-!
# A map whose entries live for a while

A cache is called again and again as the clock goes on. What it answers is what a map answers in
which every text has the end of its life beside it: when the dead are removed does not matter.

* `Cache.Call`, `Cache.after` : the calls on a cache, and what they leave behind.
* `Cache.record` : the map that the same calls write.
* `Call.agree`, `after_agree` : as far as entries live, every call leaves cache and map alike, and
  so does every run.
* `Cache.after_refines` : what a cache answers after any calls.
-/

namespace CitationFusion.Cache

/-! ## 1. Calls -/

/-- What may be asked of a cache. -/
inductive Request where
  | set (key : String) (value : Bytes) (ttl : Duration)
  | get (key : String)
  | delete (key : String)
  | flush
  | sweep
  | size
  deriving DecidableEq, Repr

/-- Whether a request puts or removes what stands under a key. -/
def Request.affects (key : String) : Request → Bool
  | .set key' _ _ | .delete key' => key == key'
  | .flush => true
  | .get _ | .sweep | .size => false

/-- Whether a request puts or removes anything at all. The others look, or remove the dead. -/
def Request.writes : Request → Bool
  | .set _ _ _ | .delete _ | .flush => true
  | .get _ | .sweep | .size => false

/-- A request, and when it is made. -/
structure Call where
  now : Instant
  request : Request
  deriving DecidableEq, Repr

/-- The cache after a call; `none` when the clock cannot express when an entry expires. -/
def Call.on : Call → Cache → Option Cache
  | ⟨now, .set key value ttl⟩, c => c.set? now key value ttl
  | ⟨now, .get key⟩, c => some (c.get now key).2
  | ⟨_, .delete key⟩, c => some (c.delete key)
  | ⟨_, .flush⟩, _ => some .empty
  | ⟨now, .sweep⟩, c => some (c.sweep now).2
  | ⟨_, .size⟩, c => some c

/-- The cache after some calls, one after the other. -/
def after (c : Cache) : List Call → Option Cache
  | [] => some c
  | call :: rest => (call.on c).bind fun c' => c'.after rest

/-- Whether the clock can express when what a call puts expires. -/
def Call.Fits (call : Call) : Prop :=
  ∀ key value ttl, call.request = .set key value ttl → call.now.add? ttl ≠ none

/-- Whether calls are made as the clock goes on, and it can express every end. -/
structure Regular (calls : List Call) : Prop where
  ordered : calls.Pairwise fun a b => a.now.nanos ≤ b.now.nanos
  fits : ∀ call ∈ calls, call.Fits

/-- Whether the last of some calls that affects a key put a text there that is alive. -/
def Lives (calls : List Call) (now : Instant) (key : String) (value : Bytes) : Prop :=
  ∃ before t ttl later, calls = before ++ ⟨t, .set key value ttl⟩ :: later ∧
    (∀ call ∈ later, call.request.affects key = false) ∧ now.nanos < t.nanos + ttl.nanos

/-! ## 2. The map -/

/-- A map after a call. -/
def Call.update : Call → (String → Option Entry) → String → Option Entry
  | ⟨now, .set key value ttl⟩, m => Function.update m key (some ⟨value, now.advance ttl⟩)
  | ⟨_, .delete key⟩, m => Function.update m key none
  | ⟨_, .flush⟩, _ => fun _ => none
  | ⟨_, .get _⟩, m | ⟨_, .sweep⟩, m | ⟨_, .size⟩, m => m

/-- A map after some calls. -/
def record (m : String → Option Entry) : List Call → String → Option Entry
  | [] => m
  | call :: rest => record (call.update m) rest

variable {c c' : Cache} {m : String → Option Entry} {call : Call} {calls calls' : List Call}
  {start now : Instant} {key : String} {value : Bytes} {e : Entry}

/-- What stands in the map after a call was put there by it, or stood there and is not affected. -/
theorem update_eq_some_iff :
    call.update m key = some e ↔
      (∃ ttl, call.request = .set key e.value ttl ∧ e.expires = call.now.advance ttl) ∨
      (call.request.affects key = false ∧ m key = some e) := by
  obtain ⟨now, request⟩ := call
  cases request with
  | set key' value ttl =>
    rw [Call.update, Function.update_apply]
    split
    · rename_i h
      subst h
      simp only [Request.affects, beq_self_eq_true, Bool.true_eq_false, false_and, or_false,
        Request.set.injEq, true_and, Option.some.injEq]
      constructor
      · rintro rfl
        exact ⟨ttl, ⟨rfl, rfl⟩, rfl⟩
      · rintro ⟨_, ⟨rfl, rfl⟩, h⟩
        rw [← h]
    · rename_i h
      simp [Request.affects, h, Ne.symm h]
  | delete key' =>
    rw [Call.update, Function.update_apply]
    split
    · rename_i h
      simp [Request.affects, h]
    · rename_i h
      simp [Request.affects, h]
  | flush => simp [Call.update, Request.affects]
  | get | sweep | size => simp [Call.update, Request.affects]

/-- **What stands in the map was put there by the last call that affects its key**, or stood there
    from the start. -/
theorem record_eq_some_iff :
    record m calls key = some e ↔
      (∃ before t ttl later, calls = before ++ ⟨t, .set key e.value ttl⟩ :: later ∧
        (∀ call ∈ later, call.request.affects key = false) ∧ e.expires = t.advance ttl) ∨
      ((∀ call ∈ calls, call.request.affects key = false) ∧ m key = some e) := by
  -- for any map to begin with, as the rest begins with the one that the first call leaves
  induction calls generalizing m with
  | nil => simp [record]
  | cons call rest ih =>
    rw [record, ih, update_eq_some_iff]
    constructor
    · rintro (⟨before, t, ttl, later, rfl, hlater, hend⟩ | ⟨hrest, ⟨ttl, hput, hend⟩ | ⟨hcall, hm⟩⟩)
      · exact .inl ⟨call :: before, t, ttl, later, rfl, hlater, hend⟩
      · exact .inl ⟨[], call.now, ttl, rest, by rw [← hput]; rfl, hrest, hend⟩
      · exact .inr ⟨List.forall_mem_cons.2 ⟨hcall, hrest⟩, hm⟩
    · rintro (⟨before, t, ttl, later, heq, hlater, hend⟩ | ⟨hall, hm⟩)
      · cases before with
        | nil =>
          obtain ⟨rfl, rfl⟩ := List.cons.inj heq
          exact .inr ⟨hlater, .inl ⟨ttl, rfl, hend⟩⟩
        | cons first before =>
          obtain ⟨rfl, rfl⟩ := List.cons.inj heq
          exact .inl ⟨before, t, ttl, later, rfl, hlater, hend⟩
      · obtain ⟨hcall, hrest⟩ := List.forall_mem_cons.1 hall
        exact .inr ⟨hrest, .inr ⟨hcall, hm⟩⟩

/-- Calls that do not write leave no trace in the map. -/
theorem record_filter_writes (m : String → Option Entry) (calls : List Call) :
    record m (calls.filter fun call => call.request.writes) = record m calls := by
  induction calls generalizing m with
  | nil => rfl
  | cons call rest ih =>
    rw [List.filter_cons]
    split
    · exact ih _
    · rename_i hwrites
      have hsame : call.update m = m := by
        obtain ⟨now, request⟩ := call
        cases request with
        | set | delete | flush => exact absurd rfl hwrites
        | get | sweep | size => rfl
      rw [record, hsame]
      exact ih m

/-! ## 3. Cache and map -/

/-- Whether a cache and a map hold the same entries, as far as those live. -/
def Agree (c : Cache) (m : String → Option Entry) (now : Instant) : Prop :=
  ∀ key e, e.alive now = true → (c.find? key = some e ↔ m key = some e)

theorem Agree.later (h : Agree c m start) (hle : start.nanos ≤ now.nanos) : Agree c m now := by
  intro key e halive
  refine h key e ?_
  simp only [Entry.alive, decide_eq_true_eq] at halive ⊢
  exact Nat.lt_of_le_of_lt hle halive

theorem filter_alive_eq_some_iff {o : Option Entry} (h : e.alive now = true) :
    o.filter (fun e => e.alive now) = some e ↔ o = some e := by
  rw [Option.filter_eq_some_iff, and_iff_left h]

/-- **Every call leaves cache and map alike.** -/
theorem Call.agree (h : Agree c m call.now) (hon : call.on c = some c') :
    Agree c' (call.update m) call.now := by
  intro key e halive
  obtain ⟨now, request⟩ := call
  -- dead entries may be in one of the two and not in the other, but only `e` matters here
  cases request with
  | set key' value ttl =>
    obtain ⟨expires, hexpires, rfl⟩ := set?_eq_some hon
    rw [Call.update, find?_put, Function.update_apply, Instant.eq_advance_of_add? hexpires]
    split
    · exact Iff.rfl
    · exact h key e halive
  | get key' =>
    cases hon
    rw [find?_get]
    split
    · rw [filter_alive_eq_some_iff halive]
      exact h key e halive
    · exact h key e halive
  | delete key' =>
    cases hon
    rw [Call.update, find?_delete, Function.update_apply]
    split
    · exact Iff.rfl
    · exact h key e halive
  | flush =>
    cases hon
    exact Iff.rfl
  | sweep =>
    cases hon
    rw [find?_sweep, filter_alive_eq_some_iff halive]
    exact h key e halive
  | size =>
    cases hon
    exact h key e halive

/-- A call whose end the clock can express leaves a cache behind. -/
theorem Call.Fits.on (h : call.Fits) (c : Cache) : ∃ c', call.on c = some c' := by
  obtain ⟨now, request⟩ := call
  cases request with
  | set key value ttl =>
    rw [← Option.ne_none_iff_exists']
    exact fun hnone => h key value ttl rfl (set?_eq_none hnone)
  | get | delete | flush | sweep | size => exact ⟨_, rfl⟩

/-- **Every run leaves cache and map alike.** -/
theorem after_agree (h : Agree c m start) (hcalls : Regular calls)
    (hstart : ∀ call ∈ calls, start.nanos ≤ call.now.nanos) :
    ∃ c', c.after calls = some c' ∧ ∀ now, start.nanos ≤ now.nanos →
      (∀ call ∈ calls, call.now.nanos ≤ now.nanos) → Agree c' (record m calls) now := by
  -- the two agree from the last call on, and entries that are dead by then never live again
  induction calls generalizing c m start with
  | nil => exact ⟨c, rfl, fun now hle _ => h.later hle⟩
  | cons call rest ih =>
    obtain ⟨hfirst, hordered⟩ := List.pairwise_cons.1 hcalls.ordered
    obtain ⟨hfits, hrest⟩ := List.forall_mem_cons.1 hcalls.fits
    obtain ⟨c₁, hon⟩ := hfits.on c
    have h₁ : Agree c₁ (call.update m) call.now :=
      Call.agree (h.later (hstart call List.mem_cons_self)) hon
    obtain ⟨c', hc', hagree⟩ := ih h₁ ⟨hordered, hrest⟩ hfirst
    refine ⟨c', by rw [after, hon]; exact hc', fun now _ hnow => ?_⟩
    obtain ⟨hcall, hlater⟩ := List.forall_mem_cons.1 hnow
    exact hagree now hcall hlater

/-! ## 4. Answers -/

/-- A text is answered exactly when it stands in a living entry. -/
theorem get_eq_some_iff :
    (c.get now key).1 = some value ↔
      ∃ e, c.find? key = some e ∧ e.alive now = true ∧ e.value = value := by
  rcases c.get_cases now key with ⟨hg, hf⟩ | ⟨e, hf, ha, hg⟩ | ⟨e, hf, ha, hg⟩ <;> rw [hg, hf]
  · simp
  · simp [ha]
  · simp [ha]

/-- What is answered is what lives in a map that the cache agrees with. -/
theorem Agree.get_eq_some_iff (h : Agree c m now) :
    (c.get now key).1 = some value ↔
      ∃ e, m key = some e ∧ e.alive now = true ∧ e.value = value := by
  rw [Cache.get_eq_some_iff]
  refine exists_congr fun e => ?_
  constructor
  · rintro ⟨hfind, halive, hvalue⟩
    exact ⟨(h key e halive).1 hfind, halive, hvalue⟩
  · rintro ⟨hm, halive, hvalue⟩
    exact ⟨(h key e halive).2 hm, halive, hvalue⟩

/-- **What is answered was put there by the last call that affects its key**, and is alive. -/
theorem Agree.get_eq_some_iff_lives (h : Agree c (record (fun _ => none) calls) now) :
    (c.get now key).1 = some value ↔ Lives calls now key value := by
  rw [h.get_eq_some_iff]
  constructor
  · rintro ⟨e, hrecord, halive, rfl⟩
    rcases record_eq_some_iff.1 hrecord with
      ⟨before, t, ttl, later, hcalls, hlater, hend⟩ | ⟨-, hnone⟩
    · refine ⟨before, t, ttl, later, hcalls, hlater, ?_⟩
      simpa only [Entry.alive, hend, Instant.advance, decide_eq_true_eq] using halive
    · cases hnone
  · rintro ⟨before, t, ttl, later, hcalls, hlater, halive⟩
    refine ⟨⟨value, t.advance ttl⟩, ?_, decide_eq_true halive, rfl⟩
    exact record_eq_some_iff.2 (.inl ⟨before, t, ttl, later, hcalls, hlater, rfl⟩)

/-- Caches that agree with one map answer the same. -/
theorem Agree.get_eq (h : Agree c m now) (h' : Agree c' m now) (key : String) :
    (c'.get now key).1 = (c.get now key).1 := by
  ext value
  rw [h'.get_eq_some_iff, h.get_eq_some_iff]

/-- The keys of the living entries. -/
def livingKeys (c : Cache) (now : Instant) : List String :=
  (c.entries.filter fun x => x.2.alive now).map Prod.fst

theorem livingKeys_nodup (c : Cache) (now : Instant) : (c.livingKeys now).Nodup :=
  distinct_filter _ c.distinct

theorem length_livingKeys (c : Cache) (now : Instant) : (c.livingKeys now).length = c.size now :=
  List.length_map _

/-- They are the keys under which a text is answered. -/
theorem mem_livingKeys : key ∈ c.livingKeys now ↔ ∃ value, (c.get now key).1 = some value := by
  simp only [livingKeys, List.mem_map, List.mem_filter, get_eq_some_iff, find?_eq_some_iff]
  constructor
  · rintro ⟨⟨_, e⟩, ⟨hmem, halive⟩, rfl⟩
    exact ⟨e.value, e, hmem, halive, rfl⟩
  · rintro ⟨_, e, hmem, halive, -⟩
    exact ⟨(key, e), ⟨hmem, halive⟩, rfl⟩

/-- Caches that answer the same count the same. -/
theorem size_congr (h : ∀ key, (c'.get now key).1 = (c.get now key).1) :
    c'.size now = c.size now := by
  rw [← length_livingKeys, ← length_livingKeys]
  refine ((List.perm_ext_iff_of_nodup (livingKeys_nodup c' now) (livingKeys_nodup c now)).2
    fun key => ?_).length_eq
  rw [mem_livingKeys, mem_livingKeys, h]

/-- A sweep removes the dead entries and tells their number. -/
theorem sweep_removes (c : Cache) (now : Instant) :
    (c.sweep now).1 = (c.entries.filter fun x => x.2.expires.nanos ≤ now.nanos).length ∧
      ∀ x, x ∈ (c.sweep now).2.entries ↔ x ∈ c.entries ∧ now.nanos < x.2.expires.nanos := by
  constructor
  · have hparts := List.length_eq_length_filter_add (l := c.entries) fun x => x.2.alive now
    have hdead : (fun x : String × Entry => !x.2.alive now) =
        fun x => decide (x.2.expires.nanos ≤ now.nanos) := by
      funext x
      simp only [Entry.alive, ← decide_not, Nat.not_lt]
    rw [hdead] at hparts
    exact Nat.sub_eq_of_eq_add' hparts
  · intro x
    refine List.mem_filter.trans (and_congr_right fun _ => ?_)
    rw [Entry.alive, decide_eq_true_eq]

/-- **After any calls a cache is a map whose entries live for a while.** A text is answered exactly
    when the last call that affects its key put it there and it is still alive; the size is the
    number of keys that have one; a sweep removes the dead entries and nothing else; and calls that
    do not write, wherever they are made or left out, change no answer and no size. -/
theorem after_refines (hcalls : Regular calls) :
    ∃ c, Cache.empty.after calls = some c ∧
      ∀ now, (∀ call ∈ calls, call.now.nanos ≤ now.nanos) →
        (∀ key value, (c.get now key).1 = some value ↔ Lives calls now key value) ∧
        (∃ keys : List String, keys.Nodup ∧ c.size now = keys.length ∧
          ∀ key, key ∈ keys ↔ ∃ value, (c.get now key).1 = some value) ∧
        ((c.sweep now).1 = (c.entries.filter fun x => x.2.expires.nanos ≤ now.nanos).length ∧
          ∀ x, x ∈ (c.sweep now).2.entries ↔ x ∈ c.entries ∧ now.nanos < x.2.expires.nanos) ∧
        ∀ calls', Regular calls' → (∀ call ∈ calls', call.now.nanos ≤ now.nanos) →
          calls'.filter (fun call => call.request.writes) =
            calls.filter (fun call => call.request.writes) →
          ∃ c', Cache.empty.after calls' = some c' ∧
            (∀ key, (c'.get now key).1 = (c.get now key).1) ∧ c'.size now = c.size now := by
  have agreed : ∀ {calls : List Call}, Regular calls → ∃ c, Cache.empty.after calls = some c ∧
      ∀ now, (∀ call ∈ calls, call.now.nanos ≤ now.nanos) →
        Agree c (record (fun _ => none) calls) now := by
    intro calls h
    have hempty : Agree .empty (fun _ => none) ⟨0⟩ := fun _ _ _ => Iff.rfl
    obtain ⟨c, hc, hagree⟩ := after_agree hempty h fun _ _ => Nat.zero_le _
    exact ⟨c, hc, fun now => hagree now (Nat.zero_le _)⟩
  obtain ⟨c, hc, hagree⟩ := agreed hcalls
  refine ⟨c, hc, fun now hnow => ⟨?_, ?_, c.sweep_removes now, ?_⟩⟩
  · exact fun key value => (hagree now hnow).get_eq_some_iff_lives
  · exact ⟨c.livingKeys now, livingKeys_nodup c now, (length_livingKeys c now).symm,
      fun key => mem_livingKeys⟩
  · intro calls' hcalls' hnow' hwrites
    obtain ⟨c', hc', hagree'⟩ := agreed hcalls'
    have hsame := hagree' now hnow'
    -- either run leaves the map that its writes leave, and those are the same
    rw [← record_filter_writes, hwrites, record_filter_writes] at hsame
    have hanswers := (hagree now hnow).get_eq hsame
    exact ⟨c', hc', hanswers, size_congr hanswers⟩

/-- Two texts under one key, the second of which outlives the first; another one that dies, is
    looked for and swept; and an end that is reached to the nanosecond. -/
theorem after_refines_outlived :
    let calls : List Call :=
      [⟨⟨0⟩, .set "a" [1] ⟨5⟩⟩, ⟨⟨1⟩, .set "b" [2] ⟨3⟩⟩, ⟨⟨3⟩, .set "a" [3] ⟨6⟩⟩, ⟨⟨4⟩, .get "b"⟩,
        ⟨⟨5⟩, .sweep⟩, ⟨⟨8⟩, .get "a"⟩]
    Regular calls ∧ ∃ c, Cache.empty.after calls = some c ∧
      Lives calls ⟨8⟩ "a" [3] ∧ (c.get ⟨8⟩ "a").1 = some [3] ∧
      (c.get ⟨9⟩ "a").1 = none ∧ ∀ value, ¬ Lives calls ⟨9⟩ "a" value := by
  intro calls
  have regular : Regular calls := by
    refine ⟨by decide, fun call hcall key value ttl hset => ?_⟩
    simp only [calls, List.mem_cons, List.not_mem_nil, or_false] at hcall
    rcases hcall with rfl | rfl | rfl | rfl | rfl | rfl <;> cases hset <;> decide
  obtain ⟨c, hc, hanswers⟩ := after_refines regular
  have lives : Lives calls ⟨8⟩ "a" [3] :=
    ⟨calls.take 2, ⟨3⟩, ⟨6⟩, calls.drop 3, rfl, by decide, by decide⟩
  have gone : (c.get ⟨9⟩ "a").1 = none := by
    have hrun : (Cache.empty.after calls).map (fun c => (c.get ⟨9⟩ "a").1) = some none := by
      decide +kernel
    rw [hc] at hrun
    exact Option.some.inj hrun
  refine ⟨regular, c, hc, lives, ((hanswers ⟨8⟩ (by decide)).1 "a" [3]).2 lives, gone, ?_⟩
  intro value hlives
  have hfound := ((hanswers ⟨9⟩ (by decide)).1 "a" value).2 hlives
  rw [gone] at hfound
  cases hfound

end CitationFusion.Cache
