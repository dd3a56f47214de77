import CitationFusion.Cache
import Mathlib.Data.List.Nodup

/-!
# What the entries of a cache have in common

A property of keys and texts that every entry has is kept by whatever is done to the cache, as
long as it is true of what is put in.

* `Cache.Holds` : every entry has the property, dead or alive.
* `Holds.get`, `Holds.delete`, `Holds.set?`, `Holds.sweep` : each operation keeps that.
* `find?_put`, `find?_delete`, `find?_get`, `find?_sweep` : what each operation does to the entry
  under one key.
-/

namespace CitationFusion

namespace Cache

/-- Whether every entry has a property of its key and its text. -/
def Holds (P : String → Bytes → Prop) (c : Cache) : Prop := ∀ x ∈ c.entries, P x.1 x.2.value

variable {P Q : String → Bytes → Prop} {c c' : Cache} {key : String} {value : Bytes}

theorem holds_empty : Holds P .empty := fun _ hx => absurd hx List.not_mem_nil

theorem Holds.mono (h : c.Holds P) (hPQ : ∀ key value, P key value → Q key value) : c.Holds Q :=
  fun x hx => hPQ _ _ (h x hx)

theorem Holds.retain (h : c.Holds P) (p : String × Entry → Bool) : (c.retain p).Holds P :=
  fun x hx => h x (List.mem_filter.1 hx).1

theorem Holds.delete (h : c.Holds P) (key : String) : (c.delete key).Holds P := h.retain _

theorem Holds.put (h : c.Holds P) {e : Entry} (he : P key e.value) : (c.put key e).Holds P := by
  intro x hx
  rcases List.mem_cons.1 hx with rfl | hx
  · exact he
  · exact h.delete key x hx

/-- An entry that is found stands under its key. -/
theorem mem_of_find? {e : Entry} (h : c.find? key = some e) : (key, e) ∈ c.entries := by
  unfold find? at h
  obtain ⟨x, hx, rfl⟩ := Option.map_eq_some_iff.1 h
  have hkey : x.1 = key := by simpa using List.find?_some hx
  rw [← hkey]
  exact List.mem_of_find?_eq_some hx

/-- What looking for a text answers, and what is left behind. -/
theorem get_cases (c : Cache) (now : Instant) (key : String) :
    (c.get now key = (none, c) ∧ c.find? key = none) ∨
    (∃ e, c.find? key = some e ∧ e.alive now = true ∧ c.get now key = (some e.value, c)) ∨
    (∃ e, c.find? key = some e ∧ e.alive now = false ∧ c.get now key = (none, c.delete key)) := by
  unfold get
  cases hf : c.find? key with
  | none => exact .inl ⟨rfl, rfl⟩
  | some e =>
    cases ha : e.alive now with
    | true => exact .inr (.inl ⟨e, rfl, ha, by simp only [ha, if_true]⟩)
    | false =>
      exact .inr (.inr ⟨e, rfl, ha, by simp only [ha, Bool.false_eq_true, if_false]⟩)

/-- **A text that is found has the property, and so has what is left.** -/
theorem Holds.get (h : c.Holds P) (now : Instant) (key : String) :
    (∀ v, (c.get now key).1 = some v → P key v) ∧ (c.get now key).2.Holds P := by
  rcases c.get_cases now key with ⟨hg, -⟩ | ⟨e, hf, -, hg⟩ | ⟨e, -, -, hg⟩ <;> rw [hg]
  · exact ⟨nofun, h⟩
  · refine ⟨fun v hv => ?_, h⟩
    cases hv
    exact h _ (mem_of_find? hf)
  · exact ⟨nofun, h.delete key⟩

theorem set?_eq_some {now : Instant} {ttl : Duration} (h : c.set? now key value ttl = some c') :
    ∃ expires, now.add? ttl = some expires ∧ c' = c.put key ⟨value, expires⟩ := by
  obtain ⟨expires, he, rfl⟩ := Option.map_eq_some_iff.1 h
  exact ⟨expires, he, rfl⟩

theorem set?_eq_none {now : Instant} {ttl : Duration} (h : c.set? now key value ttl = none) :
    now.add? ttl = none := Option.map_eq_none_iff.1 h

theorem Holds.set? (h : c.Holds P) {now : Instant} {ttl : Duration} (hv : P key value)
    (hc : c.set? now key value ttl = some c') : c'.Holds P := by
  obtain ⟨expires, -, rfl⟩ := set?_eq_some hc
  exact h.put hv

theorem Holds.sweep (h : c.Holds P) (now : Instant) : (c.sweep now).2.Holds P := h.retain _

/-! ## The entry under one key -/

variable {key' : String} {e : Entry} {now : Instant}

/-- **An entry is found under a key exactly when it stands there**, as no two entries do. -/
theorem find?_eq_some_iff : c.find? key = some e ↔ (key, e) ∈ c.entries := by
  constructor
  · exact mem_of_find?
  · intro h
    have hfound : (c.entries.find? (fun x => x.1 == key)).isSome = true :=
      List.find?_isSome.2 ⟨(key, e), h, beq_self_eq_true key⟩
    obtain ⟨x, hx⟩ := Option.isSome_iff_exists.1 hfound
    have hkey : x.1 = key := by simpa using List.find?_some hx
    have hsame : x = (key, e) :=
      List.inj_on_of_nodup_map c.distinct (List.mem_of_find?_eq_some hx) h hkey
    unfold find?
    rw [hx, hsame]
    rfl

theorem find?_retain (p : String × Entry → Bool) :
    (c.retain p).find? key = (c.find? key).filter (fun e => p (key, e)) := by
  ext e
  rw [Option.filter_eq_some_iff, find?_eq_some_iff, find?_eq_some_iff]
  exact List.mem_filter

/-- Removing an entry removes that one. -/
theorem find?_delete : (c.delete key).find? key' = if key' = key then none else c.find? key' := by
  have hkeeps : (c.delete key).find? key' = (c.find? key').filter (fun _ => key' != key) :=
    find?_retain _
  rw [hkeeps]
  by_cases h : key' = key
  · rw [if_pos h, h]
    cases c.find? key <;> simp
  · rw [if_neg h]
    cases c.find? key' <;> simp [h]

/-- Putting an entry under a key puts it there. -/
theorem find?_put :
    (c.put key e).find? key' = if key' = key then some e else c.find? key' := by
  by_cases h : key' = key
  · rw [if_pos h, h, find?_eq_some_iff]
    exact List.mem_cons_self
  · rw [if_neg h]
    have hothers : (c.put key e).find? key' = (c.delete key).find? key' := by
      ext e'
      rw [find?_eq_some_iff, find?_eq_some_iff]
      constructor
      · intro hmem
        rcases List.mem_cons.1 hmem with heq | hmem
        · exact absurd (congrArg Prod.fst heq) h
        · exact hmem
      · exact List.mem_cons_of_mem _
    rw [hothers, find?_delete, if_neg h]

/-- Looking for a text leaves the living entries where they are. -/
theorem find?_get :
    (c.get now key).2.find? key' =
      if key' = key then (c.find? key').filter (fun e => e.alive now) else c.find? key' := by
  by_cases h : key' = key
  · rw [if_pos h, h]
    rcases c.get_cases now key with ⟨hg, hf⟩ | ⟨e, hf, ha, hg⟩ | ⟨e, hf, ha, hg⟩ <;> rw [hg]
    · rw [hf]
      rfl
    · rw [hf, Option.filter_some, ha, if_pos rfl]
    · rw [find?_delete, if_pos rfl, hf, Option.filter_some, ha]
      rfl
  · rw [if_neg h]
    rcases c.get_cases now key with ⟨hg, -⟩ | ⟨e, -, -, hg⟩ | ⟨e, -, -, hg⟩ <;> rw [hg]
    rw [find?_delete, if_neg h]

/-- A sweep leaves the living entries where they are. -/
theorem find?_sweep :
    (c.sweep now).2.find? key = (c.find? key).filter (fun e => e.alive now) := find?_retain _

/-- A living entry is answered, and stays. -/
theorem get_of_alive (hf : c.find? key = some e) (ha : e.alive now = true) :
    c.get now key = (some e.value, c) := by
  unfold get
  simp only [hf, ha, if_true]

/-- A dead entry is not answered. -/
theorem get_of_dead (h : ∀ e, c.find? key = some e → e.alive now = false) :
    (c.get now key).1 = none := by
  rcases c.get_cases now key with ⟨hg, -⟩ | ⟨e, hf, ha, -⟩ | ⟨e, -, -, hg⟩
  · rw [hg]
  · rw [h e hf] at ha
    cases ha
  · rw [hg]

end Cache

end CitationFusion
