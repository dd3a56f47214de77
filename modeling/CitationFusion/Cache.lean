import CitationFusion.Clock
import CitationFusion.Text.Utf8

/-!
# The result cache

Texts by key, each with the time at which it expires. An entry is alive before that time and
dead from then on: a dead entry is never answered and never counted, but it is only removed by
being asked for, by a sweep, or by a new entry under its key.

* `Cache.distinct` : there is at most one entry under a key, whatever happens.
-/

namespace CitationFusion

/-- A text that is kept, and the time at which it expires. -/
structure Entry where
  value : Bytes
  expires : Instant
  deriving DecidableEq, Repr

/-- Whether an entry is alive. -/
def Entry.alive (e : Entry) (now : Instant) : Bool := now.nanos < e.expires.nanos

/-- Texts by key. -/
structure Cache where
  entries : List (String × Entry)
  distinct : (entries.map Prod.fst).Nodup

namespace Cache

/-- Entries that are left after some of them are removed have distinct keys. -/
theorem distinct_filter {l : List (String × Entry)} (p : String × Entry → Bool)
    (h : (l.map Prod.fst).Nodup) : ((l.filter p).map Prod.fst).Nodup :=
  h.sublist (List.filter_sublist.map _)

/-- A cache without entries. -/
def empty : Cache := ⟨[], .nil⟩

instance : Inhabited Cache := ⟨empty⟩

/-- The cache without some of its entries. -/
def retain (c : Cache) (p : String × Entry → Bool) : Cache :=
  ⟨c.entries.filter p, distinct_filter p c.distinct⟩

/-- The entry under a key, dead or alive. -/
def find? (c : Cache) (key : String) : Option Entry :=
  (c.entries.find? (fun e => e.1 == key)).map Prod.snd

/-- The cache without the entry under a key. -/
def delete (c : Cache) (key : String) : Cache := c.retain (fun e => e.1 != key)

/-- The cache with an entry under a key, in place of the one before. -/
def put (c : Cache) (key : String) (e : Entry) : Cache where
  entries := (key, e) :: (c.delete key).entries
  distinct := by
    refine List.nodup_cons.2 ⟨fun h => ?_, (c.delete key).distinct⟩
    obtain ⟨x, hx, hk⟩ := List.mem_map.1 h
    have := (List.mem_filter.1 hx).2
    simp_all

/-- The living text under a key. A dead entry under it is removed. -/
def get (c : Cache) (now : Instant) (key : String) : Option Bytes × Cache :=
  match c.find? key with
  | none => (none, c)
  | some e => if e.alive now then (some e.value, c) else (none, c.delete key)

/-- Keeps a text for some time; `none` when the clock cannot express its end. -/
def set? (c : Cache) (now : Instant) (key : String) (value : Bytes) (ttl : Duration) :
    Option Cache :=
  (now.add? ttl).map fun expires => c.put key ⟨value, expires⟩

/-- The number of living entries. -/
def size (c : Cache) (now : Instant) : Nat :=
  (c.entries.filter (fun e => e.2.alive now)).length

/-- Removes the dead entries; their number. -/
def sweep (c : Cache) (now : Instant) : Nat × Cache :=
  let left := c.retain (fun e => e.2.alive now)
  (c.entries.length - left.entries.length, left)

end Cache

end CitationFusion
