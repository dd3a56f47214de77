import CitationFusion.Proofs.Numeric
import CitationFusion.Proofs.Response

/-!
# The place of the time

The time of a response stands behind the last of all places that look like it. What looks like
it earlier cannot reach into that place, since a place has a quote before an `e` only at its
beginning (`Still`); and behind the time of a response no quote stands before an `e` at all.

* `lastMatch_append` : the last place is found, whatever stands before it.
* `patch?_last`, `patch?_split` : the number behind the last place is what is replaced.
* `Response.patch?_head` : the new number replaces the time of the response, and nothing else.
* `Response.patch?_write` : the text that was patched reads back as the response, but for its
  time.
-/

namespace CitationFusion.Took

open Ascii Json

/-! ## 1. Where no place begins -/

/-- Whether no quote stands before an `e`, nor at the end of a text. -/
def Still : Bytes → Bool
  | [] => true
  | b :: r => (b != quote || r.head?.any (· != 0x65)) && Still r

theorem Still.append {u v : Bytes} (hu : Still u = true) (hv : Still v = true) :
    Still (u ++ v) = true := by
  induction u with
  | nil => exact hv
  | cons b u ih =>
    simp only [Still, Bool.and_eq_true] at hu
    rw [List.cons_append, Still, ih hu.2, Bool.and_true]
    cases u with
    | nil =>
      have hb : (b != quote) = true := by simpa using hu.1
      rw [hb, Bool.true_or]
    | cons c u => exact hu.1

theorem still_of_unquoted {u : Bytes} (h : quote ∉ u) : Still u = true := by
  induction u with
  | nil => rfl
  | cons b u ih =>
    have hb : (b != quote) = true := by
      rw [bne_iff_ne]
      rintro rfl
      exact h (by simp)
    rw [Still, hb, ih fun hu => h (by simp [hu])]
    rfl

/-- **No place begins in a text without a quote before an `e`**, whatever follows it. -/
theorem Still.not_marker {x y : Bytes} (h : Still (x ++ y) = true) (hy : y ≠ []) (z : Bytes) :
    marker.isPrefixOf (y ++ z) = false := by
  induction x with
  | cons b x ih =>
    rw [List.cons_append, Still, Bool.and_eq_true] at h
    exact ih h.2
  | nil =>
    rw [List.nil_append] at h
    cases y with
    | nil => exact absurd rfl hy
    | cons b y =>
      rw [Still, Bool.and_eq_true, Bool.or_eq_true] at h
      cases hm : marker.isPrefixOf (b :: y ++ z) with
      | false => rfl
      | true =>
        obtain ⟨rest, hrest⟩ := List.isPrefixOf_iff_prefix.1 hm
        cases y with
        | nil =>
          have hb : quote = b := (List.cons.inj hrest).1
          simp [← hb] at h
        | cons c y =>
          have hb : quote = b := (List.cons.inj hrest).1
          have hc : 0x65 = c := (List.cons.inj (List.cons.inj hrest).2).1
          simp [← hb, ← hc] at h

/-! ## 2. The last place -/

/-- What looks like the time is the marker and a number behind it. -/
theorem matchLength?_eq_some {bs : Bytes} {k : Nat} :
    matchLength? bs = some k ↔
      ∃ u n, bs = marker ++ u ∧ numberLength? u = some n ∧ k = marker.length + n := by
  unfold matchLength?
  constructor
  · intro h
    split at h
    · rename_i hm
      obtain ⟨u, rfl⟩ := List.isPrefixOf_iff_prefix.1 hm
      rw [List.drop_left] at h
      obtain ⟨n, hn, rfl⟩ := Option.map_eq_some_iff.1 h
      exact ⟨u, n, rfl, hn, rfl⟩
    · cases h
  · rintro ⟨u, n, rfl, hn, rfl⟩
    rw [if_pos (List.isPrefixOf_iff_prefix.2 (List.prefix_append _ _)), List.drop_left, hn]
    rfl

theorem still_number {u : Bytes} {n : Nat} (h : numberLength? u = some n) :
    Still (marker.drop 1 ++ u.take n) = true :=
  Still.append (by decide) (still_of_unquoted (numeric_take h).unquoted)

/-- **Behind its first octet, what looks like the time has no quote before an `e`.** -/
theorem matched_still {bs : Bytes} {n : Nat} (h : matchLength? bs = some n) :
    ∃ b r, bs = b :: r ∧ Still (r.take (n - 1)) = true := by
  obtain ⟨u, k, rfl, hk, rfl⟩ := matchLength?_eq_some.1 h
  have hlen : marker.length + k - 1 = (marker.drop 1).length + k := by
    simp only [show marker.length = 16 from rfl, show (marker.drop 1).length = 15 from rfl]
    omega
  refine ⟨quote, marker.drop 1 ++ u, rfl, ?_⟩
  rw [hlen, List.take_length_add_append]
  exact still_number hk

theorem matchLength?_eq_none {bs : Bytes} (h : marker.isPrefixOf bs = false) :
    matchLength? bs = none := by
  rw [matchLength?, if_neg (by simp [h])]

/-- What looks like the time does not reach into another place. -/
theorem matched_disjoint {u v : Bytes} {n k : Nat} (hu : u ≠ [])
    (h : matchLength? (u ++ v) = some n) (hv : matchLength? v = some k) : n ≤ u.length := by
  obtain ⟨b, r, hr, hstill⟩ := matched_still h
  obtain ⟨c, w, hw, -⟩ := matched_still hv
  cases u with
  | nil => exact absurd rfl hu
  | cons a u =>
    have hr' : r = u ++ v := (List.cons.inj hr).2.symm
    by_contra hgt
    rw [List.length_cons] at hgt
    -- the first octet of `v` belongs to the first place
    obtain ⟨j, hj⟩ : ∃ j, n - 1 = u.length + (j + 1) := ⟨n - 1 - u.length - 1, by omega⟩
    rw [hr', hj, List.take_length_add_append] at hstill
    have hne : v.take (j + 1) ≠ [] := by
      rw [hw]
      simp
    have := Still.not_marker hstill hne (v.drop (j + 1))
    rw [List.take_append_drop] at this
    rw [matchLength?_eq_none this] at hv
    cases hv

/-- Whether no place begins in a text. -/
def Quiet (bs : Bytes) : Prop := ∀ x y, bs = x ++ y → matchLength? y = none

theorem Quiet.tail {b : UInt8} {r : Bytes} (h : Quiet (b :: r)) : Quiet r :=
  fun x y hxy => h (b :: x) y (by rw [hxy]; rfl)

/-- None begins in a text without a quote before an `e`, whatever follows it. -/
theorem Quiet.still_append {u v : Bytes} (hu : Still u = true) (hv : Quiet v) : Quiet (u ++ v) := by
  intro x y hxy
  rcases List.append_eq_append_iff.1 hxy with ⟨a, rfl, rfl⟩ | ⟨w, rfl, rfl⟩
  · exact hv a y rfl
  · cases w with
    | nil => exact hv [] _ rfl
    | cons b w => exact matchLength?_eq_none (Still.not_marker hu (List.cons_ne_nil b w) v)

theorem Still.quiet {bs : Bytes} (h : Still bs = true) : Quiet bs := by
  have hnil : Quiet [] := by
    intro x y hxy
    rw [(List.append_eq_nil_iff.1 hxy.symm).2]
    rfl
  rw [← List.append_nil bs]
  exact .still_append h hnil

/-- In a text where no place begins, none is found. -/
theorem lastMatch_of_quiet {bs : Bytes} (h : Quiet bs) (found : Option (Nat × Nat))
    (skip passed : Nat) : lastMatch found skip passed bs = found := by
  induction bs generalizing skip passed with
  | nil => rfl
  | cons b r ih =>
    unfold lastMatch
    cases skip with
    | succ skip => exact ih h.tail skip (passed + 1)
    | zero =>
      simp only [h [] (b :: r) rfl]
      exact ih h.tail 0 (passed + 1)

/-- **The last place is found, whatever stands before it.** -/
theorem lastMatch_append {b : UInt8} {r : Bytes} {n : Nat} (hv : matchLength? (b :: r) = some n)
    (hr : Quiet r) (u : Bytes) (found : Option (Nat × Nat))
    {skip : Nat} (passed : Nat) (hskip : skip ≤ u.length) :
    lastMatch found skip passed (u ++ b :: r) = some (passed + u.length, n) := by
  induction u generalizing found skip passed with
  | nil =>
    obtain rfl : skip = 0 := Nat.le_zero.1 hskip
    rw [List.nil_append, lastMatch]
    simp only [hv]
    exact lastMatch_of_quiet hr _ _ _
  | cons a u ih =>
    rw [List.length_cons] at hskip ⊢
    rw [show passed + (u.length + 1) = passed + 1 + u.length by omega, List.cons_append]
    unfold lastMatch
    cases skip with
    | succ skip => exact ih _ _ (by omega)
    | zero =>
      simp only
      split
      · rename_i m hm
        have : m ≤ (a :: u).length := matched_disjoint (List.cons_ne_nil a u) hm hv
        rw [List.length_cons] at this
        exact ih _ _ (by omega)
      · exact ih _ _ (Nat.zero_le _)

/-- No place begins behind the first octet of one that has none behind its number. -/
theorem quiet_behind {u : Bytes} {n : Nat} (hn : numberLength? u = some n)
    (hu : Quiet (u.drop n)) : Quiet (marker.drop 1 ++ u) := by
  have := Quiet.still_append (still_number hn) hu
  rwa [List.append_assoc, List.take_append_drop] at this

/-- **The number behind the last place is replaced**, and nothing else. -/
theorem patch?_last {u : Bytes} {n : Nat} (hn : numberLength? u = some n) (hu : Quiet (u.drop n))
    (p : Bytes) (d : Duration) :
    patch? (p ++ (marker ++ u)) d = some (p ++ (marker ++ (print d ++ u.drop n))) := by
  have hmatch : matchLength? (quote :: (marker.drop 1 ++ u)) = some (marker.length + n) :=
    matchLength?_eq_some.2 ⟨u, n, rfl, hn, rfl⟩
  have hlast : lastMatch none 0 0 (p ++ (marker ++ u)) = some (p.length, marker.length + n) := by
    have := lastMatch_append hmatch (quiet_behind hn hu) p none 0 (Nat.zero_le _)
    rwa [Nat.zero_add] at this
  rw [patch?, hlast, Option.map_some]
  simp only
  rw [List.take_left, ← List.drop_drop, List.drop_left, ← List.drop_drop, List.drop_left]
  simp only [List.append_assoc]

/-- No place begins in a text, or one is the last. -/
theorem quiet_or_last (bs : Bytes) :
    Quiet bs ∨ ∃ p u n, bs = p ++ (marker ++ u) ∧ numberLength? u = some n ∧ Quiet (u.drop n) := by
  induction bs with
  | nil => exact .inl (Still.quiet rfl)
  | cons b r ih =>
    rcases ih with hr | ⟨p, u, n, rfl, hn, hu⟩
    · cases hb : matchLength? (b :: r) with
      | none =>
        refine .inl fun x y hxy => ?_
        cases x with
        | nil =>
          rw [List.nil_append] at hxy
          exact hxy ▸ hb
        | cons c x => exact hr x y (List.cons.inj hxy).2
      | some k =>
        obtain ⟨u, n, hmarker, hn, -⟩ := matchLength?_eq_some.1 hb
        refine .inr ⟨[], u, n, hmarker, hn, fun x y hxy => ?_⟩
        have hr' : r = marker.drop 1 ++ u := (List.cons.inj hmarker).2
        refine hr (marker.drop 1 ++ (u.take n ++ x)) y ?_
        rw [hr', List.append_assoc, List.append_assoc, ← hxy, List.take_append_drop]
    · exact .inr ⟨b :: p, u, n, rfl, hn, hu⟩

/-- **What is patched is the number behind the last place.** -/
theorem patch?_split {body patched : Bytes} {d : Duration} (h : patch? body d = some patched) :
    ∃ p u n, body = p ++ (marker ++ u) ∧ numberLength? u = some n ∧ Quiet (u.drop n) ∧
      patched = p ++ (marker ++ (print d ++ u.drop n)) := by
  rcases quiet_or_last body with hquiet | ⟨p, u, n, rfl, hn, hu⟩
  · rw [patch?, lastMatch_of_quiet hquiet] at h
    cases h
  · exact ⟨p, u, n, rfl, hn, hu, (Option.some.inj ((patch?_last hn hu p d).symm.trans h)).symm⟩

/-! ## 3. The time of a response -/

/-- A numeral is taken for a number, up to its end. -/
theorem numberLength?_text (n : Numeral) {t : Bytes} (ht : Closed t) :
    numberLength? (n.text ++ t) = some n.text.length :=
  (numeric_of_isNumber n.isNumber).taken ht

theorem still_flatMap {ms : List Bytes} (h : ∀ m ∈ ms, Still (comma :: m) = true) :
    Still (ms.flatMap (comma :: ·)) = true := by
  induction ms with
  | nil => rfl
  | cons m ms ih =>
    rw [List.flatMap_cons]
    exact Still.append (h m (by simp)) (ih fun w hw => h w (by simp [hw]))

theorem still_member {key : String} {v : Bytes}
    (hk : Still (comma :: (writeString key ++ [colon])) = true) (hv : quote ∉ v) :
    Still (comma :: writeMember key v) = true := by
  have e : comma :: writeMember key v = comma :: (writeString key ++ [colon]) ++ v := by
    simp [writeMember]
  rw [e]
  exact Still.append hk (still_of_unquoted hv)

theorem unquoted_nat (n : Nat) : quote ∉ writeNat n := by
  rw [← Numeral.text_ofNat]
  exact (Numeral.ofNat n).isNumber.unquoted

theorem unquoted_bool (b : Bool) : quote ∉ writeBool b := by cases b <;> decide

end CitationFusion.Took

namespace CitationFusion.Response

open Ascii Json Took

/-- **Behind its time, a response has no quote before an `e`.** -/
theorem still_tail (r : Response) : Still r.tail = true := by
  have e : r.tail = (facts r.extra).flatMap (comma :: ·) ++ [closeBrace, closeBrace] := by
    rw [tail, facts, separated_cons]
    rfl
  rw [e]
  refine Still.append (still_flatMap fun m hm => ?_) (by decide)
  simp only [facts, List.mem_cons, List.not_mem_nil, or_false] at hm
  rcases hm with rfl | rfl | rfl | rfl | rfl
  · exact still_member (by decide) (unquoted_nat _)
  · exact still_member (by decide) (unquoted_nat _)
  · exact still_member (by decide) (unquoted_nat _)
  · exact still_member (by decide) (unquoted_nat _)
  · exact still_member (by decide) (unquoted_bool _)

theorem closed_tail (r : Response) : Closed r.tail := closed_comma _

/-- **The new number replaces the time of the response, and nothing else**, whatever looks like a
    time in its metadata and its names. -/
theorem patch?_head (r : Response) (n : Numeral) (d : Duration) :
    patch? (r.head ++ (n.text ++ r.tail)) d = some (r.head ++ (print d ++ r.tail)) := by
  have hdrop : (n.text ++ r.tail).drop n.text.length = r.tail := List.drop_left
  have hquiet : Quiet ((n.text ++ r.tail).drop n.text.length) :=
    hdrop.symm ▸ Still.quiet r.still_tail
  have hlast := patch?_last (numberLength?_text n r.closed_tail) hquiet r.front d
  rw [hdrop] at hlast
  rw [head, List.append_assoc, List.append_assoc]
  exact hlast

/-! ## 4. The text that was patched -/

/-- Whether the time of a response is that of some span which the clock counts. -/
def Timed (r : Response) : Prop := ∃ t : Duration, t.secs < word64 ∧ r.extra.took = t.seconds

/-- **The time is printed as a number without a sign and without an exponent.** -/
theorem print_numeral {d : Duration} (hd : d.secs < word64) :
    ∃ n : Numeral, n.Modest ∧ n.negative = false ∧ n.power = none ∧ print d = n.text := by
  obtain ⟨hs, he, hn⟩ := Duration.seconds_spec hd
  obtain ⟨n, h1, h2, h3, h4⟩ := numeral_write Layout.plain hs he
  exact ⟨n, h1, h2.trans hn, h4 rfl, h3⟩

section Patched

variable {r : Response} {d : Duration}

theorem Timed.written (h : r.Timed) : ∃ x, Written readDouble (writeDouble r.extra.took) x := by
  obtain ⟨t, ht, htook⟩ := h
  obtain ⟨hs, he, -⟩ := Duration.seconds_spec ht
  rw [htook]
  exact written_double hs he

theorem Timed.patch?_eq (h : r.Timed) (d : Duration) :
    patch? r.write d = some (r.head ++ (print d ++ r.tail)) := by
  obtain ⟨t, ht, htook⟩ := h
  obtain ⟨hs, he, -⟩ := Duration.seconds_spec ht
  obtain ⟨n, -, -, hn, -⟩ := numeral_write Layout.json hs he
  rw [write_eq, htook, writeDouble, hn]
  exact r.patch?_head n d

/-- **What was patched is read back as the response, but for its time.** -/
theorem Fit.ofText_patch (hr : r.Fit) (ht : r.Timed) (hd : d.secs < word64) :
    ∃ y, Response.ofText (Took.patch r.write d) = .ok (r.withTook y) := by
  obtain ⟨n, hn, -, -, hprint⟩ := print_numeral hd
  obtain ⟨y, hy⟩ := n.written hn
  refine ⟨y, ?_⟩
  rw [Took.patch, ht.patch?_eq d, Option.getD_some, hprint]
  exact hr.ofText hy

/-- **Patching replaces exactly the time of a response.** Of its text, the octets before and behind
    the number of `extra.took` stay, whatever looks like a time elsewhere, and the number is printed
    without an exponent; any number in that place is read as the time, and everything else as it
    was. -/
theorem patch?_write {t : Duration} (hr : r.Fit) (htook : r.extra.took = t.seconds)
    (ht : t.secs < word64) (hd : d.secs < word64) :
    r.write = r.head ++ (writeDouble r.extra.took ++ r.tail) ∧
    patch? r.write d = some (r.head ++ (print d ++ r.tail)) ∧
    (∃ n : Numeral, print d = n.text ∧ n.negative = false ∧ n.power = none) ∧
    (∀ tok x, Written readDouble tok x →
      Response.ofText (r.head ++ (tok ++ r.tail)) = .ok (r.withTook x)) ∧
    ∃ x y, Written readDouble (writeDouble r.extra.took) x ∧
      Response.ofText r.write = .ok (r.withTook x) ∧
      Written readDouble (print d) y ∧
      Response.ofText (r.head ++ (print d ++ r.tail)) = .ok (r.withTook y) := by
  have htimed : r.Timed := ⟨t, ht, htook⟩
  obtain ⟨n, hn, hneg, hpow, hprint⟩ := print_numeral hd
  obtain ⟨x, hx⟩ := htimed.written
  obtain ⟨y, hy⟩ := n.written hn
  refine ⟨r.write_eq, htimed.patch?_eq d, ⟨n, hprint, hneg, hpow⟩, fun tok z hz => hr.ofText hz,
    x, y, hx, ?_, hprint ▸ hy, ?_⟩
  · rw [write_eq]
    exact hr.ofText hx
  · rw [hprint]
    exact hr.ofText hy

/-- Metadata that is itself the end of a response. -/
def impostor : Bytes := Utf8.ofString "\x7b\"extra\":\x7b\"took\":1\x7d\x7d"

/-- A response whose names and metadata look like a time. -/
def disguised : Response :=
  { ofRecord "\"extra\":\x7b\"took\":2" "a" with
    citing := [⟨impostor⟩]
    unmatched := ⟨[⟨"\"extra\":\x7b\"took\":3"⟩], []⟩
    extra := { (default : Extra) with took := (Duration.ofMillis 1500).seconds, citingCount := 1 } }

theorem impostor_accepted : Blob.Accepted ⟨impostor⟩ := by
  have e : impostor =
      writeObject [writeMember "extra" (writeObject [writeMember "took" (writeNat 1)])] := by decide
  refine ⟨"r", impostor, Blob.accept_of_isValue "r" ?_ (by decide) (Utf8.decode_encode _)⟩
  rw [e]
  refine .object fun m hm => ⟨"extra", _, List.mem_singleton.1 hm, ?_⟩
  refine .object fun m hm => ⟨"took", _, List.mem_singleton.1 hm, ?_⟩
  exact (written_nat (by decide) "usize").one

theorem disguised_fit : disguised.Fit where
  citing b hb := List.mem_singleton.1 hb ▸ impostor_accepted
  cited _ hb := absurd hb List.not_mem_nil
  unmatchedCitingCount := by decide
  unmatchedCitedCount := by decide
  citingCount := by decide
  citedCount := by decide

theorem patch?_write_disguised :
    patch? disguised.write (.ofSecs 7) =
      some (disguised.head ++ (print (.ofSecs 7) ++ disguised.tail)) :=
  (patch?_write disguised_fit rfl (t := .ofMillis 1500) (by decide) (by decide)).2.1

end Patched

end CitationFusion.Response
