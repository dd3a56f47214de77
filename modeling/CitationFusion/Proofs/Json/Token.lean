import CitationFusion.Proofs.Json.Numeral

/-!
# Where strings lie in a text

Whether a place in the text of a document lies in a string, said without how the document is passed
over.

* `Spot`, `Spot.after` : where a reader of quotes and backslashes stands behind a text.
* `skimFrom_balanced` : what is passed over begins and ends outside of all strings.
* `NumberAt` : a number stands by itself, outside of all strings.
-/

namespace CitationFusion.Json

open Ascii

/-! ## 1. Strings -/

/-- Where in a text a reader of quotes stands. -/
inductive Spot where
  | outside
  | inside
  /-- Inside of a string, behind the backslash of an escape. -/
  | escaped
  deriving DecidableEq, Repr

namespace Spot

/-- Where a reader stands behind the next octet. -/
def next : Spot → UInt8 → Spot
  | outside, b => if b == quote then inside else outside
  | inside, b => if b == quote then outside else if b == backslash then escaped else inside
  | escaped, _ => inside

/-- Where a reader stands behind a text. -/
def after (s : Spot) (bs : Bytes) : Spot := bs.foldl next s

theorem after_append (s : Spot) (u v : Bytes) : s.after (u ++ v) = (s.after u).after v :=
  List.foldl_append

/-- Outside of strings only a quote counts. -/
theorem after_unquoted {u : Bytes} (h : quote ∉ u) : outside.after u = outside := by
  induction u with
  | nil => rfl
  | cons b u ih =>
    have hb : b ≠ quote := fun e => h (by simp [e])
    show (outside.next b).after u = outside
    rw [next, if_neg (by simpa using hb)]
    exact ih fun hu => h (by simp [hu])

/-- **Who is outside of strings behind a text without quotes was so before it.** -/
theorem outside_of_after {s : Spot} {u : Bytes} (hu : quote ∉ u) (h : s.after u = outside) :
    s = outside := by
  induction u generalizing s with
  | nil => exact h
  | cons b u ih =>
    have hb : (b == quote) = false := by simpa using fun e => hu (by simp [e])
    have hnext : s.next b = outside := ih (fun hmem => hu (by simp [hmem])) h
    cases s with
    | outside => rfl
    | inside =>
      rw [next, hb] at hnext
      split at hnext
      · contradiction
      · split at hnext <;> cases hnext
    | escaped => cases hnext

end Spot

open Spot

variable {bs r rest : Bytes} {b : UInt8}

theorem IsHex.inside {x : UInt8} (h : IsHex x) : inside.next x = inside := by
  have hquote : x ≠ quote := by
    rintro rfl
    exact absurd h (by decide)
  have hbackslash : x ≠ backslash := by
    rintro rfl
    exact absurd h (by decide)
  simp [next, hquote, hbackslash]

/-- **A string ends with the quote that ends it**, by induction on what it is made of. -/
theorem IsString.outside {v : Bytes} (h : IsString v) : inside.after v = outside := by
  induction h with
  | close => rfl
  | @plain b v _ notQuote notBackslash _ ih =>
    show (inside.next b).after v = Spot.outside
    rwa [next, if_neg (by simpa using notQuote), if_neg (by simpa using notBackslash)]
  | escape _ _ ih => exact ih
  | @unicode x₁ x₂ x₃ x₄ v hex _ ih =>
    show ((((inside.next x₁).next x₂).next x₃).next x₄).after v = Spot.outside
    rwa [(hex x₁ (by simp)).inside, (hex x₂ (by simp)).inside, (hex x₃ (by simp)).inside,
      (hex x₄ (by simp)).inside]

/-- Whether what stands before `rest` leaves no string open. -/
def Balanced (bs rest : Bytes) : Prop := ∃ u, bs = u ++ rest ∧ outside.after u = outside

theorem Balanced.refl (bs : Bytes) : Balanced bs bs := ⟨[], rfl, rfl⟩

theorem Balanced.trans (h : Balanced bs r) (h' : Balanced r rest) : Balanced bs rest := by
  obtain ⟨u, rfl, hu⟩ := h
  obtain ⟨v, rfl, hv⟩ := h'
  exact ⟨u ++ v, by rw [List.append_assoc], by rw [after_append, hu, hv]⟩

theorem balanced_unquoted {u : Bytes} (h : quote ∉ u) (rest : Bytes) : Balanced (u ++ rest) rest :=
  ⟨u, rfl, after_unquoted h⟩

theorem balanced_cons (hb : b ≠ quote) (rest : Bytes) : Balanced (b :: rest) rest :=
  balanced_unquoted (fun h => hb (List.mem_singleton.1 h).symm) rest

/-- White space is no part of a string. -/
theorem skipSpace_balanced (h : skipSpace bs = b :: r) : Balanced bs (b :: r) := by
  obtain ⟨ws, rfl, hws, -⟩ := skipSpace_split h
  exact balanced_unquoted (fun hq => absurd (hws _ hq) (by decide)) _

theorem skipSpace_octet (h : skipSpace bs = b :: r) (hb : b ≠ quote) : Balanced bs r :=
  (skipSpace_balanced h).trans (balanced_cons hb r)

theorem quoted_balanced (h : skimString r = .ok rest) : Balanced (quote :: r) rest := by
  obtain ⟨v, rfl, hv⟩ := isString_of_skim h
  exact ⟨quote :: v, rfl, hv.outside⟩

/-- What is passed over as a value of another kind than a string has no quotes. -/
theorem unquoted_of_skim {v : Bytes} (hb : b ≠ quote) (h : skimScalar b r = .ok rest)
    (hv : r = v ++ rest) : quote ∉ v := by
  have literal : ∀ tail, quote ∉ tail → skimLiteral tail r = .ok rest → quote ∉ v := by
    intro tail hq hs
    have hr := skimLiteral_split hs
    rw [hv] at hr
    rw [List.append_cancel_right hr]
    exact hq
  have number : b = minus ∨ isDigit b = true → quote ∉ v := by
    intro hnum hq
    obtain ⟨w, hw, hnumber⟩ := isNumber_of_skim hnum h
    rw [hv, ← List.cons_append] at hw
    obtain rfl := List.append_cancel_right hw
    exact hnumber.unquoted (List.mem_cons_of_mem b hq)
  unfold skimScalar at h
  split at h
  · exact literal nullTail (by decide) h
  split at h
  · exact literal trueTail (by decide) h
  split at h
  · exact literal falseTail (by decide) h
  split at h
  · rename_i hm
    exact number (.inl (beq_iff_eq.1 hm))
  split at h
  · rename_i hd
    exact number (.inr hd)
  split at h
  · rename_i hq
    exact absurd (beq_iff_eq.1 hq) hb
  · cases h

theorem skimScalar_balanced (h : skimScalar b r = .ok rest) : Balanced (b :: r) rest := by
  by_cases hb : b = quote
  · subst hb
    exact quoted_balanced (show skimString r = .ok rest from h)
  · obtain ⟨v, rfl, -⟩ := skimScalar_split h
    exact (balanced_cons hb _).trans (balanced_unquoted (unquoted_of_skim hb h rfl) rest)

/-- A key and its colon leave no string open. -/
theorem skimKey_balanced (h : skimKey bs = .ok rest) : Balanced bs rest := by
  obtain ⟨r, r', hs, hr, hs'⟩ := skimKey_eq_ok.1 h
  exact (skipSpace_balanced hs).trans
    ((quoted_balanced hr).trans (skipSpace_octet hs' (by decide)))

/-- **What is passed over leaves no string open**, wherever a reader stands that is outside of
    strings. -/
theorem skimFrom_balanced {place : Place} {stack : List Frame}
    (h : skimFrom place stack bs = .ok rest) : Balanced bs rest := by
  -- strings are passed over as a whole, and no other octet is a quote
  fun_induction skimFrom place stack bs with
  | case1 => cases h
  | case2 bs stack b r hs _ hb ih =>
    exact (skipSpace_octet hs (by rw [beq_iff_eq.1 hb]; decide)).trans (ih h)
  | case3 bs stack b r hs _ _ hb ih =>
    exact (skipSpace_octet hs (by rw [beq_iff_eq.1 hb]; decide)).trans (ih h)
  | case4 => cases h
  | case5 bs stack b r hs _ _ _ rest' hscalar _ ih =>
    exact (skipSpace_balanced hs).trans ((skimScalar_balanced hscalar).trans (ih h))
  | case6 => cases h
  | case7 bs stack b r hs _ hb ih =>
    exact (skipSpace_octet hs (by rw [beq_iff_eq.1 hb]; decide)).trans (ih h)
  | case8 bs stack b r hs _ _ ih => exact (skipSpace_balanced hs).trans (ih h)
  | case9 => cases h
  | case10 bs stack b r hs _ hb ih =>
    exact (skipSpace_octet hs (by rw [beq_iff_eq.1 hb]; decide)).trans (ih h)
  | case11 => cases h
  | case12 bs stack b r hs _ _ rest' hkey _ ih =>
    exact (skipSpace_balanced hs).trans ((skimKey_balanced hkey).trans (ih h))
  | case13 =>
    cases h
    exact .refl _
  | case14 => cases h
  | case15 bs stack b r hs _ hb ih =>
    exact (skipSpace_octet hs (by rw [beq_iff_eq.1 hb]; decide)).trans (ih h)
  | case16 bs stack b r hs _ _ hb ih =>
    exact (skipSpace_octet hs (by rw [beq_iff_eq.1 hb]; decide)).trans (ih h)
  | case17 => cases h
  | case18 => cases h
  | case19 bs stack b r hs _ hb ih =>
    exact (skipSpace_octet hs (by rw [beq_iff_eq.1 hb]; decide)).trans (ih h)
  | case20 => cases h
  | case21 bs stack b r hs _ _ hb rest' hkey _ ih =>
    refine (skipSpace_octet hs (by rw [beq_iff_eq.1 hb]; decide)).trans ?_
    exact (skimKey_balanced hkey).trans (ih h)
  | case22 => cases h

/-- What closes the lists and objects that are open. -/
def closing (stack : List Frame) : Bytes :=
  stack.map fun
    | .list => closeBracket
    | .object => closeBrace

theorem skimFrom_closing (stack : List Frame) :
    skimFrom .behind stack (closing stack) = .ok [] := by
  induction stack with
  | nil => exact skimFrom_behind_nil
  | cons frame stack ih =>
    cases frame with
    | list => exact (skimFrom_behind_closeBracket (skipSpace_cons _ (by decide))).trans ih
    | object => exact (skimFrom_behind_closeBrace (skipSpace_cons _ (by decide))).trans ih

theorem unquoted_closing (stack : List Frame) : quote ∉ closing stack := by
  intro h
  obtain ⟨frame, -, hframe⟩ := List.mem_map.1 h
  cases frame <;> cases hframe

theorem closed_closing (stack : List Frame) : Closed (closing stack) := by
  cases stack with
  | nil => exact closed_nil
  | cons frame stack =>
    cases frame with
    | list => exact closed_closeBracket _
    | object => exact closed_closeBrace _

/-- **Where a value of a document begins, no string is open.** -/
theorem outside_of_skim {p : Bytes} {stack : List Frame}
    (h : ∀ t, skimFrom .value [] (p ++ t) = skimFrom .value stack t) :
    outside.after p = outside := by
  -- put a number there, and close what is open: that is a document
  let v := (Numeral.ofNat 0).text ++ closing stack
  have hv : quote ∉ v := by
    exact fun hmem =>
      (List.mem_append.1 hmem).elim (Numeral.ofNat 0).isNumber.unquoted (unquoted_closing stack)
  have hskim : skimFrom .value [] (p ++ v) = .ok [] := by
    rw [h, (Numeral.ofNat 0).isValue stack _ (closed_closing stack), skimFrom_closing]
  obtain ⟨u, hu, houtside⟩ := skimFrom_balanced hskim
  rw [List.append_nil] at hu
  rw [← hu, after_append] at houtside
  exact outside_of_after hv houtside

/-! ## 2. Numbers in a text -/

/-- Whether a number stands by itself between two texts, outside of all strings. -/
structure NumberAt (before number behind : Bytes) : Prop where
  isNumber : IsNumber number
  outside : outside.after before = outside
  /-- It does not go on with a number before it. -/
  begins : ∀ b ∈ before.getLast?, inNumber b = false
  /-- Nor does what follows it go on with it. -/
  ends : ∀ b ∈ behind.head?, inNumber b = false

end CitationFusion.Json
