import CitationFusion.Json.Read
import CitationFusion.Proofs.Json.Number
import CitationFusion.Proofs.Json.Strings
import Mathlib.Data.List.DropRight

/-!
# Values that end by themselves

What is passed over as one value is passed over as one value in every place: nothing before it,
nothing behind it and nothing that is open around it makes a difference, as long as a number is
not followed by something that would go on with it.

* `IsValue v` : the octets `v` are passed over as one value, wherever they stand.
* `isValue_of_skim` : whatever `skim` passed over is such a value.
* `IsScalar`, `isScalar_number` : values that are no lists and no objects; numbers are.
-/

namespace CitationFusion.Json

open Ascii

/-! ## 1. White space, and what ends a number -/

theorem closed_comma (t : Bytes) : Closed (comma :: t) := closed_cons.2 (by decide)

theorem closed_closeBracket (t : Bytes) : Closed (closeBracket :: t) := closed_cons.2 (by decide)

theorem closed_closeBrace (t : Bytes) : Closed (closeBrace :: t) := closed_cons.2 (by decide)

theorem closed_of_isSpace {b : UInt8} (h : isSpace b = true) (t : Bytes) : Closed (b :: t) := by
  simp only [isSpace, Bool.or_eq_true, beq_iff_eq] at h
  rw [closed_cons]
  rcases h with ((rfl | rfl) | rfl) | rfl <;> decide

theorem closed_spaced {ws : Bytes} {b : UInt8} (t : Bytes) (hws : ∀ x ∈ ws, isSpace x = true)
    (hb : Closed (b :: t)) : Closed (ws ++ b :: t) := by
  cases ws with
  | nil => exact hb
  | cons x ws => exact closed_of_isSpace (hws x (by simp)) _

/-- The white space before an octet makes no difference to what follows it. -/
theorem skipSpace_split {bs r : Bytes} {b : UInt8} (h : skipSpace bs = b :: r) :
    ∃ ws, bs = ws ++ b :: r ∧ (∀ x ∈ ws, isSpace x = true) ∧
      ∀ t, skipSpace (ws ++ b :: t) = b :: t := by
  have hws : ∀ x ∈ bs.takeWhile isSpace, isSpace x = true :=
    fun x hx => List.mem_takeWhile_imp hx
  have hb : isSpace b = false := by
    have := List.head?_dropWhile_not isSpace bs
    rw [show bs.dropWhile isSpace = b :: r from h] at this
    simpa using this
  refine ⟨bs.takeWhile isSpace, ?_, hws, fun t => ?_⟩
  · rw [← h]
    exact (List.takeWhile_append_dropWhile).symm
  · unfold skipSpace
    rw [List.dropWhile_append_of_pos hws, List.dropWhile_cons_of_neg (by simp [hb])]

theorem skipSpace_cons {b : UInt8} (t : Bytes) (h : isSpace b = false) :
    skipSpace (b :: t) = b :: t := by
  unfold skipSpace
  rw [List.dropWhile_cons_of_neg (by simp [h])]

theorem skipSpace_skipSpace (bs : Bytes) : skipSpace (skipSpace bs) = skipSpace bs :=
  List.dropWhile_idempotent _ bs

/-! ## 2. Literals and scalars -/

theorem skimLiteral_split {word bs rest : Bytes} (h : skimLiteral word bs = .ok rest) :
    bs = word ++ rest := by
  induction word generalizing bs with
  | nil =>
    cases h
    rfl
  | cons w word ih =>
    cases bs with
    | nil => cases h
    | cons b r =>
      unfold skimLiteral at h
      split at h
      · rename_i hb
        rw [beq_iff_eq.1 hb, ih h]
        rfl
      · cases h

theorem skimLiteral_append (word t : Bytes) : skimLiteral word (word ++ t) = .ok t := by
  induction word with
  | nil => rfl
  | cons w word ih => simp [skimLiteral, ih]

/-- **A value that is no list and no object ends by itself.** -/
theorem skimScalar_split {b : UInt8} {r rest : Bytes} (h : skimScalar b r = .ok rest) :
    ∃ u, r = u ++ rest ∧ ∀ t, Closed t → skimScalar b (u ++ t) = .ok t := by
  have literal : ∀ word, skimLiteral word r = .ok rest →
      (∀ t, skimScalar b t = skimLiteral word t) →
      ∃ u, r = u ++ rest ∧ ∀ t, Closed t → skimScalar b (u ++ t) = .ok t := by
    intro word hw hs
    exact ⟨word, skimLiteral_split hw, fun t _ => by rw [hs, skimLiteral_append]⟩
  unfold skimScalar at h
  split at h
  · rename_i hb
    exact literal _ h fun t => if_pos hb
  split at h
  · rename_i h1 hb
    exact literal _ h fun t => by rw [skimScalar, if_neg h1, if_pos hb]
  split at h
  · rename_i h1 h2 hb
    exact literal _ h fun t => by rw [skimScalar, if_neg h1, if_neg h2, if_pos hb]
  split at h
  · rename_i h1 h2 h3 hb
    obtain ⟨u, hu, hext⟩ := skimNumber_split h
    refine ⟨u, hu, fun t ht => ?_⟩
    rw [skimScalar, if_neg h1, if_neg h2, if_neg h3, if_pos hb]
    exact hext t ht
  split at h
  · rename_i h1 h2 h3 h4 hb
    obtain ⟨u, hu, hext⟩ := skimNumber_split h
    cases u with
    | nil =>
      have := skimNumber_shrinks h
      rw [hu] at this
      exact absurd this (Nat.lt_irrefl _)
    | cons c u =>
      cases hu
      refine ⟨u, rfl, fun t ht => ?_⟩
      rw [skimScalar, if_neg h1, if_neg h2, if_neg h3, if_neg h4, if_pos hb]
      exact hext t ht
  split at h
  · rename_i h1 h2 h3 h4 h5 hb
    obtain ⟨u, hu, hext⟩ := skimString_split h
    refine ⟨u, hu, fun t _ => ?_⟩
    rw [skimScalar, if_neg h1, if_neg h2, if_neg h3, if_neg h4, if_neg h5, if_pos hb]
    exact hext t
  · cases h

/-! ## 3. Steps over a value -/

/-- A key is a string and a colon, with white space before either. -/
theorem skimKey_eq_ok {bs rest : Bytes} :
    skimKey bs = .ok rest ↔
      ∃ r r', skipSpace bs = quote :: r ∧ skimString r = .ok r' ∧ skipSpace r' = colon :: rest := by
  unfold skimKey
  constructor
  · intro h
    split at h
    · cases h
    · rename_i b r hs
      split at h
      · rename_i hb
        split at h
        · cases h
        · rename_i r' hr
          split at h
          · cases h
          · rename_i c t hs'
            split at h
            · rename_i hc
              cases h
              exact ⟨r, r', by rw [hs, beq_iff_eq.1 hb], hr, by rw [hs', beq_iff_eq.1 hc]⟩
            · cases h
      · cases h
  · rintro ⟨r, r', hs, hr, hs'⟩
    simp only [hs, hr, hs', beq_self_eq_true, if_true]

theorem skimKey_split {bs rest : Bytes} (h : skimKey bs = .ok rest) :
    ∃ u, bs = u ++ rest ∧ ∀ t, skimKey (u ++ t) = .ok t := by
  obtain ⟨r, r', hs, hr, hs'⟩ := skimKey_eq_ok.1 h
  obtain ⟨ws, rfl, -, hws⟩ := skipSpace_split hs
  obtain ⟨u, rfl, hu⟩ := skimString_split hr
  obtain ⟨ws', rfl, -, hws'⟩ := skipSpace_split hs'
  refine ⟨ws ++ quote :: (u ++ (ws' ++ [colon])), by simp, fun t => ?_⟩
  have hsplit : ws ++ quote :: (u ++ (ws' ++ [colon])) ++ t =
      ws ++ quote :: (u ++ (ws' ++ colon :: t)) := by simp
  rw [hsplit]
  exact skimKey_eq_ok.2 ⟨_, _, hws _, hu _, hws' t⟩

section Steps

variable {stack : List Frame} {bs r rest : Bytes} {b : UInt8}

theorem skimFrom_value_end (h : skipSpace bs = []) :
    skimFrom .value stack bs = .error (.onNext .endInValue []) := by
  rw [skimFrom.eq_def]
  simp only
  split <;> simp_all

theorem skimFrom_value_cons (h : skipSpace bs = b :: r) :
    skimFrom .value stack bs =
      if b == openBracket then skimFrom (.opened .list) stack r
      else if b == openBrace then skimFrom (.opened .object) stack r
      else (skimScalar b r).bind (skimFrom .behind stack) := by
  rw [skimFrom.eq_def]
  simp only
  split
  · simp_all
  · rename_i h'
    cases h.symm.trans h'
    congr 2
    split <;> simp_all [Except.bind]

theorem skimFrom_openBracket (h : skipSpace bs = openBracket :: r) :
    skimFrom .value stack bs = skimFrom (.opened .list) stack r := skimFrom_value_cons h

theorem skimFrom_openBrace (h : skipSpace bs = openBrace :: r) :
    skimFrom .value stack bs = skimFrom (.opened .object) stack r := skimFrom_value_cons h

theorem skimFrom_scalar (h : skipSpace bs = b :: r) (hl : b ≠ openBracket) (ho : b ≠ openBrace)
    (hs : skimScalar b r = .ok rest) :
    skimFrom .value stack bs = skimFrom .behind stack rest := by
  rw [skimFrom_value_cons h, if_neg (by simp [hl]), if_neg (by simp [ho]), hs]
  rfl

theorem skimFrom_opened_closeBracket (h : skipSpace bs = closeBracket :: r) :
    skimFrom (.opened .list) stack bs = skimFrom .behind stack r := by
  rw [skimFrom.eq_def]
  simp only
  split
  · simp_all
  · rename_i h'
    cases h.symm.trans h'
    rfl

theorem skimFrom_opened_item (h : skipSpace bs = b :: r) (hb : b ≠ closeBracket) :
    skimFrom (.opened .list) stack bs = skimFrom .value (.list :: stack) (b :: r) := by
  rw [skimFrom.eq_def]
  simp only
  split
  · simp_all
  · rename_i h'
    cases h.symm.trans h'
    rw [if_neg (by simp [hb])]

theorem skimFrom_opened_closeBrace (h : skipSpace bs = closeBrace :: r) :
    skimFrom (.opened .object) stack bs = skimFrom .behind stack r := by
  rw [skimFrom.eq_def]
  simp only
  split
  · simp_all
  · rename_i h'
    cases h.symm.trans h'
    rfl

theorem skimFrom_opened_member (h : skipSpace bs = b :: r) (hb : b ≠ closeBrace)
    (hk : skimKey (b :: r) = .ok rest) :
    skimFrom (.opened .object) stack bs = skimFrom .value (.object :: stack) rest := by
  rw [skimFrom.eq_def]
  simp only
  split
  · simp_all
  · rename_i h'
    cases h.symm.trans h'
    rw [if_neg (by simp [hb])]
    split <;> simp_all

theorem skimFrom_behind_nil : skimFrom .behind [] bs = .ok bs := by
  rw [skimFrom.eq_def]

theorem skimFrom_behind_closeBracket (h : skipSpace bs = closeBracket :: r) :
    skimFrom .behind (.list :: stack) bs = skimFrom .behind stack r := by
  rw [skimFrom.eq_def]
  simp only
  split
  · simp_all
  · rename_i h'
    cases h.symm.trans h'
    rfl

theorem skimFrom_behind_item (h : skipSpace bs = comma :: r) :
    skimFrom .behind (.list :: stack) bs = skimFrom .value (.list :: stack) r := by
  rw [skimFrom.eq_def]
  simp only
  split
  · simp_all
  · rename_i h'
    cases h.symm.trans h'
    rfl

theorem skimFrom_behind_closeBrace (h : skipSpace bs = closeBrace :: r) :
    skimFrom .behind (.object :: stack) bs = skimFrom .behind stack r := by
  rw [skimFrom.eq_def]
  simp only
  split
  · simp_all
  · rename_i h'
    cases h.symm.trans h'
    rfl

theorem skimFrom_behind_member (h : skipSpace bs = comma :: r) (hk : skimKey r = .ok rest) :
    skimFrom .behind (.object :: stack) bs = skimFrom .value (.object :: stack) rest := by
  rw [skimFrom.eq_def]
  simp only
  split
  · simp_all
  · rename_i h'
    cases h.symm.trans h'
    rw [if_neg (by decide), if_pos (by decide)]
    split <;> simp_all

end Steps

/-! ## 4. Values -/

/-- Whether what stands before `rest` is passed over with more open around it and something else
    behind it. What stands behind a value within a list or an object does not go on with a
    number. -/
def Splits (place : Place) (stack : List Frame) (bs rest : Bytes) : Prop :=
  ∃ u, bs = u ++ rest ∧ (place = .behind → ∀ t, Closed t → Closed (u ++ t)) ∧
    ∀ outer t, Closed t → skimFrom place (stack ++ outer) (u ++ t) = skimFrom .behind outer t

namespace Splits

variable {place place' : Place} {stack stack' : List Frame} {bs r rest : Bytes}

/-- What one step passes over goes before what the steps after it pass over. -/
theorem step {v : Bytes} (h : Splits place' stack' r rest)
    (hclosed : place = .behind → ∀ t, Closed (v ++ t))
    (hstep : ∀ outer t, (place' = .behind → Closed t) →
      skimFrom place (stack ++ outer) (v ++ t) = skimFrom place' (stack' ++ outer) t) :
    Splits place stack (v ++ r) rest := by
  obtain ⟨u, rfl, hu, hext⟩ := h
  refine ⟨v ++ u, (List.append_assoc v u rest).symm, fun hp t _ => ?_, fun outer t ht => ?_⟩
  · rw [List.append_assoc]
    exact hclosed hp (u ++ t)
  · rw [List.append_assoc, hstep outer (u ++ t) fun hp => hu hp t ht]
    exact hext outer t ht

/-- A step over one octet, with the white space before it. -/
theorem octet {b : UInt8} (h : Splits place' stack' r rest) (hs : skipSpace bs = b :: r)
    (hclosed : place = .behind → ∀ t, Closed (b :: t))
    (hstep : ∀ outer {bs t : Bytes}, skipSpace bs = b :: t →
      skimFrom place (stack ++ outer) bs = skimFrom place' (stack' ++ outer) t) :
    Splits place stack bs rest := by
  obtain ⟨ws, rfl, hsp, hws⟩ := skipSpace_split hs
  rw [List.append_cons]
  refine h.step (fun hp t => ?_) fun outer t _ => ?_
  · rw [← List.append_cons]
    exact closed_spaced t hsp (hclosed hp t)
  · rw [← List.append_cons]
    exact hstep outer (hws t)

end Splits

/-- **What was passed over is passed over with more open around it and something else behind
    it.** -/
theorem skimFrom_split {place : Place} {stack : List Frame} {bs rest : Bytes}
    (h : skimFrom place stack bs = .ok rest) : Splits place stack bs rest := by
  fun_induction skimFrom place stack bs with
  | case1 => cases h
  | case2 bs stack b r hs _ hb ih =>
    obtain rfl := beq_iff_eq.1 hb
    exact (ih h).octet hs nofun fun _ => skimFrom_openBracket
  | case3 bs stack b r hs _ _ hb ih =>
    obtain rfl := beq_iff_eq.1 hb
    exact (ih h).octet hs nofun fun _ => skimFrom_openBrace
  | case4 => cases h
  | case5 bs stack b r hs _ hl ho rest' hscalar _ ih =>
    obtain ⟨ws, rfl, -, hws⟩ := skipSpace_split hs
    obtain ⟨v, rfl, hv⟩ := skimScalar_split hscalar
    have e : ws ++ b :: (v ++ rest') = ws ++ b :: v ++ rest' := by simp
    rw [e]
    refine (ih h).step nofun fun outer t ht => ?_
    rw [List.append_assoc, List.cons_append]
    exact skimFrom_scalar (hws _) (by simpa using hl) (by simpa using ho) (hv t (ht rfl))
  | case6 => cases h
  | case7 bs stack b r hs _ hb ih =>
    obtain rfl := beq_iff_eq.1 hb
    exact (ih h).octet hs nofun fun _ => skimFrom_opened_closeBracket
  | case8 bs stack b r hs _ hb ih =>
    obtain ⟨u, hu0, -, hu⟩ := ih h
    obtain ⟨ws, rfl, -, hws⟩ := skipSpace_split hs
    cases u with
    | nil =>
      -- no octet at all is no value
      have := hu [] [] closed_nil
      rw [List.nil_append, skimFrom_value_end rfl, skimFrom_behind_nil] at this
      cases this
    | cons c u =>
      cases hu0
      refine ⟨ws ++ b :: u, by simp, nofun, fun outer t ht => ?_⟩
      rw [List.append_assoc, List.cons_append, skimFrom_opened_item (hws _) (by simpa using hb)]
      exact hu outer t ht
  | case9 => cases h
  | case10 bs stack b r hs _ hb ih =>
    obtain rfl := beq_iff_eq.1 hb
    exact (ih h).octet hs nofun fun _ => skimFrom_opened_closeBrace
  | case11 => cases h
  | case12 bs stack b r hs _ hb rest' hkey hlt ih =>
    obtain ⟨ws, rfl, -, hws⟩ := skipSpace_split hs
    obtain ⟨k, hk0, hk⟩ := skimKey_split hkey
    cases k with
    | nil =>
      rw [hk0] at hlt
      exact absurd hlt (Nat.lt_irrefl _)
    | cons c k =>
      obtain ⟨rfl, rfl⟩ : b = c ∧ r = k ++ rest' := List.cons.inj hk0
      have e : ws ++ b :: (k ++ rest') = ws ++ b :: k ++ rest' := by simp
      rw [e]
      refine (ih h).step nofun fun outer t _ => ?_
      rw [List.append_assoc, List.cons_append]
      exact skimFrom_opened_member (hws _) (by simpa using hb) (hk t)
  | case13 =>
    cases h
    exact ⟨[], rfl, fun _ t ht => ht, fun outer t _ => rfl⟩
  | case14 => cases h
  | case15 bs stack b r hs _ hb ih =>
    obtain rfl := beq_iff_eq.1 hb
    exact (ih h).octet hs (fun _ => closed_closeBracket) fun _ => skimFrom_behind_closeBracket
  | case16 bs stack b r hs _ _ hb ih =>
    obtain rfl := beq_iff_eq.1 hb
    exact (ih h).octet hs (fun _ => closed_comma) fun _ => skimFrom_behind_item
  | case17 => cases h
  | case18 => cases h
  | case19 bs stack b r hs _ hb ih =>
    obtain rfl := beq_iff_eq.1 hb
    exact (ih h).octet hs (fun _ => closed_closeBrace) fun _ => skimFrom_behind_closeBrace
  | case20 => cases h
  | case21 bs stack b r hs _ _ hb rest' hkey _ ih =>
    obtain ⟨ws, rfl, hsp, hws⟩ := skipSpace_split hs
    obtain ⟨k, rfl, hk⟩ := skimKey_split hkey
    obtain rfl := beq_iff_eq.1 hb
    have e : ws ++ comma :: (k ++ rest') = ws ++ comma :: k ++ rest' := by simp
    rw [e]
    refine (ih h).step (fun _ t => ?_) fun outer t _ => ?_
    · rw [List.append_assoc]
      exact closed_spaced _ hsp (closed_comma _)
    · rw [List.append_assoc, List.cons_append]
      exact skimFrom_behind_member (hws _) (hk t)
  | case22 => cases h

/-- Whether some octets are passed over as one value, wherever they stand. -/
def IsValue (v : Bytes) : Prop :=
  ∀ stack t, Closed t → skimFrom .value stack (v ++ t) = skimFrom .behind stack t

/-- **Whatever was passed over as a value is one wherever it stands.** -/
theorem isValue_of_skim {bs rest : Bytes} (h : skim bs = .ok rest) :
    ∃ v, bs = v ++ rest ∧ IsValue v := by
  obtain ⟨v, hv, -, hext⟩ := skimFrom_split h
  exact ⟨v, hv, fun stack t ht => hext stack t ht⟩

/-- White space before a value makes no difference. -/
theorem skimFrom_value_congr {stack : List Frame} {bs bs' : Bytes}
    (h : skipSpace bs = skipSpace bs') :
    skimFrom .value stack bs = skimFrom .value stack bs' := by
  cases hs : skipSpace bs' with
  | nil => rw [skimFrom_value_end (h.trans hs), skimFrom_value_end hs]
  | cons b r => rw [skimFrom_value_cons (h.trans hs), skimFrom_value_cons hs]

theorem skipSpace_append {v r : Bytes} {b : UInt8} (h : skipSpace v = b :: r) (t : Bytes) :
    skipSpace (v ++ t) = b :: (r ++ t) := by
  obtain ⟨ws, rfl, -, hws⟩ := skipSpace_split h
  rw [List.append_assoc, List.cons_append, hws]

namespace IsValue

variable {v : Bytes}

theorem skim_append (h : IsValue v) {t : Bytes} (ht : Closed t) : skim (v ++ t) = .ok t := by
  unfold skim
  rw [h [] t ht, skimFrom_behind_nil]

theorem skim_eq (h : IsValue v) : skim v = .ok [] := by
  have := h.skim_append closed_nil
  rwa [List.append_nil] at this

/-- **A value by itself is a document.** -/
theorem isDocument (h : IsValue v) : isDocument v = true := by
  simp only [Json.isDocument, checkDocument, h.skim_eq]
  rfl

/-- A value begins with an octet that ends no list. -/
theorem begins (h : IsValue v) : ∃ b r, skipSpace v = b :: r ∧ b ≠ closeBracket := by
  have hv : skimFrom .value [] v = .ok [] := h.skim_eq
  cases hs : skipSpace v with
  | nil =>
    rw [skimFrom_value_end hs] at hv
    cases hv
  | cons b r =>
    refine ⟨b, r, rfl, ?_⟩
    rintro rfl
    rw [skimFrom_value_cons hs] at hv
    cases hv

end IsValue

/-! ## 5. Scalars -/

/-- Whether a value is no list and no object, and is passed over up to its end. -/
def IsScalar (v : Bytes) : Prop :=
  ∃ b r, v = b :: r ∧ isSpace b = false ∧ b ≠ openBracket ∧ b ≠ openBrace ∧
    ∀ t, Closed t → skimScalar b (r ++ t) = .ok t

theorem IsScalar.isValue {v : Bytes} (h : IsScalar v) : IsValue v := by
  obtain ⟨b, r, rfl, hspace, hl, ho, hskim⟩ := h
  intro stack t ht
  exact skimFrom_scalar (skipSpace_cons _ hspace) hl ho (hskim t ht)

/-- **A number is passed over up to its end**, if what follows does not go on with it. -/
theorem isScalar_number {v : Bytes} (h : IsNumber v) : IsScalar v := by
  cases h with
  | @positive w f p whole fraction power =>
    obtain ⟨d, r, rfl, hd⟩ := whole.head
    obtain ⟨hspace, hl, ho⟩ := isDigit_plain hd
    refine ⟨d, r ++ (f ++ p), rfl, hspace, hl, ho, fun t ht => ?_⟩
    have hskim := whole.skim fraction power ht
    rw [skimScalar_digit hd]
    simpa using hskim
  | @negative w f p whole fraction power =>
    refine ⟨minus, _, rfl, by decide, by decide, by decide, fun t ht => ?_⟩
    have hskim := whole.skim fraction power ht
    show skimNumber _ = _
    simpa using hskim

end CitationFusion.Json
