import CitationFusion.Json.Skim

/-!
# Strings

What a string is behind the quote that begins it, said without a reader. It is passed over up to its
end; and what is passed over as a string is one.

* `IsString` : the grammar of strings.
* `IsString.skim`, `isString_of_skim` : the two directions.
-/

namespace CitationFusion.Json

open Ascii

/-! ## 1. The grammar of strings -/

/-- A hexadecimal digit, of either case. -/
def IsHex (b : UInt8) : Prop :=
  (0x30 ≤ b ∧ b ≤ 0x39) ∨ (0x41 ≤ b ∧ b ≤ 0x46) ∨ (0x61 ≤ b ∧ b ≤ 0x66)

instance (b : UInt8) : Decidable (IsHex b) := inferInstanceAs (Decidable (_ ∨ _ ∨ _))

/-- What may follow a backslash alone: a quote, a backslash, a slash, `b`, `f`, `n`, `r` or `t`. -/
def escapeLetters : Bytes := [quote, backslash, 0x2F, 0x62, 0x66, 0x6E, 0x72, 0x74]

/-- What follows the quote that begins a string, up to the quote that ends it. What four
    hexadecimal digits stand for does not matter. -/
inductive IsString : Bytes → Prop where
  | close : IsString [quote]
  | plain {b : UInt8} {v : Bytes} (printable : 0x20 ≤ b) (notQuote : b ≠ quote)
      (notBackslash : b ≠ backslash) (rest : IsString v) : IsString (b :: v)
  | escape {e : UInt8} {v : Bytes} (letter : e ∈ escapeLetters) (rest : IsString v) :
      IsString (backslash :: e :: v)
  | unicode {x₁ x₂ x₃ x₄ : UInt8} {v : Bytes} (hex : ∀ x ∈ [x₁, x₂, x₃, x₄], IsHex x)
      (rest : IsString v) : IsString (backslash :: 0x75 :: x₁ :: x₂ :: x₃ :: x₄ :: v)

/-! ## 2. Steps over a string -/

variable {bs t rest : Bytes} {b : UInt8}

theorem skimString_quote (r : Bytes) : skimString (quote :: r) = .ok r := by
  rw [skimString.eq_def]
  rfl

theorem skimString_short {e : UInt8} (r : Bytes) (h : isShortEscape e = true) :
    skimString (backslash :: e :: r) = skimString r := by
  rw [skimString.eq_def]
  simp only [show (backslash == quote) = false from rfl, beq_self_eq_true, if_true, h,
    Bool.false_eq_true, if_false]

theorem skimString_unicode {r r' : Bytes} {n : Nat} (h : hexQuad r = .ok (n, r')) :
    skimString (backslash :: 0x75 :: r) = skimString r' := by
  rw [skimString.eq_def]
  simp only [show (backslash == quote) = false from rfl, show isShortEscape 0x75 = false from rfl,
    beq_self_eq_true, if_true, Bool.false_eq_true, if_false]
  split
  · rename_i h'
    rw [h] at h'
    cases h'
    rfl
  · rename_i h'
    rw [h] at h'
    cases h'

/-- Whether an octet stands for itself in a string. -/
def isPlain (b : UInt8) : Bool := b != quote && b != backslash && !decide (b < 0x20)

theorem skimString_plain (r : Bytes) (h : isPlain b = true) :
    skimString (b :: r) = skimString r := by
  simp only [isPlain, Bool.and_eq_true, bne_iff_ne, Bool.not_eq_true', decide_eq_false_iff_not] at h
  rw [skimString.eq_def]
  simp [h]

theorem skimString_plain_append {u : Bytes} (h : ∀ b ∈ u, isPlain b = true) (r : Bytes) :
    skimString (u ++ r) = skimString r := by
  induction u with
  | nil => rfl
  | cons b u ih =>
    rw [List.cons_append, skimString_plain _ (h b (by simp))]
    exact ih fun x hx => h x (by simp [hx])

theorem isHex_iff : IsHex b ↔ ∃ n, hexValue? b = some n := by
  unfold IsHex hexValue? isDigit
  simp only [Bool.and_eq_true, decide_eq_true_eq]
  split
  · rename_i h
    exact ⟨fun _ => ⟨_, rfl⟩, fun _ => .inl h⟩
  · rename_i h
    split
    · rename_i h'
      exact ⟨fun _ => ⟨_, rfl⟩, fun _ => .inr (.inl h')⟩
    · rename_i h'
      split
      · rename_i h''
        exact ⟨fun _ => ⟨_, rfl⟩, fun _ => .inr (.inr h'')⟩
      · rename_i h''
        simp [h, h', h'']

theorem isShortEscape_iff : isShortEscape b = true ↔ b ∈ escapeLetters := by
  simp [isShortEscape, escapeLetters, or_assoc]

theorem hexQuad_hex {x₁ x₂ x₃ x₄ : UInt8} (h : ∀ x ∈ [x₁, x₂, x₃, x₄], IsHex x) (t : Bytes) :
    ∃ n, hexQuad (x₁ :: x₂ :: x₃ :: x₄ :: t) = .ok (n, t) := by
  simp only [List.forall_mem_cons] at h
  obtain ⟨h1, h2, h3, h4, -⟩ := h
  obtain ⟨n₁, h1⟩ := isHex_iff.1 h1
  obtain ⟨n₂, h2⟩ := isHex_iff.1 h2
  obtain ⟨n₃, h3⟩ := isHex_iff.1 h3
  obtain ⟨n₄, h4⟩ := isHex_iff.1 h4
  simp only [hexQuad, h1, h2, h3, h4]
  exact ⟨_, rfl⟩

theorem hex_of_hexQuad {n : Nat} (h : hexQuad bs = .ok (n, rest)) :
    ∃ x₁ x₂ x₃ x₄, bs = x₁ :: x₂ :: x₃ :: x₄ :: rest ∧ ∀ x ∈ [x₁, x₂, x₃, x₄], IsHex x := by
  unfold hexQuad at h
  split at h
  · rename_i x₁ x₂ x₃ x₄ r
    split at h
    · rename_i h1 h2 h3 h4
      cases h
      refine ⟨x₁, x₂, x₃, x₄, rfl, ?_⟩
      simp only [List.forall_mem_cons]
      exact ⟨isHex_iff.2 ⟨_, h1⟩, isHex_iff.2 ⟨_, h2⟩, isHex_iff.2 ⟨_, h3⟩, isHex_iff.2 ⟨_, h4⟩,
        fun _ h => absurd h List.not_mem_nil⟩
    · cases h
  · cases h

/-! ## 3. Strings are what is passed over -/

/-- **A string is passed over up to its end.** -/
theorem IsString.skim {v : Bytes} (h : IsString v) (t : Bytes) : skimString (v ++ t) = .ok t := by
  induction h with
  | close => exact skimString_quote t
  | @plain b v printable notQuote notBackslash _ ih =>
    have hplain : isPlain b = true := by
      simp [isPlain, notQuote, notBackslash, UInt8.not_lt.2 printable]
    rw [List.cons_append, skimString_plain _ hplain, ih]
  | escape letter _ ih =>
    rw [List.cons_append, List.cons_append, skimString_short _ (isShortEscape_iff.2 letter), ih]
  | @unicode _ _ _ _ v hex _ ih =>
    obtain ⟨n, hquad⟩ := hexQuad_hex hex (v ++ t)
    simp only [List.cons_append]
    rw [skimString_unicode hquad, ih]

/-- What is passed over as a string is one. -/
theorem isString_of_skim (h : skimString bs = .ok rest) :
    ∃ v, bs = v ++ rest ∧ IsString v := by
  fun_induction skimString bs with
  | case1 => cases h
  | case2 b r hb =>
    cases h
    exact ⟨[b], rfl, by rw [beq_iff_eq.1 hb]; exact .close⟩
  | case3 => cases h
  | case4 b hq hb e r he ih =>
    obtain ⟨v, rfl, hv⟩ := ih h
    obtain rfl := beq_iff_eq.1 hb
    exact ⟨backslash :: e :: v, rfl, .escape (isShortEscape_iff.1 he) hv⟩
  | case5 b hq hb e r hshort he n r' hquad _ ih =>
    obtain ⟨v, rfl, hv⟩ := ih h
    obtain ⟨x₁, x₂, x₃, x₄, rfl, hex⟩ := hex_of_hexQuad hquad
    obtain rfl := beq_iff_eq.1 hb
    obtain rfl := beq_iff_eq.1 he
    exact ⟨_, rfl, .unicode hex hv⟩
  | case6 => cases h
  | case7 => cases h
  | case8 => cases h
  | case9 b r hq hb hc ih =>
    obtain ⟨v, rfl, hv⟩ := ih h
    exact ⟨b :: v, rfl, .plain (UInt8.not_lt.1 hc) (by simpa using hq) (by simpa using hb) hv⟩

theorem skimString_split (h : skimString bs = .ok rest) :
    ∃ u, bs = u ++ rest ∧ ∀ t, skimString (u ++ t) = .ok t := by
  obtain ⟨v, rfl, hv⟩ := isString_of_skim h
  exact ⟨v, rfl, hv.skim⟩

end CitationFusion.Json
