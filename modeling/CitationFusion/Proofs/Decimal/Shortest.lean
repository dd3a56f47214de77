import CitationFusion.Decimal.Shortest
import CitationFusion.Proofs.Decimal.Rounding

/-!
# Shortest decimals have digits

Seventeen digits are enough for every double: on that grid, a step is less than what reads back
as the double, so one of its two neighbours does. Hence the search for the shortest decimal
always ends with a number that is not zero and has the size of the double.

* `Reach.leading_spec` : the exponent of the leading digit.
* `Reach.onGrid_isSome` : the finest grid has a number that reads back.
* `shortest_spec` : the digits and the size of the shortest decimal.
-/

namespace CitationFusion.Decimal

open Binary64

/-! ## 1. Widths -/

theorem width_pos (n : Nat) : 0 < width n := Nat.length_toDigits_pos

theorem lt_pow_width (n : Nat) : n < 10 ^ width n :=
  (Nat.length_toDigits_le_iff (by decide) (width_pos n)).1 (Nat.le_refl _)

theorem pow_width_le {n : Nat} (hn : 0 < n) : 10 ^ (width n - 1) ≤ n := by
  rcases Nat.eq_zero_or_pos (width n - 1) with h | h
  · rw [h]
    exact hn
  · by_contra hlt
    have := (Nat.length_toDigits_le_iff (b := 10) (n := n) (by decide) h).2 (by omega)
    have hw := width_pos n
    unfold width at h hw this
    omega

theorem width_le {n k : Nat} (hk : 0 < k) (h : n < 10 ^ k) : width n ≤ k :=
  (Nat.length_toDigits_le_iff (by decide) hk).2 h

theorem width_div {n : Nat} (h : 10 ≤ n) : width n = width (n / 10) + 1 := by
  unfold width
  rw [Nat.toDigits_of_base_le (by decide) h, List.length_append]
  rfl

/-- Zeros at the end of the digits are counted by the exponent instead. -/
theorem trimZeros_spec {digits : Nat} (h : digits ≠ 0) (exp : Int) :
    (trimZeros digits exp).digits ≠ 0 ∧
      (trimZeros digits exp).leading = exp + width digits - 1 := by
  fun_induction trimZeros digits exp with
  | case1 digits exp hd ih =>
    have hten : 10 ≤ digits := by omega
    have := width_div hten
    obtain ⟨h1, h2⟩ := ih (by omega)
    exact ⟨h1, by omega⟩
  | case2 digits exp hd => exact ⟨h, rfl⟩

/-! ## 2. The leading digit -/

namespace Reach

variable {r : Reach} {top p : Int}

/-- Whether `num / den` is at least `10 ^ top` and less than `10 ^ (top + 1)`. -/
structure Leads (r : Reach) (top : Int) : Prop where
  le : r.den * 10 ^ top.toNat ≤ r.num * 10 ^ (-top).toNat
  lt : r.num * 10 ^ (-(top + 1)).toNat < r.den * 10 ^ (top + 1).toNat

/-- **The exponent of the leading digit is what it is taken for.** -/
theorem leading_spec (hn : 0 < r.num) (hd : 0 < r.den) : Leads r r.leading := by
  have n1 := lt_pow_width r.num
  have n2 := pow_width_le hn
  have d1 := lt_pow_width r.den
  have d2 := pow_width_le hd
  have wn := width_pos r.num
  have wd := width_pos r.den
  unfold leading
  simp only [Nat.pow_eq]
  -- the widths leave two exponents, and the comparison decides between them
  split
  · rename_i h
    refine ⟨h, ?_⟩
    rw [scale_lt_iff (by decide) (i := width r.den - 1) (j := width r.num) (by omega)]
    calc r.num * 10 ^ (width r.den - 1) < 10 ^ width r.num * 10 ^ (width r.den - 1) :=
          Nat.mul_lt_mul_of_pos_right n1 (Nat.pow_pos (by decide))
      _ ≤ 10 ^ width r.num * r.den := Nat.mul_le_mul_left _ d2
      _ = r.den * 10 ^ width r.num := Nat.mul_comm _ _
  · rename_i h
    refine ⟨?_, ?_⟩
    · rw [scale_le_iff (by decide) (i := width r.den) (j := width r.num - 1) (by omega)]
      calc r.den * 10 ^ (width r.num - 1) ≤ 10 ^ width r.den * r.num :=
            Nat.mul_le_mul (Nat.le_of_lt d1) n2
        _ = r.num * 10 ^ width r.den := Nat.mul_comm _ _
    · rw [Int.sub_add_cancel]
      exact Nat.lt_of_not_le h

/-- A number below `10 ^ 21` has its leading digit below that. -/
theorem Leads.top_le (h : Leads r top) (hlt : r.num < r.den * 10 ^ 21) : top ≤ 20 := by
  by_contra hgt
  have h1 : r.den * 10 ^ 21 ≤ r.den * 10 ^ top.toNat :=
    Nat.mul_le_mul_left _ (Nat.pow_le_pow_right (by decide) (by omega))
  have h2 := h.le
  rw [show (-top).toNat = 0 by omega, Nat.pow_zero, Nat.mul_one] at h2
  omega

/-! ## 3. Grids -/

/-- **On a grid that is not coarser than the leading digit, what reads back is not zero and has
    no more digits than the grid, or is the power of ten above it.** -/
theorem onGrid_bounds {tie : Tie} {n d : Nat} (h : Leads r top) (hd : 0 < r.den) (hn : 0 < n)
    (hp : r.onGrid tie (top + 1 - n) = some d) : d ≠ 0 ∧ d ≤ 10 ^ n := by
  generalize hP : top + 1 - n = P at hp
  have hstep : 0 < r.den * 10 ^ P.toNat := Nat.mul_pos hd (Nat.pow_pos (by decide))
  have hlow : r.den * 10 ^ P.toNat ≤ r.num * 10 ^ (-P).toNat := by
    have := (scale_le_iff (by decide) (i := (-P).toNat) (j := P.toNat + (n - 1))
      (by omega) _ _).1 h.le
    exact Nat.le_trans
      (Nat.mul_le_mul_left _ (Nat.pow_le_pow_right (by decide) (Nat.le_add_right _ _))) this
  have hhigh : r.num * 10 ^ (-P).toNat < r.den * 10 ^ P.toNat * 10 ^ n := by
    have := (scale_lt_iff (by decide) (i := (-P).toNat) (j := P.toNat + n) (by omega) _ _).1 h.lt
    rwa [Nat.pow_add, ← Nat.mul_assoc] at this
  have h1 : 1 ≤ r.num * 10 ^ (-P).toNat / (r.den * 10 ^ P.toNat) :=
    (Nat.le_div_iff_mul_le hstep).2 (by rwa [Nat.one_mul])
  have h2 : r.num * 10 ^ (-P).toNat / (r.den * 10 ^ P.toNat) < 10 ^ n :=
    Nat.div_lt_of_lt_mul hhigh
  unfold onGrid at hp
  simp only [Nat.pow_eq] at hp
  repeat' split at hp
  all_goals
    cases hp
    try omega

/-- **On the finest grid, a step is less than what reads back**, so one of the two neighbours
    does. -/
theorem onGrid_isSome (tie : Tie) (h : Leads r top)
    (hw : r.num + r.low * 10 ^ 16 < r.high * 10 ^ 16) :
    ∃ d, r.onGrid tie (top + 1 - 17) = some d := by
  generalize hP : top + 1 - 17 = P
  have hstep : r.den * 10 ^ P.toNat * 10 ^ 16 ≤ r.num * 10 ^ (-P).toNat := by
    have := (scale_le_iff (by decide) (i := (-P).toNat) (j := P.toNat + 16) (by omega) _ _).1 h.le
    rwa [Nat.pow_add, ← Nat.mul_assoc] at this
  have hshift : 0 < 10 ^ (-P).toNat := Nat.pow_pos (by decide)
  unfold onGrid
  simp only [Nat.pow_eq]
  split
  · exact ⟨_, rfl⟩
  · exact ⟨_, rfl⟩
  · exact ⟨_, rfl⟩
  · -- neither fits: the step is as wide as what reads back
    rename_i hl hh
    exfalso
    simp only [Bool.or_eq_false_iff, decide_eq_false_iff_not] at hl hh
    have h1 := Nat.le_of_not_lt hl.1
    have h2 := Nat.le_of_not_lt hh.1
    clear hl hh hP h
    generalize 10 ^ (-P).toNat = shift at *
    generalize r.den * 10 ^ P.toNat = step at *
    generalize r.num * shift / step = lower at *
    have h3 : r.high * shift ≤ r.low * shift + step := by
      rw [Nat.add_mul] at h2
      omega
    have h4 : r.high * 10 ^ 16 * shift ≤ (r.num + r.low * 10 ^ 16) * shift := by
      calc r.high * 10 ^ 16 * shift = r.high * shift * 10 ^ 16 := by ring
        _ ≤ (r.low * shift + step) * 10 ^ 16 := Nat.mul_le_mul_right _ h3
        _ = r.low * shift * 10 ^ 16 + step * 10 ^ 16 := by ring
        _ ≤ r.low * shift * 10 ^ 16 + r.num * shift := Nat.add_le_add_left hstep _
        _ = (r.num + r.low * 10 ^ 16) * shift := by ring
    exact absurd (Nat.le_of_mul_le_mul_right h4 hshift) (by omega)

/-- The search ends with a number that is not zero and has the size of the double. -/
theorem search_spec (tie : Tie) (h : Leads r top) (hd : 0 < r.den)
    (hw : r.num + r.low * 10 ^ 16 < r.high * 10 ^ 16) {fuel n : Nat} (hn : 0 < n)
    (hsum : n + fuel = 17) :
    (r.search tie top fuel n).digits ≠ 0 ∧ (r.search tie top fuel n).leading ≤ top + 1 := by
  have found : ∀ {n d : Nat}, 0 < n → r.onGrid tie (top + 1 - n) = some d →
      (trimZeros d (top + 1 - n)).digits ≠ 0 ∧
        (trimZeros d (top + 1 - n)).leading ≤ top + 1 := by
    intro n d hn hp
    obtain ⟨h0, hle⟩ := onGrid_bounds h hd hn hp
    obtain ⟨t0, tl⟩ := trimZeros_spec h0 (top + 1 - n)
    have hlt : d < 10 ^ (n + 1) :=
      Nat.lt_of_le_of_lt hle (Nat.pow_lt_pow_right (by decide) (Nat.lt_succ_self n))
    have := width_le (Nat.succ_pos n) hlt
    exact ⟨t0, by omega⟩
  -- with 17 digits the search cannot fail; with fewer it may, and goes on
  induction fuel generalizing n with
  | zero =>
    obtain rfl : n = 17 := by omega
    obtain ⟨d, hp⟩ := onGrid_isSome tie h hw
    have hp' : r.onGrid tie (top + 1 - (17 : Nat)) = some d := hp
    rw [search, hp', Option.getD_some]
    exact found hn hp'
  | succ fuel ih =>
    rw [search]
    cases hp : r.onGrid tie (top + 1 - n) with
    | some d => exact found hn hp
    | none => exact ih (Nat.succ_pos n) (by omega)

/-- Half a step to either side is more than what seventeen digits leave open. -/
theorem ofBinary_wide {mant : Nat} (exp : Int) (hm : mant < 2 * leastNormal) :
    (ofBinary mant exp).num + (ofBinary mant exp).low * 10 ^ 16 <
      (ofBinary mant exp).high * 10 ^ 16 := by
  have hup : 0 < 2 ^ (exp - 2).toNat := Nat.two_pow_pos _
  unfold ofBinary
  simp only [Nat.pow_eq]
  generalize 2 ^ (exp - 2).toNat = up at hup
  have key : ∀ below, (below = 1 ∧ mant = leastNormal ∨ below = 2) →
      4 * mant * up + (4 * mant - below) * up * 10 ^ 16 < (4 * mant + 2) * up * 10 ^ 16 := by
    intro below hb
    have hlt : 4 * mant + (4 * mant - below) * 10 ^ 16 < (4 * mant + 2) * 10 ^ 16 := by
      simp only [leastNormal] at hm hb
      omega
    calc 4 * mant * up + (4 * mant - below) * up * 10 ^ 16
        = (4 * mant + (4 * mant - below) * 10 ^ 16) * up := by ring
      _ < (4 * mant + 2) * 10 ^ 16 * up := Nat.mul_lt_mul_of_pos_right hlt hup
      _ = (4 * mant + 2) * up * 10 ^ 16 := by ring
  apply key
  split
  · rename_i h
    simp only [Bool.and_eq_true, beq_iff_eq] at h
    exact .inl ⟨rfl, h.1⟩
  · exact .inr rfl

end Reach

/-! ## 4. The shortest decimal -/

/-- **The shortest decimal of a double below `2 ^ 69` is zero, or has digits and is not above
    `10 ^ 22`.** -/
theorem shortest_spec (tie : Tie) {x : Binary64} (hx : Sound x) (he : x.exp ≤ 16) :
    shortest tie x = ⟨0, 0⟩ ∨
      ((shortest tie x).digits ≠ 0 ∧ (shortest tie x).leading ≤ 21) := by
  unfold shortest
  by_cases h0 : x.mant = 0
  · exact .inl (if_pos (by simp [isZero, h0]))
  rw [if_neg (by simp [isZero, h0])]
  have hup : 2 ^ (x.exp - 2).toNat ≤ 2 ^ 14 := Nat.pow_le_pow_right (by decide) (by omega)
  have hupPos : 0 < 2 ^ (x.exp - 2).toNat := Nat.two_pow_pos _
  have hden : 0 < (Reach.ofBinary x.mant x.exp).den := Nat.two_pow_pos _
  have hnum : 0 < (Reach.ofBinary x.mant x.exp).num :=
    Nat.mul_pos (by omega) hupPos
  -- a double below `2 ^ 69` is below `10 ^ 21`, so its first digit stands no higher
  have hlt : (Reach.ofBinary x.mant x.exp).num < (Reach.ofBinary x.mant x.exp).den * 10 ^ 21 := by
    have hm : 4 * x.mant ≤ 2 ^ 55 := by
      have := hx.mant_lt
      simp only [leastNormal] at this
      omega
    calc 4 * x.mant * 2 ^ (x.exp - 2).toNat ≤ 2 ^ 55 * 2 ^ 14 := Nat.mul_le_mul hm hup
      _ < 10 ^ 21 := by decide
      _ ≤ _ := Nat.le_mul_of_pos_left _ hden
  have hl := Reach.leading_spec hnum hden
  have htop := hl.top_le hlt
  obtain ⟨h1, h2⟩ := Reach.search_spec tie hl hden (Reach.ofBinary_wide x.exp hx.mant_lt)
    Nat.one_pos (show 1 + 16 = 17 by decide)
  exact .inr ⟨h1, Int.le_trans h2 (by omega)⟩

end CitationFusion.Decimal
