import CitationFusion.Clock
import Mathlib.Tactic.Ring
import Mathlib.Algebra.Order.Ring.Nat

/-!
# The range of rounded doubles

Rounding gives a significand of 53 binary digits at most, and an exponent that the size of the
number bounds. So sums, products and times in use never leave the range of doubles.

* `round_sound` : what rounding gives is a double.
* `round_exp_le`, `round_eq_some` : its exponent, and that there is one.
* `Duration.seconds_spec` : the seconds of a span of time.
-/

namespace CitationFusion

/-- A quotient against a power of `b`: only the difference of the exponents on both sides
    counts. -/
theorem scale_le_iff {b : Nat} (hb : 0 < b) {e : Int} {i j : Nat} (h : e = (j : Int) - i)
    (x y : Nat) : x * b ^ e.toNat ≤ y * b ^ (-e).toNat ↔ x * b ^ j ≤ y * b ^ i := by
  obtain ⟨k, hj, hi⟩ : ∃ k, j = e.toNat + k ∧ i = (-e).toNat + k :=
    ⟨j - e.toNat, by omega, by omega⟩
  rw [hj, hi, Nat.pow_add, Nat.pow_add, ← Nat.mul_assoc, ← Nat.mul_assoc]
  exact (Nat.mul_le_mul_right_iff (Nat.pow_pos hb)).symm

theorem scale_lt_iff {b : Nat} (hb : 0 < b) {e : Int} {i j : Nat} (h : e = (j : Int) - i)
    (x y : Nat) : y * b ^ (-e).toNat < x * b ^ e.toNat ↔ y * b ^ i < x * b ^ j := by
  have := scale_le_iff hb h x y
  omega

namespace Binary64

/-- What a finite double is made of: at most 53 binary digits, and an exponent that is not too
    small. -/
structure Sound (x : Binary64) : Prop where
  mant_lt : x.mant < 2 * leastNormal
  le_exp : minExp ≤ x.exp

/-! ## 1. Significands -/

theorem nearest_le {num den c : Nat} (h : num < c * den) : nearest num den ≤ c := by
  have hq : num / den < c := Nat.div_lt_of_lt_mul (by rwa [Nat.mul_comm] at h)
  unfold nearest
  simp only
  split <;> omega

/-- **Scaled to its exponent, a quotient has 53 binary digits at most.** -/
theorem scaled_exponentOf_lt (num : Nat) {den : Nat} (hd : 0 < den) :
    (scaled num den (exponentOf num den)).1 <
      2 * leastNormal * (scaled num den (exponentOf num den)).2 := by
  -- the comparison at an exponent `j - i`, without the truncation of either
  have at_exp : ∀ {e : Int} {i j : Nat} (c : Nat), e = (j : Int) - i →
      ((scaled num den e).1 < c * (scaled num den e).2 ↔ num * 2 ^ i < c * den * 2 ^ j) := by
    intro e i j c h
    rw [← scale_lt_iff (by decide) h (c * den) num]
    simp [scaled, Nat.mul_assoc]
  have grow : ∀ {e e' : Int} (c : Nat), e ≤ e' →
      (scaled num den e).1 < c * (scaled num den e).2 →
      (scaled num den e').1 < c * (scaled num den e').2 := by
    intro e e' c hle h
    rw [at_exp c (i := (-e).toNat) (j := e.toNat) (by omega)] at h
    rw [at_exp c (i := (-e).toNat) (j := e.toNat + (e' - e).toNat) (by omega), Nat.pow_add,
      ← Nat.mul_assoc]
    exact Nat.lt_of_lt_of_le h (Nat.le_mul_of_pos_right _ (Nat.two_pow_pos _))
  have hnum : num < 2 ^ (num.log2 + 1) := Nat.lt_log2_self
  have hden : 2 ^ den.log2 ≤ den := Nat.log2_self_le (Nat.ne_of_gt hd)
  refine grow _ (Int.le_max_right _ _) ?_
  split
  · rename_i h
    rw [at_exp leastNormal (i := den.log2 + 52) (j := num.log2) (by omega)] at h
    rw [at_exp _ (i := den.log2 + 53) (j := num.log2) (by omega)]
    calc num * 2 ^ (den.log2 + 53) = 2 * (num * 2 ^ (den.log2 + 52)) := by ring
      _ < 2 * (leastNormal * den * 2 ^ num.log2) := by omega
      _ = 2 * leastNormal * den * 2 ^ num.log2 := by ring
  · rw [at_exp _ (i := den.log2 + 52) (j := num.log2) (by omega)]
    calc num * 2 ^ (den.log2 + 52) < 2 ^ (num.log2 + 1) * 2 ^ (den.log2 + 52) :=
          Nat.mul_lt_mul_of_pos_right hnum (Nat.two_pow_pos _)
      _ = 2 * leastNormal * 2 ^ den.log2 * 2 ^ num.log2 := by rw [leastNormal]; ring
      _ ≤ 2 * leastNormal * den * 2 ^ num.log2 :=
          Nat.mul_le_mul_right _ (Nat.mul_le_mul_left _ hden)

/-! ## 2. Exponents -/

theorem exponentOf_le {num den k : Nat} (hn : 0 < num) (hk : num < den * 2 ^ k) :
    exponentOf num den ≤ (k : Int) - 52 := by
  have h1 : 2 ^ num.log2 ≤ num := Nat.log2_self_le (Nat.ne_of_gt hn)
  have h2 : den < 2 ^ (den.log2 + 1) := Nat.lt_log2_self
  have h3 : 2 ^ num.log2 < 2 ^ (den.log2 + 1 + k) := by
    calc 2 ^ num.log2 ≤ num := h1
      _ < den * 2 ^ k := hk
      _ ≤ 2 ^ (den.log2 + 1) * 2 ^ k := Nat.mul_le_mul_right _ (Nat.le_of_lt h2)
      _ = 2 ^ (den.log2 + 1 + k) := (Nat.pow_add _ _ _).symm
  have h4 : num.log2 < den.log2 + 1 + k := (Nat.pow_lt_pow_iff_right (by decide)).1 h3
  unfold exponentOf
  simp only [minExp]
  split <;> omega

section Round

variable {negative : Bool} {num den k : Nat} {x : Binary64}

/-- What rounding gives: zero, or a rounded significand, which may have got a 54th digit. -/
theorem round_cases (h : round negative num den = some x) :
    x.negative = negative ∧
      ((x.mant = 0 ∧ x.exp = minExp) ∨
        (0 < num ∧ x.mant = leastNormal ∧ x.exp = exponentOf num den + 1) ∨
        (0 < num ∧ x.exp = exponentOf num den ∧ x.mant ≠ 2 * leastNormal ∧
          x.mant = nearest (scaled num den x.exp).1 (scaled num den x.exp).2)) := by
  unfold round at h
  by_cases hn : num = 0
  · rw [if_pos (by simpa using hn)] at h
    cases h
    exact ⟨rfl, .inl ⟨rfl, rfl⟩⟩
  rw [if_neg (by simpa using hn)] at h
  have hn : 0 < num := Nat.pos_of_ne_zero hn
  simp only at h
  -- the significand may have been rounded up to a power of two
  split at h
  · by_cases hm : maxExp < exponentOf num den + 1
    · rw [if_pos hm] at h
      cases h
    · rw [if_neg hm] at h
      cases h
      exact ⟨rfl, .inr (.inl ⟨hn, rfl, rfl⟩)⟩
  · rename_i hne
    by_cases hm : maxExp < exponentOf num den
    · rw [if_pos hm] at h
      cases h
    · rw [if_neg hm] at h
      cases h
      exact ⟨rfl, .inr (.inr ⟨hn, rfl, by simpa using hne, rfl⟩)⟩

/-- **What rounding gives is a double.** -/
theorem round_sound (hd : 0 < den) (h : round negative num den = some x) : Sound x := by
  have he : minExp ≤ exponentOf num den := Int.le_max_left _ _
  obtain ⟨-, ⟨hm, hx⟩ | ⟨-, hm, hx⟩ | ⟨-, hx, hne, hm⟩⟩ := round_cases h
  · exact ⟨by rw [hm]; decide, by omega⟩
  · exact ⟨by rw [hm]; decide, by omega⟩
  · have hle := nearest_le (scaled_exponentOf_lt num hd)
    rw [← hx, ← hm] at hle
    exact ⟨Nat.lt_of_le_of_ne hle hne, by omega⟩

/-- **The exponent of a rounded double is that of its size.** -/
theorem round_exp_le (h : round negative num den = some x)
    (hk : num < den * 2 ^ k) : x.exp ≤ (k : Int) - 51 := by
  obtain ⟨-, ⟨-, hx⟩ | ⟨hn, -, hx⟩ | ⟨hn, hx, -, -⟩⟩ := round_cases h
  · simp only [hx, minExp]
    omega
  · have := exponentOf_le hn hk
    omega
  · have := exponentOf_le hn hk
    omega

/-- **What is not too large is rounded to a double.** -/
theorem round_eq_some (negative : Bool) (hk : num < den * 2 ^ k) (hle : k ≤ 1000) :
    ∃ x, round negative num den = some x := by
  unfold round
  split
  · exact ⟨_, rfl⟩
  · rename_i hn
    have hn : 0 < num := Nat.pos_of_ne_zero (by simpa using hn)
    have he := exponentOf_le hn hk
    simp only
    split <;> rw [if_neg (by simp only [maxExp]; omega)] <;> exact ⟨_, rfl⟩

end Round

/-! ## 3. Magnitudes -/

theorem den_pos (x : Binary64) : 0 < x.den := Nat.two_pow_pos _

theorem Sound.num_lt {x : Binary64} (hx : Sound x) {k : Nat} (he : x.exp ≤ k) :
    x.num < x.den * 2 ^ (53 + k) := by
  have hm : x.mant < 2 ^ 53 := hx.mant_lt
  show x.mant * 2 ^ x.exp.toNat < x.den * 2 ^ (53 + k)
  calc x.mant * 2 ^ x.exp.toNat < 2 ^ 53 * 2 ^ x.exp.toNat :=
        Nat.mul_lt_mul_of_pos_right hm (Nat.two_pow_pos _)
    _ ≤ 2 ^ 53 * 2 ^ k := Nat.mul_le_mul_left _ (Nat.pow_le_pow_right (by decide) (by omega))
    _ = 2 ^ (53 + k) := (Nat.pow_add _ _ _).symm
    _ ≤ x.den * 2 ^ (53 + k) := Nat.le_mul_of_pos_left _ x.den_pos

/-- The double nearest to a number that is not too large. -/
theorem ofNat_spec {n k : Nat} (hn : n < 2 ^ k) (hk : k ≤ 1000) :
    ∃ x, ofNat n = some x ∧ Sound x ∧ x.exp ≤ (k : Int) - 51 := by
  have hn' : n < 1 * 2 ^ k := by rwa [Nat.one_mul]
  obtain ⟨x, hx⟩ := round_eq_some false hn' hk
  exact ⟨x, hx, round_sound Nat.one_pos hx, round_exp_le hx hn'⟩

end Binary64

/-! ## 4. Spans of time -/

namespace Duration

open Binary64

/-- The seconds of a span of time, as far as the clock counts them, are a double below `2 ^ 69`
    that is not negative. -/
theorem seconds_spec {d : Duration} (h : d.secs < word64) :
    Sound d.seconds ∧ d.seconds.exp ≤ 16 ∧ d.seconds.negative = false := by
  obtain ⟨x, hx, sx, ex⟩ := ofNat_spec (k := 64) (show d.secs < 2 ^ 64 from h) (by decide)
  have hsub : d.subsecNanos < nanosPerSecond * 2 ^ 0 := by
    rw [Nat.pow_zero, Nat.mul_one]
    exact Nat.mod_lt _ (by decide)
  obtain ⟨y, hy⟩ := round_eq_some false hsub (by decide)
  have sy := round_sound (by decide) hy
  have ey := round_exp_le hy hsub
  have nx := sx.num_lt (k := 13) (by omega)
  have ny := sy.num_lt (k := 0) (by omega)
  -- both parts are below `2 ^ 66`
  have hsum : x.num * y.den + y.num * x.den < x.den * y.den * 2 ^ 67 := by
    have h1 : x.num * y.den < x.den * 2 ^ 66 * y.den := Nat.mul_lt_mul_of_pos_right nx y.den_pos
    have h2 : y.num * x.den < y.den * 2 ^ 53 * x.den := Nat.mul_lt_mul_of_pos_right ny x.den_pos
    calc x.num * y.den + y.num * x.den < x.den * 2 ^ 66 * y.den + y.den * 2 ^ 53 * x.den := by omega
      _ ≤ x.den * 2 ^ 66 * y.den + y.den * 2 ^ 66 * x.den :=
          Nat.add_le_add_left (Nat.mul_le_mul_right _ (Nat.mul_le_mul_left _ (by decide))) _
      _ = x.den * y.den * 2 ^ 67 := by ring
  have hden : 0 < x.den * y.den := Nat.mul_pos x.den_pos y.den_pos
  obtain ⟨z, hz⟩ := round_eq_some false hsum (by decide)
  have e : d.seconds = z := by
    simp only [seconds, hx, hy, Option.getD_some, addMagnitudes, hz]
  rw [e]
  exact ⟨round_sound hden hz, round_exp_le hz hsum, (round_cases hz).1⟩

end Duration

end CitationFusion
