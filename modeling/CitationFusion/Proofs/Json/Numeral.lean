import CitationFusion.Json.Write
import CitationFusion.Proofs.Decimal.Rounding
import CitationFusion.Proofs.Json.Written

/-!
# Numerals

The spellings of numbers that are written, taken apart: digits without a needless zero before
them, a fraction, and a power of ten.

* `Numeral.isNumber`, `Numeral.isValue` : a numeral is a number, so it is one value.
* `Numeral.readNumberValue_text` : a numeral of a modest size is read, up to its end.
* `written_double`, `written_nat` : doubles and natural numbers.
-/

namespace CitationFusion.Json

open Ascii

/-! ## 1. Digits -/

/-- The number that digits write behind the number `init`. -/
def valueOf (init : Nat) (ds : Bytes) : Nat := ds.foldl (fun n d => n * 10 + digitValue d) init

theorem le_valueOf (init : Nat) (ds : Bytes) : init ≤ valueOf init ds := by
  induction ds generalizing init with
  | nil => exact Nat.le_refl _
  | cons d ds ih =>
    have : init * 10 + digitValue d ≤ valueOf (init * 10 + digitValue d) ds := ih _
    show init ≤ valueOf (init * 10 + digitValue d) ds
    omega

/-- The octet of a digit. -/
theorem digit_octet {c : Char} (h : c.isDigit = true) :
    isDigit c.toNat.toUInt8 = true ∧ digitValue c.toNat.toUInt8 = c.toNat - 48 ∧
      (c.toNat.toUInt8 = zero → c = '0') := by
  have hc : 48 ≤ c.toNat ∧ c.toNat ≤ 57 := by
    simp only [Char.isDigit, Bool.and_eq_true, decide_eq_true_eq, ge_iff_le,
      UInt32.le_iff_toNat_le] at h
    exact h
  have hn : c.toNat.toUInt8.toNat = c.toNat := Utf8.toNat_ofNat (by omega)
  refine ⟨?_, by rw [digitValue, hn], fun he => ?_⟩
  · simp [isDigit, UInt8.le_iff_toNat_le, hn, hc]
  · apply Char.toNat_inj.1
    rw [← hn, he]
    rfl

theorem allDigits_octets {cs : List Char} (h : ∀ c ∈ cs, c.isDigit = true) :
    AllDigits (octets cs) := by
  intro d hd
  obtain ⟨c, hc, rfl⟩ := List.mem_map.1 hd
  exact (digit_octet (h c hc)).1

theorem valueOf_octets {cs : List Char} (h : ∀ c ∈ cs, c.isDigit = true) (init : Nat) :
    valueOf init (octets cs) = Nat.ofDigitChars 10 cs init := by
  induction cs generalizing init with
  | nil => simp [valueOf, octets]
  | cons c cs ih =>
    rw [Nat.ofDigitChars_cons, ← ih (fun x hx => h x (by simp [hx]))]
    show valueOf (init * 10 + digitValue c.toNat.toUInt8) (octets cs) = _
    rw [(digit_octet (h c (by simp))).2.1, Nat.mul_comm]
    rfl

theorem isDigit_toDigits {n : Nat} {c : Char} (h : c ∈ Nat.toDigits 10 n) : c.isDigit = true :=
  Nat.isDigit_of_mem_toDigits (by decide) (by decide) h

/-- The digits of a number that is not zero begin with another digit than zero. -/
theorem toDigits_head {n : Nat} (h : n ≠ 0) :
    ∃ c cs, Nat.toDigits 10 n = c :: cs ∧ c ≠ '0' := by
  induction n using Nat.strongRecOn with
  | ind n ih =>
    by_cases hn : n < 10
    · have small : ∀ k < 10, k ≠ 0 → k.digitChar ≠ '0' := by decide
      exact ⟨n.digitChar, [], Nat.toDigits_of_lt_base hn, small n hn h⟩
    · obtain ⟨c, cs, hc, h0⟩ := ih (n / 10) (by omega) (by omega)
      refine ⟨c, cs ++ [(n % 10).digitChar], ?_, h0⟩
      rw [Nat.toDigits_of_base_le (by decide) (by omega), hc]
      rfl

/-! ## 2. Numerals -/

/-- A number as it is written. -/
structure Numeral where
  negative : Bool
  whole : Bytes
  /-- The digits behind the point; without any there is no point. -/
  fraction : Bytes
  /-- The sign and the digits of the power of ten. -/
  power : Option (Bool × Bytes)
  whole_digits : AllDigits whole
  /-- Only zero begins with the digit zero. -/
  whole_form : whole = [zero] ∨ ∃ d r, whole = d :: r ∧ d ≠ zero
  fraction_digits : AllDigits fraction
  power_digits : ∀ m ds, power = some (m, ds) → ds ≠ [] ∧ AllDigits ds

namespace Numeral

/-- The fraction with its point. -/
def fractionText (n : Numeral) : Bytes := if n.fraction = [] then [] else point :: n.fraction

/-- The power of ten with its letter and its sign. -/
def powerText (n : Numeral) : Bytes :=
  match n.power with
  | none => []
  | some (m, ds) => 0x65 :: (if m then minus else plus) :: ds

/-- The numeral without its sign. -/
def magnitude (n : Numeral) : Bytes := n.whole ++ (n.fractionText ++ n.powerText)

/-- The numeral. -/
def text (n : Numeral) : Bytes := if n.negative then minus :: n.magnitude else n.magnitude

/-- Whether a numeral is far below the largest double. -/
structure Modest (n : Numeral) : Prop where
  whole_le : n.whole.length ≤ 100
  power_le : ∀ ds, n.power = some (false, ds) → valueOf 0 ds ≤ 100

variable (n : Numeral) {t : Bytes}

theorem skipSign_sign (m : Bool) (ds : Bytes) :
    skipSign ((if m then minus else plus) :: ds) = ds := by
  cases m <;> rfl

/-! ## 3. A numeral is a number -/

theorem isWhole : IsWhole n.whole := by
  have hds := n.whole_digits
  rcases n.whole_form with h0 | ⟨d, r, hd, hne⟩
  · rw [h0]
    exact .zero
  · rw [hd] at hds ⊢
    exact .digits hne hds

theorem whole_ne_nil : n.whole ≠ [] := by
  obtain ⟨d, r, hwhole, -⟩ := n.isWhole.head
  rw [hwhole]
  exact List.cons_ne_nil d r

/-- The first octet of a numeral without its sign. -/
theorem magnitude_cons : ∃ d r, n.magnitude = d :: r ∧ isDigit d = true := by
  obtain ⟨d, r, hwhole, hd⟩ := n.isWhole.head
  exact ⟨d, r ++ (n.fractionText ++ n.powerText), by rw [magnitude, hwhole, List.cons_append], hd⟩

theorem isFraction : IsFraction n.fractionText := by
  have hds := n.fraction_digits
  unfold fractionText
  cases h : n.fraction with
  | nil => exact .none
  | cons d ds =>
    rw [h] at hds
    exact .some hds

theorem isPower : IsPower n.powerText := by
  unfold powerText
  split
  · exact .none
  · rename_i m ds hp
    obtain ⟨hne, hds⟩ := n.power_digits m ds hp
    cases ds with
    | nil => exact absurd rfl hne
    | cons d ds =>
      cases m with
      | true => exact .some (.inl rfl) .minus hds
      | false => exact .some (.inl rfl) .plus hds

/-- **A numeral is a number.** -/
theorem isNumber : IsNumber n.text := by
  unfold text
  split
  · exact .negative n.isWhole n.isFraction n.isPower
  · exact .positive n.isWhole n.isFraction n.isPower

/-- **A numeral is one value.** -/
theorem isValue : IsValue n.text := (isScalar_number n.isNumber).isValue

theorem bare : skipSpace n.text = n.text := by
  obtain ⟨b, r, htext, hspace, -⟩ := isScalar_number n.isNumber
  rw [htext]
  exact skipSpace_cons r hspace

theorem digitless_powerText (ht : Closed t) : Digitless (n.powerText ++ t) :=
  n.isPower.digitless fun _ => ht.digitless

theorem digitless_fractionText (ht : Closed t) :
    Digitless (n.fractionText ++ (n.powerText ++ t)) :=
  n.isFraction.digitless n.isPower fun _ => ht.digitless

/-! ## 4. Reading a numeral -/

/-- Whether a reader takes a number off every text that closes one, and always the same. -/
def Reads (f : Bytes → Except Stop (Number × Bytes)) : Prop :=
  ∃ x, ∀ t, Closed t → f t = .ok (x, t)

theorem Reads.congr {f g : Bytes → Except Stop (Number × Bytes)} (h : Reads g)
    (hfg : ∀ t, Closed t → f t = g t) : Reads f := by
  obtain ⟨x, hx⟩ := h
  exact ⟨x, fun t ht => (hfg t ht).trans (hx t ht)⟩

section Reading

variable (negative : Bool) {minus : Bool} {digits e : Nat} {exp : Int} {ds : Bytes}

/-- **Digits of 64 bits and a modest power of ten make a double.** -/
theorem doubleOf_eq_some (hd : digits < word64) (he : exp ≤ 200) :
    ∃ x, doubleOf negative digits exp = some x := by
  obtain ⟨x, hx, sx, ex⟩ := Binary64.ofNat_spec (show digits < 2 ^ 64 from hd) (by decide)
  unfold doubleOf
  rw [hx]
  by_cases hneg : exp < 0
  · exact ⟨_, by rw [Option.bind_eq_bind, Option.bind_some, if_pos hneg]; rfl⟩
  -- the product is below `2 ^ 919`, far below the greatest double
  have hten : 10 ^ exp.natAbs < 2 ^ (4 * exp.natAbs + 1) := by
    calc 10 ^ exp.natAbs ≤ 16 ^ exp.natAbs := Nat.pow_le_pow_left (by decide) _
      _ = 2 ^ (4 * exp.natAbs) := by rw [Nat.pow_mul]
      _ < 2 ^ (4 * exp.natAbs + 1) := Nat.pow_lt_pow_right (by decide) (Nat.lt_succ_self _)
  obtain ⟨y, hy, sy, ey⟩ := Binary64.ofNat_spec hten (by omega)
  have nx := sx.num_lt (k := 13) (by omega)
  have ny := sy.num_lt (k := 4 * exp.natAbs) (by omega)
  have hlt : x.num * y.num < x.den * y.den * 2 ^ (66 + (53 + 4 * exp.natAbs)) := by
    calc x.num * y.num ≤ x.num * (y.den * 2 ^ (53 + 4 * exp.natAbs)) :=
          Nat.mul_le_mul_left _ (Nat.le_of_lt ny)
      _ < x.den * 2 ^ 66 * (y.den * 2 ^ (53 + 4 * exp.natAbs)) :=
          Nat.mul_lt_mul_of_pos_right nx (Nat.mul_pos y.den_pos (Nat.two_pow_pos _))
      _ = x.den * y.den * 2 ^ (66 + (53 + 4 * exp.natAbs)) := by rw [Nat.pow_add]; ring
  obtain ⟨z, hz⟩ := Binary64.round_eq_some (x.negative != y.negative) hlt (by omega)
  have hmul : x.mul y = some z := hz
  refine ⟨if negative then z.neg else z, ?_⟩
  rw [Option.bind_eq_bind, Option.bind_some, if_neg hneg, if_pos (by omega),
    Binary64.tenPow, Nat.pow_eq, hy]
  simp only [Option.bind_some, hmul]
  rfl

theorem settle_reads (hd : digits < word64) (he : exp ≤ 200) :
    Reads fun t => settle negative digits exp t := by
  obtain ⟨x, hx⟩ := doubleOf_eq_some negative hd he
  exact ⟨.float x, fun t _ => by simp only [settle, hx]⟩

theorem readExponentDigits_reads (hd : digits < word64) (hexp : exp ≤ 100) (hds : AllDigits ds)
    (hpow : minus = false → valueOf e ds ≤ 100) :
    Reads fun t => readExponentDigits negative digits exp minus e (ds ++ t) := by
  -- along the digits; more than 31 bits stand only behind a minus sign, and that makes zero
  induction ds generalizing e with
  | nil =>
    have he : (if minus then exp - e else exp + e) ≤ 200 := by
      cases minus with
      | false =>
        have : e ≤ 100 := hpow rfl
        simp only [Bool.false_eq_true, if_false]
        omega
      | true =>
        simp only [if_true]
        omega
    refine (settle_reads negative hd he).congr fun t ht => ?_
    cases t with
    | nil => rfl
    | cons b t =>
      simp only [List.nil_append, readExponentDigits, (closed_cons.1 ht).1, Bool.false_eq_true,
        if_false]
  | cons d ds ih =>
    simp only [List.cons_append, readExponentDigits, hds.head, if_true]
    split
    · exact ih hds.tail hpow
    · rename_i hbig
      cases minus with
      | false =>
        have h1 : valueOf (e * 10 + digitValue d) ds ≤ 100 := hpow rfl
        have h2 := le_valueOf (e * 10 + digitValue d) ds
        simp only [word31] at hbig
        omega
      | true =>
        refine ⟨.float (if negative then Binary64.zero.neg else .zero), fun t ht => ?_⟩
        simp only [Bool.not_true, Bool.and_false, Bool.false_eq_true, if_false,
          skipDigits_append hds.tail ht.digitless]

end Reading

section Parts

variable {n} (negative : Bool) {digits : Nat} {exp : Int}

theorem readExponent_sign {m : Bool} {ds : Bytes} (hp : n.power = some (m, ds)) (hn : n.Modest)
    (hd : digits < word64) (hexp : exp ≤ 100) :
    Reads fun t => readExponent negative digits exp ((if m then minus else plus) :: (ds ++ t)) := by
  obtain ⟨hne, hds⟩ := n.power_digits m ds hp
  cases ds with
  | nil => exact absurd rfl hne
  | cons d ds =>
    have hpow : m = false → valueOf (digitValue d) ds ≤ 100 := by
      intro h
      have := hn.power_le (d :: ds) (h ▸ hp)
      rwa [valueOf, List.foldl_cons, Nat.zero_mul, Nat.zero_add] at this
    refine (readExponentDigits_reads negative hd hexp hds.tail hpow).congr fun t _ => ?_
    have hm : (((if m then minus else plus) :: (d :: ds ++ t)).head? == some minus) = m := by
      cases m <;> rfl
    rw [readExponent, skipSign_sign, hm]
    simp only [List.cons_append, hds.head, if_true]

theorem readExponentPart_reads (hn : n.Modest) (hd : digits < word64) (hexp : exp ≤ 100) :
    Reads fun t => readExponentPart negative digits exp (n.powerText ++ t) := by
  unfold powerText
  split
  · refine (settle_reads negative hd (Int.le_trans hexp (by decide))).congr
      fun t ht => ?_
    cases t with
    | nil => rfl
    | cons b t =>
      have hb := closed_cons.1 ht
      simp [readExponentPart, hb]
  · rename_i m ds hp
    exact (readExponent_sign negative hp hn hd hexp).congr fun t _ => rfl

theorem readFractionDigits_reads {ds : Bytes} (hds : AllDigits ds) (hn : n.Modest)
    (hd : digits < word64) (hexp : exp ≤ 100) :
    Reads fun t => readFractionDigits negative digits exp (ds ++ (n.powerText ++ t)) := by
  induction ds generalizing digits exp with
  | nil =>
    refine (readExponentPart_reads negative hn hd hexp).congr fun t ht => ?_
    have hless := n.digitless_powerText ht
    rw [List.nil_append]
    generalize n.powerText ++ t = r at hless
    cases r with
    | nil => rfl
    | cons b r =>
      simp only [readFractionDigits, digitless_cons.1 hless, Bool.false_eq_true, if_false]
  | cons d ds ih =>
    simp only [List.cons_append, readFractionDigits, hds.head, if_true]
    split
    · rename_i hlt
      exact ih hds.tail hlt (by omega)
    · refine (readExponentPart_reads negative hn hd hexp).congr fun t ht => ?_
      rw [skipDigits_append hds.tail (n.digitless_powerText ht)]

theorem readFraction_reads (hn : n.Modest) (hd : digits < word64) (hexp : exp ≤ 100)
    (hf : n.fraction ≠ []) :
    Reads fun t => readFraction negative digits exp (n.fraction ++ (n.powerText ++ t)) := by
  have hds := n.fraction_digits
  refine (readFractionDigits_reads negative hds hn hd hexp).congr fun t _ => ?_
  cases h : n.fraction with
  | nil => exact absurd h hf
  | cons d ds =>
    rw [h] at hds
    simp only [List.cons_append, readFraction, hds.head, if_true]

/-- What follows the digits before the point: the end of the numeral, a fraction, or a power. -/
theorem rest_cases (n : Numeral) :
    (∀ t, n.fractionText ++ (n.powerText ++ t) = t) ∨
    (n.fraction ≠ [] ∧ ∀ t,
      n.fractionText ++ (n.powerText ++ t) = point :: (n.fraction ++ (n.powerText ++ t))) ∨
    (∃ m ds, n.power = some (m, ds) ∧ ∀ t,
      n.fractionText ++ (n.powerText ++ t) = 0x65 :: (if m then minus else plus) :: (ds ++ t)) := by
  unfold fractionText
  by_cases hf : n.fraction = []
  · rw [if_pos hf]
    unfold powerText
    split
    · exact .inl fun _ => rfl
    · rename_i m ds hp
      exact .inr (.inr ⟨m, ds, hp, fun _ => rfl⟩)
  · rw [if_neg hf]
    exact .inr (.inl ⟨hf, fun _ => rfl⟩)

theorem readIntegerEnd_reads (hn : n.Modest) (hd : digits < word64) :
    Reads fun t => readIntegerEnd negative digits (n.fractionText ++ (n.powerText ++ t)) := by
  rcases n.rest_cases with h | ⟨hf, h⟩ | ⟨m, ds, hp, h⟩
  · refine ⟨integer negative digits, fun t ht => ?_⟩
    show readIntegerEnd negative digits (n.fractionText ++ (n.powerText ++ t)) = _
    rw [h]
    cases t with
    | nil => rfl
    | cons b t =>
      have hb := closed_cons.1 ht
      simp [readIntegerEnd, hb]
  · refine (readFraction_reads negative hn hd (show (0 : Int) ≤ 100 by decide) hf).congr
      fun t _ => ?_
    rw [h]
    rfl
  · refine (readExponent_sign negative hp hn hd (show (0 : Int) ≤ 100 by decide)).congr
      fun t _ => ?_
    rw [h]
    rfl

theorem readLongInteger_reads {ds : Bytes} {e : Nat} (hds : AllDigits ds) (hn : n.Modest)
    (hd : digits < word64) (he : e + ds.length ≤ 100) :
    Reads fun t =>
      readLongInteger negative digits e (ds ++ (n.fractionText ++ (n.powerText ++ t))) := by
  induction ds generalizing e with
  | nil =>
    have hexp : (e : Int) ≤ 100 := by
      rw [List.length_nil] at he
      omega
    rcases n.rest_cases with h | ⟨hf, h⟩ | ⟨m, ds, hp, h⟩
    · refine (settle_reads negative hd (show (e : Int) ≤ 200 by omega)).congr
        fun t ht => ?_
      rw [h, List.nil_append]
      cases t with
      | nil => rfl
      | cons b t =>
        have hb := closed_cons.1 ht
        simp [readLongInteger, hb]
    · refine (readFraction_reads negative hn hd hexp hf).congr fun t _ => ?_
      rw [h]
      rfl
    · refine (readExponent_sign negative hp hn hd hexp).congr fun t _ => ?_
      rw [h]
      rfl
  | cons d ds ih =>
    simp only [List.cons_append, readLongInteger, hds.head, if_true]
    exact ih hds.tail (by rw [List.length_cons] at he; omega)

theorem readIntegerDigits_reads {ds : Bytes} (hds : AllDigits ds) (hn : n.Modest)
    (hd : digits < word64) (hlen : ds.length ≤ 100) :
    Reads fun t =>
      readIntegerDigits negative digits (ds ++ (n.fractionText ++ (n.powerText ++ t))) := by
  induction ds generalizing digits with
  | nil =>
    refine (readIntegerEnd_reads negative hn hd).congr fun t ht => ?_
    have hless := n.digitless_fractionText ht
    rw [List.nil_append]
    generalize n.fractionText ++ (n.powerText ++ t) = r at hless
    cases r with
    | nil => rfl
    | cons b r =>
      simp only [readIntegerDigits, digitless_cons.1 hless, Bool.false_eq_true, if_false]
  | cons d ds ih =>
    rw [List.length_cons] at hlen
    simp only [List.cons_append, readIntegerDigits, hds.head, if_true]
    split
    · rename_i hlt
      exact ih hds.tail hlt (by omega)
    · exact readLongInteger_reads negative hds.tail hn hd (by omega)

theorem readUnsigned_reads (hn : n.Modest) :
    Reads fun t => readUnsigned negative (n.magnitude ++ t) := by
  have hds := n.whole_digits
  have hlen := hn.whole_le
  unfold magnitude
  simp only [List.append_assoc]
  rcases n.whole_form with h0 | ⟨d, r, hd, hne⟩
  · refine (readIntegerEnd_reads negative hn (show 0 < word64 by decide)).congr
      fun t ht => ?_
    have hless := n.digitless_fractionText ht
    rw [h0]
    generalize n.fractionText ++ (n.powerText ++ t) = rest at hless
    cases rest with
    | nil => rfl
    | cons c rest =>
      simp only [List.cons_append, List.nil_append, readUnsigned, beq_self_eq_true, if_true,
        digitless_cons.1 hless, Bool.false_eq_true, if_false]
  · rw [hd] at hds hlen ⊢
    rw [List.length_cons] at hlen
    have hv : digitValue d < word64 := by
      have := UInt8.toNat_lt d
      simp only [digitValue, word64]
      omega
    simp only [List.cons_append, readUnsigned, beq_iff_eq, hne, if_false, hds.head, if_true]
    exact readIntegerDigits_reads negative hds.tail hn hv (by omega)

/-- **A numeral of a modest size is read, up to its end.** -/
theorem readNumberValue_text (hn : n.Modest) (expected : String) :
    Reads fun t => readNumberValue expected (n.text ++ t) := by
  unfold text
  split
  · refine (readUnsigned_reads true hn).congr fun t _ => ?_
    have hs : skipSpace (minus :: (n.magnitude ++ t)) = _ := skipSpace_cons _ (by decide)
    simp only [List.cons_append, readNumberValue, hs, beq_self_eq_true, Bool.true_or, if_true,
      readNumber]
  · refine (readUnsigned_reads false hn).congr fun t _ => ?_
    obtain ⟨d, r, hm, hd⟩ := n.magnitude_cons
    have hne : d ≠ minus := ne_of_isDigit hd (by decide)
    rw [hm, List.cons_append]
    have hs : skipSpace (d :: (r ++ t)) = _ := skipSpace_cons _ (isDigit_plain hd).1
    simp only [readNumberValue, hs, hd, Bool.or_true, if_true, readNumber, beq_iff_eq, hne,
      if_false]

/-- **A numeral of a modest size is the text of a double.** -/
theorem written (hn : n.Modest) : ∃ x, Written readDouble n.text x := by
  obtain ⟨x, hx⟩ := readNumberValue_text hn "f64"
  refine ⟨x.toDouble, n.isValue, n.bare, fun t ht => ?_⟩
  simp only [readDouble, hx t ht]
  rfl

end Parts

end Numeral

/-! ## 5. Natural numbers -/

/-- The digits of a number have the form of those before the point. -/
theorem wholeForm_toDigits (n : Nat) :
    octets (Nat.toDigits 10 n) = [zero] ∨
      ∃ d r, octets (Nat.toDigits 10 n) = d :: r ∧ d ≠ zero := by
  by_cases h : n = 0
  · rw [h]
    exact .inl rfl
  · obtain ⟨c, cs, hc, h0⟩ := toDigits_head h
    have hd : c.isDigit = true := isDigit_toDigits (n := n) (by simp [hc])
    exact .inr ⟨_, _, by rw [hc]; rfl, fun he => h0 ((digit_octet hd).2.2 he)⟩

/-- The numeral of a natural number. -/
def Numeral.ofNat (n : Nat) : Numeral where
  negative := false
  whole := octets (Nat.toDigits 10 n)
  fraction := []
  power := none
  whole_digits := allDigits_octets fun _ h => isDigit_toDigits h
  whole_form := wholeForm_toDigits n
  fraction_digits := fun _ h => absurd h List.not_mem_nil
  power_digits := nofun

theorem Numeral.text_ofNat (n : Nat) : (Numeral.ofNat n).text = writeNat n := by
  show octets (Nat.toDigits 10 n) ++ ([] ++ []) = writeNat n
  rw [List.append_nil, List.append_nil]
  rfl

/-- Digits that fit 64 bits are read as the number that they write. -/
theorem readIntegerDigits_fits {ds : Bytes} (hds : AllDigits ds) {init : Nat}
    (h : valueOf init ds < word64) {t : Bytes} (ht : Closed t) :
    readIntegerDigits false init (ds ++ t) = .ok (.natural (valueOf init ds), t) := by
  induction ds generalizing init with
  | nil =>
    cases t with
    | nil => rfl
    | cons b t =>
      have hb := closed_cons.1 ht
      simp [readIntegerDigits, readIntegerEnd, hb, integer, valueOf]
  | cons d ds ih =>
    have hv : valueOf (init * 10 + digitValue d) ds < word64 := h
    have hlt : init * 10 + digitValue d < natLimit := Nat.lt_of_le_of_lt (le_valueOf _ ds) hv
    simp only [List.cons_append, readIntegerDigits, hds.head, if_true, hlt]
    exact ih hds.tail hv

/-- A natural number of 64 bits is read up to its end. -/
theorem readNumberValue_writeNat {n : Nat} (h : n < word64) (expected : String) {t : Bytes}
    (ht : Closed t) : readNumberValue expected (writeNat n ++ t) = .ok (.natural n, t) := by
  by_cases h0 : n = 0
  · subst h0
    cases t with
    | nil => rfl
    | cons b t =>
      have hb := closed_cons.1 ht
      have hs : skipSpace (zero :: b :: t) = zero :: b :: t := skipSpace_cons _ (by decide)
      show readNumberValue expected (zero :: b :: t) = _
      simp [readNumberValue, hs, readNumber, readUnsigned, readIntegerEnd, hb, integer,
        show (zero == minus) = false from rfl, show isDigit zero = true from rfl]
  · obtain ⟨c, cs, hc, hne⟩ := toDigits_head h0
    have hall : ∀ x ∈ c :: cs, x.isDigit = true := fun x hx => isDigit_toDigits (hc ▸ hx)
    have hd := allDigits_octets hall
    obtain ⟨hdig, hval, hzero⟩ := digit_octet (hall c (by simp))
    have hv : valueOf (digitValue c.toNat.toUInt8) (octets cs) = n := by
      have := valueOf_octets hall 0
      rw [← hc, Nat.ofDigitChars_ten_toDigits, hc] at this
      rw [← this]
      show _ = valueOf (0 * 10 + digitValue c.toNat.toUInt8) (octets cs)
      rw [Nat.zero_mul, Nat.zero_add]
    have hs : skipSpace (c.toNat.toUInt8 :: (octets cs ++ t)) = _ :=
      skipSpace_cons _ (isDigit_plain hdig).1
    have hm : c.toNat.toUInt8 ≠ minus := ne_of_isDigit hdig (by decide)
    have hz : c.toNat.toUInt8 ≠ zero := fun e => hne (hzero e)
    have hread : readIntegerDigits false (digitValue c.toNat.toUInt8) (octets cs ++ t) =
        .ok (.natural (valueOf (digitValue c.toNat.toUInt8) (octets cs)), t) :=
      readIntegerDigits_fits hd.tail (hv.symm ▸ h) ht
    rw [hv] at hread
    have e : writeNat n = c.toNat.toUInt8 :: octets cs := by rw [writeNat, hc]; rfl
    rw [e, List.cons_append]
    simp only [readNumberValue, hs, hdig, Bool.or_true, if_true, readNumber, readUnsigned,
      beq_iff_eq, hm, hz, if_false]
    exact hread

/-- **A natural number of 64 bits is read back.** -/
theorem written_nat {n : Nat} (h : n < word64) (expected : String) :
    Written (readNat expected) (writeNat n) n := by
  rw [← Numeral.text_ofNat]
  refine ⟨(Numeral.ofNat n).isValue, (Numeral.ofNat n).bare, fun t ht => ?_⟩
  rw [Numeral.text_ofNat, readNat, readNumberValue_writeNat h expected ht]

end CitationFusion.Json
