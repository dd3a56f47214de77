import CitationFusion.Proofs.Decimal.Shortest
import CitationFusion.Proofs.Json.Numeral

/-!
# Doubles are written as numerals

Whatever a layout decides, what it writes of a double below `2 ^ 69` is a numeral, with at most
22 digits before the point; a layout without exponents writes none.

* `numeral_positional`, `numeral_scientific` : decimals without and with an exponent part.
* `numeral_write` : what a layout writes.
* `written_double` : the doubles of JSON documents are read.
-/

namespace CitationFusion.Json

open Ascii

/-- A decimal that is zero, or has digits and is not above `10 ^ 22`. -/
def Usual (d : Decimal) : Prop := d = ⟨0, 0⟩ ∨ (d.digits ≠ 0 ∧ d.leading ≤ 21)

theorem digitsOf_isDigit {n : Nat} {c : Char} (h : c ∈ Layout.digitsOf n) : c.isDigit = true :=
  isDigit_toDigits h

theorem isDigit_replicate {k : Nat} {c : Char} (h : c ∈ List.replicate k '0') :
    c.isDigit = true := by
  rw [(List.mem_replicate.1 h).2]
  rfl

theorem octets_append (cs ds : List Char) : octets (cs ++ ds) = octets cs ++ octets ds :=
  List.map_append

/-- Digits that begin with another one than zero have the form of those before the point. -/
theorem wholeForm_cons {c : Char} {cs : List Char} (hc : c.isDigit = true) (h0 : c ≠ '0') :
    octets (c :: cs) = [zero] ∨ ∃ d r, octets (c :: cs) = d :: r ∧ d ≠ zero :=
  .inr ⟨_, _, rfl, fun he => h0 ((digit_octet hc).2.2 he)⟩

/-- A numeral without a power of ten, of some digits before and behind the point. -/
theorem numeral_of_digits (negative : Bool) (whole fraction : List Char)
    (hw : ∀ c ∈ whole, c.isDigit = true)
    (form : octets whole = [zero] ∨ ∃ d r, octets whole = d :: r ∧ d ≠ zero)
    (hf : ∀ c ∈ fraction, c.isDigit = true) (hlen : whole.length ≤ 100) :
    ∃ n : Numeral, n.Modest ∧ n.negative = negative ∧ n.power = none ∧
      n.magnitude = octets whole ++ (if fraction = [] then [] else point :: octets fraction) := by
  refine ⟨⟨negative, octets whole, octets fraction, none, allDigits_octets hw, form,
    allDigits_octets hf, ?_⟩, ⟨?_, ?_⟩, rfl, rfl, ?_⟩
  · intro m ds h
    cases h
  · simpa [octets] using hlen
  · intro ds h
    cases h
  · simp [Numeral.magnitude, Numeral.fractionText, Numeral.powerText, octets]

/-- **A decimal without an exponent part is a numeral without a power of ten.** -/
theorem numeral_positional (negative pointZero : Bool) {d : Decimal} (hd : Usual d) :
    ∃ n : Numeral, n.Modest ∧ n.negative = negative ∧ n.power = none ∧
      n.magnitude = octets (Layout.writePositional pointZero d) := by
  rcases hd with rfl | ⟨h0, hl⟩
  · obtain ⟨n, h1, h2, h3, h4⟩ := numeral_of_digits negative ['0']
      (if pointZero then ['0'] else []) (by simp) (.inl rfl) (by cases pointZero <;> simp)
      (by decide)
    exact ⟨n, h1, h2, h3, h4.trans (by cases pointZero <;> rfl)⟩
  obtain ⟨c, cs, hc, hne⟩ := toDigits_head h0
  have hcs : Layout.digitsOf d.digits = c :: cs := hc
  have hdig : ∀ x ∈ c :: cs, x.isDigit = true := fun x hx => digitsOf_isDigit (hcs ▸ hx)
  have hwidth : Decimal.width d.digits = cs.length + 1 := congrArg List.length hc
  unfold Decimal.leading at hl
  unfold Layout.writePositional
  simp only [hcs]
  -- the point stands behind all digits, between them, or before them
  split
  · obtain ⟨n, h1, h2, h3, h4⟩ := numeral_of_digits negative
      (c :: cs ++ List.replicate d.exp.toNat '0') (if pointZero then ['0'] else [])
      (fun x hx => (List.mem_append.1 hx).elim (hdig x) isDigit_replicate)
      (wholeForm_cons (hdig c (by simp)) hne) (by cases pointZero <;> simp)
      (by simp only [List.length_append, List.length_cons, List.length_replicate]; omega)
    refine ⟨n, h1, h2, h3, h4.trans ?_⟩
    rw [octets_append (c :: cs ++ List.replicate d.exp.toNat '0')]
    cases pointZero <;> rfl
  · split
    · rename_i hexp hplaces
      simp only [List.length_cons] at hplaces
      obtain ⟨k, hk⟩ : ∃ k, (c :: cs).length - (-d.exp).toNat = k + 1 :=
        ⟨cs.length - (-d.exp).toNat, by rw [List.length_cons]; omega⟩
      rw [hk]
      have hdrop : (c :: cs).drop (k + 1) ≠ [] := by
        intro h
        have := List.drop_eq_nil_iff.1 h
        rw [List.length_cons] at this hk
        omega
      obtain ⟨n, h1, h2, h3, h4⟩ := numeral_of_digits negative
        ((c :: cs).take (k + 1)) ((c :: cs).drop (k + 1))
        (fun x hx => hdig x (List.mem_of_mem_take hx))
        (wholeForm_cons (hdig c (by simp)) hne)
        (fun x hx => hdig x (List.mem_of_mem_drop hx))
        (by rw [List.length_take, List.length_cons] at *; omega)
      rw [if_neg hdrop] at h4
      exact ⟨n, h1, h2, h3, h4.trans (octets_append _ ('.' :: _)).symm⟩
    · obtain ⟨n, h1, h2, h3, h4⟩ := numeral_of_digits negative ['0']
        (List.replicate ((-d.exp).toNat - (c :: cs).length) '0' ++ c :: cs)
        (by simp) (.inl rfl)
        (fun x hx => (List.mem_append.1 hx).elim isDigit_replicate (hdig x)) (by decide)
      rw [if_neg (by simp)] at h4
      exact ⟨n, h1, h2, h3, h4⟩

/-- **A decimal with an exponent part is a numeral.** -/
theorem numeral_scientific (negative : Bool) {d : Decimal} (h0 : d.digits ≠ 0)
    (hl : d.leading ≤ 21) :
    ∃ n : Numeral, n.Modest ∧ n.negative = negative ∧
      n.magnitude = octets (Layout.writeScientific d) := by
  obtain ⟨c, cs, hc, hne⟩ := toDigits_head h0
  have hcs : Layout.digitsOf d.digits = c :: cs := hc
  have hdig : ∀ x ∈ c :: cs, x.isDigit = true := fun x hx => digitsOf_isDigit (hcs ▸ hx)
  refine ⟨⟨negative, octets [c], octets cs, some (!decide (0 ≤ d.leading),
    octets (Layout.digitsOf d.leading.natAbs)), ?_, wholeForm_cons (hdig c (by simp)) hne, ?_, ?_⟩,
    ⟨?_, ?_⟩, rfl, ?_⟩
  · exact allDigits_octets fun x hx => hdig x (by simp_all)
  · exact allDigits_octets fun x hx => hdig x (by simp [hx])
  · intro m ds h
    cases h
    exact ⟨by simp [octets, Layout.digitsOf], allDigits_octets fun x hx => digitsOf_isDigit hx⟩
  · show (octets [c]).length ≤ 100
    exact (by decide : 1 ≤ 100)
  · intro ds h
    obtain ⟨hneg, rfl⟩ := Prod.mk.inj (Option.some.inj h)
    have hpos : 0 ≤ d.leading := by simpa using hneg
    rw [valueOf_octets fun x hx => digitsOf_isDigit hx, Layout.digitsOf,
      Nat.ofDigitChars_ten_toDigits]
    omega
  · unfold Layout.writeScientific
    simp only [hcs, Numeral.magnitude, Numeral.fractionText, Numeral.powerText]
    have hsign : (if (!decide (0 ≤ d.leading)) = true then minus else plus) =
        (if 0 ≤ d.leading then '+' else '-').toNat.toUInt8 := by
      by_cases h : 0 ≤ d.leading <;> simp [h]
    cases cs with
    | nil =>
      simp only [octets, List.map_nil, List.map_cons, List.map_append, if_true, List.nil_append,
        hsign]
      rfl
    | cons c' cs =>
      simp only [octets, List.map_cons, List.map_append, hsign, reduceCtorEq, if_false]
      rfl

/-- **What a layout writes of a double below `2 ^ 69` is a numeral**, and one without a power of
    ten when the layout has no exponents. -/
theorem numeral_write (l : Layout) {x : Binary64} (hx : x.Sound) (he : x.exp ≤ 16) :
    ∃ n : Numeral, n.Modest ∧ n.negative = x.negative ∧ octets (l.write x) = n.text ∧
      (l.positional = none → n.power = none) := by
  have husual : Usual (Decimal.shortest l.tie x) := Decimal.shortest_spec l.tie hx he
  have decimal : ∃ n : Numeral, n.Modest ∧ n.negative = x.negative ∧
      n.magnitude = octets (l.writeDecimal (Decimal.shortest l.tie x)) ∧
      (l.positional = none → n.power = none) := by
    unfold Layout.writeDecimal
    split
    · obtain ⟨n, h1, h2, h3, h4⟩ := numeral_positional x.negative l.pointZero husual
      exact ⟨n, h1, h2, h4, fun _ => h3⟩
    · rename_i least greatest hpos
      split
      · obtain ⟨n, h1, h2, h3, h4⟩ := numeral_positional x.negative l.pointZero husual
        exact ⟨n, h1, h2, h4, fun _ => h3⟩
      · rename_i hcond
        simp only [Bool.or_eq_true, beq_iff_eq, not_or] at hcond
        rcases husual with hz | ⟨h0, hl⟩
        · rw [hz] at hcond
          exact absurd rfl hcond.1
        · obtain ⟨n, h1, h2, h3⟩ := numeral_scientific x.negative h0 hl
          exact ⟨n, h1, h2, h3, fun h => absurd (hpos.symm.trans h) (by simp)⟩
  obtain ⟨n, h1, h2, h3, h4⟩ := decimal
  refine ⟨n, h1, h2, ?_, h4⟩
  unfold Layout.write Numeral.text
  rw [h2, octets_append, ← h3]
  cases x.negative <;> rfl

/-- **Doubles in JSON documents are read**, to a nearby double that may be another one. -/
theorem written_double {x : Binary64} (hx : x.Sound) (he : x.exp ≤ 16) :
    ∃ y, Written readDouble (writeDouble x) y := by
  obtain ⟨n, hn, -, htext, -⟩ := numeral_write Layout.json hx he
  rw [writeDouble, htext]
  exact n.written hn

end CitationFusion.Json
