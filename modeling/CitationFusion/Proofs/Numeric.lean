import CitationFusion.Proofs.Json.Number
import CitationFusion.Took

/-!
# What is taken for a number

A time that is replaced need not be a number: needless zeros in front of it do no harm. What is
taken is the longest text of that form, which is all of it where something else follows.

* `Numeric` : what looks like a number; numbers do.
* `numeric_take`, `Numeric.length_le` : what is taken looks like a number, and nothing longer does.
* `Numeric.taken` : what looks like a number is taken up to its end.
-/

namespace CitationFusion.Took

open Ascii Json

/-! ## 1. What looks like a number -/

/-- A minus, or nothing. -/
inductive IsMinus : Bytes → Prop where
  | none : IsMinus []
  | minus : IsMinus [minus]

/-- What looks like a number: perhaps a minus, digits, and perhaps a fraction and a power of ten. -/
inductive Numeric : Bytes → Prop where
  | parts {sign whole fraction power : Bytes} (signed : IsMinus sign) (nonempty : whole ≠ [])
      (all : AllDigits whole) (f : IsFraction fraction) (p : IsPower power) :
      Numeric (sign ++ (whole ++ (fraction ++ power)))

theorem Numeric.begins {v : Bytes} (h : Numeric v) :
    ∃ sign d rest, v = sign ++ d :: rest ∧ IsMinus sign ∧ isDigit d = true := by
  cases h with
  | @parts sign whole fraction power signed nonempty all f p =>
    obtain ⟨d, ds, rfl⟩ := List.exists_cons_of_ne_nil nonempty
    exact ⟨sign, d, ds ++ (fraction ++ power), rfl, signed, all.head⟩

/-- A number looks like one. -/
theorem numeric_of_isNumber {v : Bytes} (h : IsNumber v) : Numeric v := by
  cases h with
  | positive w f p =>
    obtain ⟨d, r, rfl, -⟩ := w.head
    exact .parts .none (List.cons_ne_nil d r) w.allDigits f p
  | negative w f p =>
    obtain ⟨d, r, rfl, -⟩ := w.head
    exact .parts .minus (List.cons_ne_nil d r) w.allDigits f p

theorem Numeric.unquoted {v : Bytes} (h : Numeric v) : quote ∉ v := by
  intro hq
  cases h with
  | parts signed _ all f p =>
    rcases List.mem_append.1 hq with hq | hq
    · cases signed with
      | none => exact absurd hq List.not_mem_nil
      | minus => exact absurd (List.mem_singleton.1 hq) (by decide)
    · have hall := List.forall_mem_append.2
        ⟨all.inNumber, List.forall_mem_append.2 ⟨f.inNumber, p.inNumber⟩⟩
      exact absurd (hall quote hq) (by decide)

/-- Whether `n` is the longest text at the head of `u` that looks like a number. -/
structure Longest (n u : Bytes) : Prop where
  numeric : Numeric n
  begins : n <+: u
  longest : ∀ m, Numeric m → m <+: u → m.length ≤ n.length

/-! ## 2. Lengths -/

/-- The length of a sign at the head of a text, if there is one. -/
def signLength (p : UInt8 → Bool) (bs : Bytes) : Nat :=
  match bs with
  | [] => 0
  | s :: _ => if p s then 1 else 0

theorem numberLength?_eq (bs : Bytes) :
    numberLength? bs =
      let sign := signLength (· == minus) bs
      let whole := countDigits (bs.drop sign)
      let fraction := fractionLength (bs.drop (sign + whole))
      if whole == 0 then none
      else some (sign + whole + fraction + exponentLength (bs.drop (sign + whole + fraction))) := by
  cases bs <;> rfl

theorem exponentLength_cons (e : UInt8) (r : Bytes) :
    exponentLength (e :: r) =
      let sign := signLength (fun s => s == plus || s == minus) r
      let digits := countDigits (r.drop sign)
      if e == 0x65 || e == 0x45 then if digits == 0 then 0 else 1 + sign + digits else 0 := by
  cases r <;> rfl

/-! ## 3. The parts that are taken -/

theorem isMinus_take (bs : Bytes) : IsMinus (bs.take (signLength (· == minus) bs)) := by
  cases bs with
  | nil => exact .none
  | cons s r =>
    unfold signLength
    simp only
    split
    · rename_i hs
      rw [beq_iff_eq.1 hs]
      exact .minus
    · exact .none

theorem isSign_take (bs : Bytes) :
    IsSign (bs.take (signLength (fun s => s == plus || s == minus) bs)) := by
  cases bs with
  | nil => exact .none
  | cons s r =>
    unfold signLength
    simp only
    split
    · rename_i hs
      rcases Bool.or_eq_true_iff.1 hs with hs | hs
      · rw [beq_iff_eq.1 hs]
        exact .plus
      · rw [beq_iff_eq.1 hs]
        exact .minus
    · exact .none

theorem allDigits_take (bs : Bytes) : AllDigits (bs.take (countDigits bs)) := by
  have : bs.take (countDigits bs) = bs.takeWhile isDigit :=
    (List.prefix_iff_eq_take.1 (List.takeWhile_prefix isDigit)).symm
  rw [this]
  exact fun d hd => List.mem_takeWhile_imp hd

/-- Digits at the head of a text, if there are any. -/
theorem digits_take {bs : Bytes} (h : countDigits bs ≠ 0) :
    ∃ d ds, bs.take (countDigits bs) = d :: ds ∧ AllDigits (d :: ds) := by
  have hall := allDigits_take bs
  cases htake : bs.take (countDigits bs) with
  | nil =>
    have hlen : (bs.take (countDigits bs)).length = countDigits bs :=
      List.length_take_of_le (List.takeWhile_sublist isDigit).length_le
    rw [htake] at hlen
    exact absurd hlen.symm h
  | cons d ds =>
    rw [htake] at hall
    exact ⟨d, ds, rfl, hall⟩

theorem isFraction_take (bs : Bytes) : IsFraction (bs.take (fractionLength bs)) := by
  cases bs with
  | nil => exact .none
  | cons p r =>
    unfold fractionLength
    simp only
    split
    · rename_i h
      simp only [Bool.and_eq_true, beq_iff_eq, bne_iff_ne] at h
      obtain ⟨d, ds, htake, hall⟩ := digits_take h.2
      rw [Nat.add_comm, List.take_succ_cons, htake, h.1]
      exact .some hall
    · exact .none

theorem isPower_take (bs : Bytes) : IsPower (bs.take (exponentLength bs)) := by
  cases bs with
  | nil => exact .none
  | cons e r =>
    rw [exponentLength_cons]
    simp only
    split
    · rename_i he
      split
      · exact .none
      · rename_i hcount
        rw [beq_iff_eq] at hcount
        obtain ⟨d, ds, htake, hall⟩ := digits_take hcount
        rw [Nat.add_assoc, Nat.add_comm 1, List.take_succ_cons, List.take_add, htake]
        exact .some (by simpa using he) (isSign_take r) hall
    · exact .none

/-- **What is taken for a number looks like one.** -/
theorem numeric_take {u : Bytes} {k : Nat} (h : numberLength? u = some k) : Numeric (u.take k) := by
  rw [numberLength?_eq] at h
  simp only at h
  split at h
  · cases h
  · rename_i hcount
    cases h
    rw [beq_iff_eq] at hcount
    obtain ⟨d, ds, htake, hall⟩ := digits_take hcount
    rw [List.take_add, List.take_add, List.take_add, List.append_assoc, List.append_assoc, htake]
    exact .parts (isMinus_take u) (List.cons_ne_nil d ds) hall (isFraction_take _) (isPower_take _)

theorem numberLength?_begins {u : Bytes} {n : Nat} (h : numberLength? u = some n) :
    ∃ sign d rest, u = sign ++ d :: rest ∧ IsMinus sign ∧ isDigit d = true := by
  obtain ⟨sign, d, rest, htake, hsign, hd⟩ := (numeric_take h).begins
  refine ⟨sign, d, rest ++ u.drop n, ?_, hsign, hd⟩
  rw [← List.cons_append, ← List.append_assoc, ← htake, List.take_append_drop]

/-- What is taken for a number begins with a minus or a digit. -/
theorem numberLength?_head {u : Bytes} {n : Nat} (h : numberLength? u = some n) :
    ∃ b r, u = b :: r ∧ (b = minus ∨ isDigit b = true) := by
  obtain ⟨sign, d, rest, rfl, hsign, hd⟩ := numberLength?_begins h
  cases hsign with
  | none => exact ⟨d, rest, rfl, .inr hd⟩
  | minus => exact ⟨minus, d :: rest, rfl, .inl rfl⟩

/-! ## 4. How much is taken -/

section Parts

variable {sign whole fraction power ds t : Bytes}

/-- More digits behind digits are counted with them. -/
theorem countDigits_append (h : AllDigits ds) (t : Bytes) :
    countDigits (ds ++ t) = ds.length + countDigits t := by
  unfold countDigits
  rw [List.takeWhile_append_of_pos h, List.length_append]

theorem countDigits_digitless (h : Digitless t) : countDigits t = 0 := by
  unfold countDigits
  cases t with
  | nil => rfl
  | cons b t => rw [List.takeWhile_cons_of_neg (by simp [digitless_cons.1 h]), List.length_nil]

theorem signLength_isSign (hs : IsSign sign) {d : UInt8} (hd : isDigit d = true) (t : Bytes) :
    signLength (fun s => s == plus || s == minus) (sign ++ d :: t) = sign.length := by
  cases hs with
  | none =>
    have hplus : d ≠ plus := ne_of_isDigit hd (by decide)
    have hminus : d ≠ minus := ne_of_isDigit hd (by decide)
    simp [signLength, hplus, hminus]
  | plus => rfl
  | minus => rfl

theorem signLength_isMinus (hs : IsMinus sign) (hne : whole ≠ []) (all : AllDigits whole)
    (t : Bytes) : signLength (· == minus) (sign ++ (whole ++ t)) = sign.length := by
  cases hs with
  | none =>
    obtain ⟨d, ds, rfl⟩ := List.exists_cons_of_ne_nil hne
    have hminus : d ≠ minus := ne_of_isDigit all.head (by decide)
    simp [signLength, hminus]
  | minus => rfl

/-- A power of ten is taken, with the digits that stand behind it. -/
theorem exponentLength_power (hp : IsPower power) (hne : power ≠ []) (t : Bytes) :
    exponentLength (power ++ t) = power.length + countDigits t := by
  cases hp with
  | none => exact absurd rfl hne
  | @some e d sign ds letter signed all =>
    have he : (e == 0x65 || e == 0x45) = true := by simpa using letter
    have hsplit : e :: (sign ++ d :: ds) ++ t = e :: (sign ++ d :: (ds ++ t)) := by simp
    have hcount : countDigits (d :: (ds ++ t)) = (d :: ds).length + countDigits t :=
      countDigits_append all t
    rw [hsplit, exponentLength_cons]
    simp only [he, if_true, signLength_isSign signed all.head, List.drop_left, hcount, beq_iff_eq,
      List.length_cons, List.length_append]
    rw [if_neg (by omega)]
    omega

/-- So is a fraction. -/
theorem fractionLength_fraction (hf : IsFraction fraction) (hne : fraction ≠ []) (t : Bytes) :
    fractionLength (fraction ++ t) = fraction.length + countDigits t := by
  cases hf with
  | none => exact absurd rfl hne
  | @some d ds all =>
    unfold fractionLength
    simp only [List.cons_append]
    rw [← List.cons_append, countDigits_append all, if_pos (by simp)]
    simp only [List.length_cons]
    omega

theorem exponentLength_closed (ht : Closed t) : exponentLength t = 0 := by
  cases t with
  | nil => rfl
  | cons b t =>
    have hb := closed_cons.1 ht
    simp [exponentLength, hb]

theorem fractionLength_closed (ht : Closed t) : fractionLength t = 0 := by
  cases t with
  | nil => rfl
  | cons b t =>
    have hb := closed_cons.1 ht
    simp [fractionLength, hb]

/-- A power of ten is taken up to its end, if what follows does not go on with it. -/
theorem exponentLength_taken (hp : IsPower power) (ht : Closed t) :
    exponentLength (power ++ t) = power.length := by
  by_cases hne : power = []
  · rw [hne, List.nil_append, exponentLength_closed ht, List.length_nil]
  · rw [exponentLength_power hp hne, countDigits_digitless ht.digitless, Nat.add_zero]

/-- A fraction is taken up to its end, if a power of ten follows or nothing that goes on with it. -/
theorem fractionLength_taken (hf : IsFraction fraction) (hp : IsPower power)
    (ht : power = [] → Closed t) : fractionLength (fraction ++ (power ++ t)) = fraction.length := by
  have hless : Digitless (power ++ t) := hp.digitless fun hnil => (ht hnil).digitless
  by_cases hne : fraction = []
  · rw [hne, List.nil_append, List.length_nil]
    cases hp with
    | none => exact fractionLength_closed (ht rfl)
    | some letter => rcases letter with rfl | rfl <;> rfl
  · rw [fractionLength_fraction hf hne, countDigits_digitless hless, Nat.add_zero]

/-- How much is taken behind the digits before the point. -/
def restLength (r : Bytes) : Nat := fractionLength r + exponentLength (r.drop (fractionLength r))

/-- Digits with a sign before them are taken, with more digits behind them and what follows. -/
theorem numberLength?_append (signed : IsMinus sign) (hne : whole ≠ []) (all : AllDigits whole)
    (r : Bytes) :
    numberLength? (sign ++ (whole ++ r)) =
      some (sign.length + (whole.length + countDigits r) +
        restLength (r.drop (countDigits r))) := by
  have hsign := signLength_isMinus signed hne all r
  have hwhole : countDigits ((sign ++ (whole ++ r)).drop sign.length) =
      whole.length + countDigits r := by
    rw [List.drop_left, countDigits_append all]
  have hdrop : (sign ++ (whole ++ r)).drop (sign.length + (whole.length + countDigits r)) =
      r.drop (countDigits r) := by
    rw [List.drop_length_add_append, List.drop_length_add_append]
  have hlen : whole.length ≠ 0 := fun h => hne (List.length_eq_zero_iff.1 h)
  rw [numberLength?_eq, ← hdrop, restLength, List.drop_drop]
  simp only [hsign, hwhole, beq_iff_eq]
  rw [if_neg (by omega), Nat.add_assoc _ (fractionLength _)]

/-- All of a fraction and a power of ten is taken, if what follows does not go on with them. -/
theorem restLength_taken (hf : IsFraction fraction) (hp : IsPower power) (ht : Closed t) :
    restLength (fraction ++ (power ++ t)) = fraction.length + power.length := by
  rw [restLength, fractionLength_taken hf hp fun _ => ht, List.drop_left,
    exponentLength_taken hp ht]

/-- Whatever follows, at least as much is taken. -/
theorem le_restLength (hf : IsFraction fraction) (hp : IsPower power) (t : Bytes) :
    fraction.length + power.length ≤ restLength (fraction ++ (power ++ t)) := by
  by_cases hpower : power = []
  · -- the fraction alone, perhaps with more digits
    refine Nat.le_trans ?_ (Nat.le_add_right _ _)
    by_cases hfraction : fraction = []
    · rw [hpower, hfraction]
      exact Nat.zero_le _
    · rw [hpower, fractionLength_fraction hf hfraction, List.length_nil]
      exact Nat.le_add_right _ _
  · rw [restLength, fractionLength_taken hf hp fun h => absurd h hpower, List.drop_left,
      exponentLength_power hp hpower]
    omega

end Parts

section Taken

variable {v t : Bytes}

/-- **What looks like a number is taken up to its end**, if what follows does not go on with it. -/
theorem Numeric.taken (h : Numeric v) (ht : Closed t) : numberLength? (v ++ t) = some v.length := by
  cases h with
  | @parts sign whole fraction power signed nonempty all f p =>
    have hless := f.digitless p fun _ => ht.digitless
    have hsplit : sign ++ (whole ++ (fraction ++ power)) ++ t =
        sign ++ (whole ++ (fraction ++ (power ++ t))) := by simp
    rw [hsplit, numberLength?_append signed nonempty all, countDigits_digitless hless,
      List.drop_zero, restLength_taken f p ht]
    simp only [List.length_append, Nat.add_zero, Nat.add_assoc]

/-- **What looks like a number at the head of a text is taken for one, or more.** -/
theorem Numeric.length_le (h : Numeric v) (t : Bytes) :
    ∃ k, numberLength? (v ++ t) = some k ∧ v.length ≤ k := by
  cases h with
  | @parts sign whole fraction power signed nonempty all f p =>
    have hsplit : sign ++ (whole ++ (fraction ++ power)) ++ t =
        sign ++ (whole ++ (fraction ++ (power ++ t))) := by simp
    rw [hsplit, numberLength?_append signed nonempty all]
    refine ⟨_, rfl, ?_⟩
    simp only [List.length_append]
    by_cases hnil : fraction ++ power = []
    · obtain ⟨hfraction, hpower⟩ := List.append_eq_nil_iff.1 hnil
      simp only [hfraction, hpower, List.length_nil]
      omega
    · have hless : Digitless (fraction ++ (power ++ t)) := f.digitless p fun h => absurd h hnil
      have hrest := le_restLength f p t
      rw [countDigits_digitless hless, List.drop_zero]
      omega

end Taken

/-- **What is taken for a number is the longest text that looks like one.** -/
theorem longest_take {u : Bytes} {k : Nat} (h : numberLength? u = some k) :
    Longest (u.take k) u where
  numeric := numeric_take h
  begins := List.take_prefix k u
  longest m hm hprefix := by
    obtain ⟨r, rfl⟩ := hprefix
    obtain ⟨k', hk', hle⟩ := hm.length_le r
    obtain rfl := Option.some.inj (hk'.symm.trans h)
    rw [List.length_take, List.length_append]
    omega

end CitationFusion.Took
