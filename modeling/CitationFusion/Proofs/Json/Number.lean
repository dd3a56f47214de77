import CitationFusion.Json.Skim
import Mathlib.Data.List.TakeWhile

/-!
# Numbers in a text

What a number is, said without a reader. It is passed over up to its end, unless what follows would
go on with it; and what is passed over as a number is one.

* `AllDigits`, `Digitless`, `Closed` : digits, and what ends them or a number.
* `IsNumber` : the grammar of numbers.
* `IsWhole.skim`, `isNumber_of_skim` : the two directions.
-/

namespace CitationFusion.Json

open Ascii

/-! ## 1. Digits -/

/-- Whether a text has digits only. -/
def AllDigits (ds : Bytes) : Prop := ∀ d ∈ ds, isDigit d = true

theorem AllDigits.tail {d : UInt8} {ds : Bytes} (h : AllDigits (d :: ds)) : AllDigits ds :=
  fun x hx => h x (by simp [hx])

theorem AllDigits.head {d : UInt8} {ds : Bytes} (h : AllDigits (d :: ds)) : isDigit d = true :=
  h d (by simp)

theorem AllDigits.cons {d : UInt8} {ds : Bytes} (hd : isDigit d = true) (hds : AllDigits ds) :
    AllDigits (d :: ds) := List.forall_mem_cons.2 ⟨hd, hds⟩

/-- Whether digits that stand before a text end there. -/
def Digitless (t : Bytes) : Prop := ∀ b ∈ t.head?, isDigit b = false

theorem digitless_cons {b : UInt8} {t : Bytes} : Digitless (b :: t) ↔ isDigit b = false := by
  simp [Digitless]

/-- Whether a number that stands before a text ends there. -/
def Closed (t : Bytes) : Prop :=
  ∀ b ∈ t.head?, isDigit b = false ∧ b ≠ point ∧ b ≠ 0x65 ∧ b ≠ 0x45

theorem Closed.digitless {t : Bytes} (h : Closed t) : Digitless t := fun b hb => (h b hb).1

theorem closed_nil : Closed [] := by
  intro b hb
  cases hb

theorem closed_cons {b : UInt8} {t : Bytes} :
    Closed (b :: t) ↔ isDigit b = false ∧ b ≠ point ∧ b ≠ 0x65 ∧ b ≠ 0x45 := by
  simp [Closed]

theorem ne_of_isDigit {d x : UInt8} (hd : isDigit d = true) (hx : isDigit x = false) : d ≠ x := by
  rintro rfl
  rw [hd] at hx
  cases hx

/-- A digit is no white space, and it opens no list and no object. -/
theorem isDigit_plain {d : UInt8} (hd : isDigit d = true) :
    isSpace d = false ∧ d ≠ openBracket ∧ d ≠ openBrace := by
  have other : ∀ x, isDigit x = false → d ≠ x := fun x => ne_of_isDigit hd
  refine ⟨?_, other _ (by decide), other _ (by decide)⟩
  simp [isSpace, other space (by decide), other lineFeed (by decide), other tab (by decide),
    other carriageReturn (by decide)]

/-- Digits are passed over up to where they end. -/
theorem skipDigits_append {ds t : Bytes} (h : AllDigits ds) (ht : Digitless t) :
    skipDigits (ds ++ t) = t := by
  unfold skipDigits
  rw [List.dropWhile_append_of_pos h]
  cases t with
  | nil => rfl
  | cons b t => rw [List.dropWhile_cons_of_neg (by simp [digitless_cons.1 ht])]

theorem skipDigits_split (bs : Bytes) : ∃ ds, bs = ds ++ skipDigits bs ∧ AllDigits ds :=
  ⟨bs.takeWhile isDigit, (List.takeWhile_append_dropWhile).symm,
    fun _ hd => List.mem_takeWhile_imp hd⟩

/-! ## 2. The grammar of numbers -/

/-- Digits, without a needless zero before them. -/
inductive IsWhole : Bytes → Prop where
  | zero : IsWhole [zero]
  | digits {d : UInt8} {ds : Bytes} (leads : d ≠ Ascii.zero) (all : AllDigits (d :: ds)) :
      IsWhole (d :: ds)

/-- A point and at least one digit, or nothing. -/
inductive IsFraction : Bytes → Prop where
  | none : IsFraction []
  | some {d : UInt8} {ds : Bytes} (all : AllDigits (d :: ds)) : IsFraction (point :: d :: ds)

/-- A sign, or nothing. -/
inductive IsSign : Bytes → Prop where
  | none : IsSign []
  | plus : IsSign [plus]
  | minus : IsSign [minus]

/-- An `e` of either case, perhaps a sign, and at least one digit, or nothing. -/
inductive IsPower : Bytes → Prop where
  | none : IsPower []
  | some {e d : UInt8} {sign ds : Bytes} (letter : e = 0x65 ∨ e = 0x45) (signed : IsSign sign)
      (all : AllDigits (d :: ds)) : IsPower (e :: (sign ++ d :: ds))

/-- A number: perhaps a minus, digits, and perhaps a fraction and a power of ten. -/
inductive IsNumber : Bytes → Prop where
  | positive {whole fraction power : Bytes} (w : IsWhole whole) (f : IsFraction fraction)
      (p : IsPower power) : IsNumber (whole ++ (fraction ++ power))
  | negative {whole fraction power : Bytes} (w : IsWhole whole) (f : IsFraction fraction)
      (p : IsPower power) : IsNumber (minus :: (whole ++ (fraction ++ power)))

/-- Whether an octet may be part of a number. -/
def inNumber (b : UInt8) : Bool :=
  isDigit b || b == plus || b == minus || b == point || b == 0x65 || b == 0x45

theorem AllDigits.inNumber {ds : Bytes} (h : AllDigits ds) : ∀ b ∈ ds, inNumber b = true := by
  intro b hb
  simp [Json.inNumber, h b hb]

theorem IsWhole.allDigits {v : Bytes} (h : IsWhole v) : AllDigits v := by
  cases h with
  | zero => exact .cons (by decide) fun _ hd => absurd hd List.not_mem_nil
  | digits _ all => exact all

theorem IsFraction.inNumber {v : Bytes} (h : IsFraction v) : ∀ b ∈ v, inNumber b = true := by
  cases h with
  | none => exact fun b hb => absurd hb List.not_mem_nil
  | some all => exact List.forall_mem_cons.2 ⟨by decide, all.inNumber⟩

theorem IsSign.inNumber {v : Bytes} (h : IsSign v) : ∀ b ∈ v, inNumber b = true := by
  cases h with
  | none => exact fun b hb => absurd hb List.not_mem_nil
  | plus => exact List.forall_mem_singleton.2 (by decide)
  | minus => exact List.forall_mem_singleton.2 (by decide)

theorem IsPower.inNumber {v : Bytes} (h : IsPower v) : ∀ b ∈ v, inNumber b = true := by
  cases h with
  | none => exact fun b hb => absurd hb List.not_mem_nil
  | some letter signed all =>
    refine List.forall_mem_cons.2 ⟨?_, List.forall_mem_append.2 ⟨?_, all.inNumber⟩⟩
    · rcases letter with rfl | rfl <;> decide
    · exact signed.inNumber

/-- **A number is made of digits, signs, points and the letters of a power.** -/
theorem IsNumber.inNumber {v : Bytes} (h : IsNumber v) : ∀ b ∈ v, inNumber b = true := by
  cases h with
  | positive w f p =>
    exact List.forall_mem_append.2
      ⟨w.allDigits.inNumber, List.forall_mem_append.2 ⟨f.inNumber, p.inNumber⟩⟩
  | negative w f p =>
    refine List.forall_mem_cons.2 ⟨by decide, List.forall_mem_append.2 ⟨w.allDigits.inNumber, ?_⟩⟩
    exact List.forall_mem_append.2 ⟨f.inNumber, p.inNumber⟩

theorem IsNumber.unquoted {v : Bytes} (h : IsNumber v) : quote ∉ v :=
  fun hq => absurd (h.inNumber quote hq) (by decide)

/-! ## 3. A number is passed over -/

section Append

variable {t : Bytes}

/-- A sign is passed over up to the digit behind it. -/
theorem IsSign.skip {sign : Bytes} {d : UInt8} (h : IsSign sign) (hd : isDigit d = true)
    (t : Bytes) : skipSign (sign ++ d :: t) = d :: t := by
  cases h with
  | none =>
    have h1 : d ≠ Ascii.plus := ne_of_isDigit hd (by decide)
    have h2 : d ≠ Ascii.minus := ne_of_isDigit hd (by decide)
    simp [skipSign, h1, h2]
  | plus => rfl
  | minus => rfl

theorem IsPower.digitless {p : Bytes} (h : IsPower p) (ht : p = [] → Digitless t) :
    Digitless (p ++ t) := by
  cases h with
  | none => exact ht rfl
  | some letter => rcases letter with rfl | rfl <;> exact digitless_cons.2 (by decide)

/-- What follows the digits before the point ends them. -/
theorem IsFraction.digitless {f p : Bytes} (h : IsFraction f) (hp : IsPower p)
    (ht : f ++ p = [] → Digitless t) : Digitless (f ++ (p ++ t)) := by
  cases h with
  | none => exact hp.digitless ht
  | some => exact digitless_cons.2 (by decide)

theorem IsPower.skim {p : Bytes} (h : IsPower p) (ht : Closed t) :
    skimExponent (p ++ t) = .ok t := by
  cases h with
  | none =>
    cases t with
    | nil => rfl
    | cons b t =>
      have hb := closed_cons.1 ht
      simp [skimExponent, hb]
  | @some e d sign ds letter signed all =>
    have he : (e == 0x65 || e == 0x45) = true := by simpa using letter
    have hsplit : e :: (sign ++ d :: ds) ++ t = e :: (sign ++ d :: (ds ++ t)) := by simp
    simp only [hsplit, skimExponent, he, if_true, signed.skip all.head, all.head,
      skipDigits_append all.tail ht.digitless]

theorem IsFraction.skim {f p : Bytes} (h : IsFraction f) (hp : IsPower p) (ht : Closed t) :
    skimFraction (f ++ (p ++ t)) = .ok t := by
  have hpower := hp.skim ht
  cases h with
  | none =>
    rw [List.nil_append]
    cases hr : p ++ t with
    | nil =>
      rw [hr] at hpower
      exact hpower
    | cons b r =>
      -- a power of ten begins with its letter, and what is closed does not go on with a point
      have hb : b ≠ point := by
        cases hp with
        | none =>
          rw [List.nil_append] at hr
          rw [hr] at ht
          exact (closed_cons.1 ht).2.1
        | some letter =>
          cases hr
          rcases letter with rfl | rfl <;> decide
      rw [hr] at hpower
      simp only [skimFraction, beq_iff_eq, hb, if_false, hpower]
  | some all =>
    simp only [List.cons_append, skimFraction, beq_self_eq_true, if_true, all.head,
      skipDigits_append all.tail (hp.digitless fun _ => ht.digitless), hpower]

/-- What stands behind the sign of a number is passed over up to its end, if what follows does not
    go on with it. -/
theorem IsWhole.skim {w f p : Bytes} (h : IsWhole w) (hf : IsFraction f) (hp : IsPower p)
    (ht : Closed t) : skimNumber (w ++ (f ++ (p ++ t))) = .ok t := by
  have hfraction := hf.skim hp ht
  have hless := hf.digitless hp fun _ => ht.digitless
  generalize f ++ (p ++ t) = rest at hfraction hless
  cases h with
  | zero =>
    cases rest with
    | nil =>
      rw [skimFraction] at hfraction
      cases hfraction
      rfl
    | cons c rest =>
      simp only [List.cons_append, List.nil_append, skimNumber, beq_self_eq_true, if_true,
        digitless_cons.1 hless, Bool.false_eq_true, if_false, hfraction]
  | digits leads all =>
    simp only [List.cons_append, skimNumber, beq_iff_eq, leads, if_false, all.head, if_true,
      skipDigits_append all.tail hless, hfraction]

theorem IsWhole.head {w : Bytes} (h : IsWhole w) : ∃ d r, w = d :: r ∧ isDigit d = true := by
  cases h with
  | zero => exact ⟨_, _, rfl, by decide⟩
  | digits _ all => exact ⟨_, _, rfl, all.head⟩

end Append

/-! ## 4. What is passed over is a number -/

section Skim

variable {bs rest : Bytes}

theorem isSign_of_skim {d : UInt8} {r : Bytes} (h : skipSign bs = d :: r) :
    ∃ sign, bs = sign ++ d :: r ∧ IsSign sign := by
  unfold skipSign at h
  split at h
  · cases h
  · rename_i s t
    split at h
    · rename_i hs
      subst h
      rcases Bool.or_eq_true_iff.1 hs with hs | hs
      · exact ⟨[plus], by rw [beq_iff_eq.1 hs]; rfl, .plus⟩
      · exact ⟨[minus], by rw [beq_iff_eq.1 hs]; rfl, .minus⟩
    · exact ⟨[], h, .none⟩

theorem isPower_of_skim (h : skimExponent bs = .ok rest) : ∃ v, bs = v ++ rest ∧ IsPower v := by
  unfold skimExponent at h
  split at h
  · cases h
    exact ⟨[], rfl, .none⟩
  · rename_i e r
    split at h
    · rename_i he
      split at h
      · cases h
      · rename_i d t hs
        split at h
        · rename_i hd
          cases h
          obtain ⟨sign, rfl, hsign⟩ := isSign_of_skim hs
          obtain ⟨ds, ht, hds⟩ := skipDigits_split t
          refine ⟨e :: (sign ++ d :: ds), ?_, .some (by simpa using he) hsign (.cons hd hds)⟩
          rw [List.cons_append, List.append_assoc, List.cons_append, ← ht]
        · cases h
    · cases h
      exact ⟨[], rfl, .none⟩

theorem isFraction_of_skim (h : skimFraction bs = .ok rest) :
    ∃ f p, bs = f ++ p ++ rest ∧ IsFraction f ∧ IsPower p := by
  unfold skimFraction at h
  split at h
  · cases h
    exact ⟨[], [], rfl, .none, .none⟩
  · rename_i c r
    split at h
    · rename_i hc
      split at h
      · cases h
      · rename_i d t
        split at h
        · rename_i hd
          obtain ⟨p, hp, power⟩ := isPower_of_skim h
          obtain ⟨ds, ht, hds⟩ := skipDigits_split t
          refine ⟨point :: d :: ds, p, ?_, .some (.cons hd hds), power⟩
          rw [beq_iff_eq.1 hc, ht, hp]
          simp
        · cases h
    · obtain ⟨p, hp, power⟩ := isPower_of_skim h
      exact ⟨[], p, hp, .none, power⟩

/-- What is passed over behind the sign of a number. -/
theorem isWhole_of_skim (h : skimNumber bs = .ok rest) :
    ∃ w f p, bs = w ++ (f ++ p) ++ rest ∧ IsWhole w ∧ IsFraction f ∧ IsPower p := by
  unfold skimNumber at h
  split at h
  · cases h
  · rename_i d r
    split at h
    · rename_i hd
      obtain rfl := beq_iff_eq.1 hd
      split at h
      · cases h
        exact ⟨[zero], [], [], rfl, .zero, .none, .none⟩
      · rename_i c t
        split at h
        · cases h
        · obtain ⟨f, p, ht, fraction, power⟩ := isFraction_of_skim h
          exact ⟨[zero], f, p, by rw [ht]; rfl, .zero, fraction, power⟩
    · rename_i hd
      split at h
      · rename_i hdigit
        obtain ⟨f, p, ht, fraction, power⟩ := isFraction_of_skim h
        obtain ⟨ds, hr, hds⟩ := skipDigits_split r
        refine ⟨d :: ds, f, p, ?_, .digits (by simpa using hd) (.cons hdigit hds), fraction, power⟩
        rw [hr, ht]
        simp
      · cases h

/-- So it is passed over whatever follows it, as long as that does not go on with it. -/
theorem skimNumber_split (h : skimNumber bs = .ok rest) :
    ∃ u, bs = u ++ rest ∧ ∀ t, Closed t → skimNumber (u ++ t) = .ok t := by
  obtain ⟨w, f, p, rfl, whole, fraction, power⟩ := isWhole_of_skim h
  refine ⟨w ++ (f ++ p), rfl, fun t ht => ?_⟩
  rw [List.append_assoc, List.append_assoc]
  exact whole.skim fraction power ht

theorem skimScalar_digit {d : UInt8} (hd : isDigit d = true) (r : Bytes) :
    skimScalar d r = skimNumber (d :: r) := by
  have other : ∀ x, isDigit x = false → d ≠ x := fun x => ne_of_isDigit hd
  simp only [skimScalar, beq_iff_eq, other 0x6E (by decide), other 0x74 (by decide),
    other 0x66 (by decide), other minus (by decide), hd, if_false, if_true]

/-- **What is passed over as a number is one.** -/
theorem isNumber_of_skim {b : UInt8} {r : Bytes} (hb : b = minus ∨ isDigit b = true)
    (h : skimScalar b r = .ok rest) : ∃ v, b :: r = v ++ rest ∧ IsNumber v := by
  rcases hb with rfl | hb
  · obtain ⟨w, f, p, rfl, whole, fraction, power⟩ :=
      isWhole_of_skim (show skimNumber r = .ok rest from h)
    exact ⟨_, rfl, .negative whole fraction power⟩
  · rw [skimScalar_digit hb] at h
    obtain ⟨w, f, p, hr, whole, fraction, power⟩ := isWhole_of_skim h
    exact ⟨_, hr, .positive whole fraction power⟩

end Skim

end CitationFusion.Json
