import CitationFusion.Text.Utf8
import Mathlib.Data.List.Lex

/-!
# Characters and their octets

* `head_utf8EncodeChar` : the octets of a character are read back as it, whatever follows them.
* `decode_encode` : so are those of a text.
* `utf8EncodeChar_octets` : a character past ASCII has no octet of ASCII.
* `ofString_lt_iff` : texts are in the order of their octets.
* `decode_between` : what stands between octets of ASCII in a text is a text.
* `text?_ofString`, `exists_ofString` : texts from their octets.
* `decode_eq_ok_iff` : exactly the octets of a text are read as it.
-/

namespace CitationFusion.Utf8

theorem toNat_range (c : Char) :
    c.val.toNat < 0xD800 ∨ (0xDFFF < c.val.toNat ∧ c.val.toNat < 0x110000) := by
  have := c.valid
  simpa [UInt32.isValidChar, Nat.isValidChar] using this

theorem toNat_ofNat {n : Nat} (h : n < 256) : (UInt8.ofNat n).toNat = n := by
  rw [UInt8.toNat_ofNat', Nat.mod_eq_of_lt h]

theorem isTail_iff {b : UInt8} : isTail b = true ↔ 0x80 ≤ b.toNat ∧ b.toNat ≤ 0xBF := by
  simp [isTail, UInt8.le_iff_toNat_le]

/-! ## 1. Reading one character -/

theorem head_one {a : UInt8} (r : Bytes) (h : a.toNat < 0x80) :
    head a r = .char (Char.ofNat a.toNat) r := by
  unfold head
  rw [if_pos (UInt8.lt_iff_toNat_lt.2 h)]

theorem head_two {a b : UInt8} (r : Bytes) (h1 : 0xC2 ≤ a.toNat) (h2 : a.toNat < 0xE0)
    (hb : isTail b = true) :
    head a (b :: r) = .char (Char.ofNat (a.toNat % 32 * 64 + tailBits b)) r := by
  have e1 : ¬ a < 0x80 := by rw [UInt8.lt_iff_toNat_lt]; simp; omega
  have e2 : ¬ a < 0xC2 := by rw [UInt8.lt_iff_toNat_lt]; simp; omega
  unfold head
  rw [if_neg e1, if_neg e2, if_pos (UInt8.lt_iff_toNat_lt.2 h2)]
  simp only [twoOctets, hb, if_true]

theorem threeOctets_eq {a lo hi b c : UInt8} (r : Bytes)
    (hb : lo.toNat ≤ b.toNat ∧ b.toNat ≤ hi.toNat) (hc : isTail c = true) :
    threeOctets a lo hi (b :: c :: r) =
      .char (Char.ofNat ((a.toNat % 16 * 64 + tailBits b) * 64 + tailBits c)) r := by
  have e : (decide (lo ≤ b) && decide (b ≤ hi)) = true := by
    simp [UInt8.le_iff_toNat_le, hb]
  simp only [threeOctets, e, hc, if_true]

theorem fourOctets_eq {a lo hi b c d : UInt8} (r : Bytes)
    (hb : lo.toNat ≤ b.toNat ∧ b.toNat ≤ hi.toNat) (hc : isTail c = true) (hd : isTail d = true) :
    fourOctets a lo hi (b :: c :: d :: r) =
      .char (Char.ofNat
        (((a.toNat % 8 * 64 + tailBits b) * 64 + tailBits c) * 64 + tailBits d)) r := by
  have e : (decide (lo ≤ b) && decide (b ≤ hi)) = true := by
    simp [UInt8.le_iff_toNat_le, hb]
  simp only [fourOctets, e, hc, hd, if_true]

/-- Three octets, of which the second makes neither an overlong form nor a surrogate. -/
theorem head_three {a b c : UInt8} (r : Bytes) (h1 : 0xE0 ≤ a.toNat) (h2 : a.toNat < 0xF0)
    (hb : isTail b = true) (hlow : a.toNat = 0xE0 → 0xA0 ≤ b.toNat)
    (hsur : a.toNat = 0xED → b.toNat ≤ 0x9F) (hc : isTail c = true) :
    head a (b :: c :: r) =
      .char (Char.ofNat ((a.toNat % 16 * 64 + tailBits b) * 64 + tailBits c)) r := by
  have hb' := isTail_iff.1 hb
  have e1 : ¬ a < 0x80 := by rw [UInt8.lt_iff_toNat_lt]; simp; omega
  have e2 : ¬ a < 0xC2 := by rw [UInt8.lt_iff_toNat_lt]; simp; omega
  have e3 : ¬ a < 0xE0 := by rw [UInt8.lt_iff_toNat_lt]; simp; omega
  unfold head
  rw [if_neg e1, if_neg e2, if_neg e3]
  by_cases ha : a = 0xE0
  · rw [if_pos ha]
    exact threeOctets_eq r ⟨hlow (by rw [ha]; rfl), hb'.2⟩ hc
  by_cases hd : a = 0xED
  · rw [if_neg ha, if_pos hd]
    exact threeOctets_eq r ⟨hb'.1, hsur (by rw [hd]; rfl)⟩ hc
  rw [if_neg ha, if_neg hd, if_pos (UInt8.lt_iff_toNat_lt.2 h2)]
  exact threeOctets_eq r hb' hc

/-- Four octets, of which the second makes neither an overlong form nor too great a scalar. -/
theorem head_four {a b c d : UInt8} (r : Bytes) (h1 : 0xF0 ≤ a.toNat) (h2 : a.toNat ≤ 0xF4)
    (hb : isTail b = true) (hlow : a.toNat = 0xF0 → 0x90 ≤ b.toNat)
    (htop : a.toNat = 0xF4 → b.toNat ≤ 0x8F) (hc : isTail c = true) (hd : isTail d = true) :
    head a (b :: c :: d :: r) =
      .char (Char.ofNat
        (((a.toNat % 8 * 64 + tailBits b) * 64 + tailBits c) * 64 + tailBits d)) r := by
  have hb' := isTail_iff.1 hb
  have e1 : ¬ a < 0x80 := by rw [UInt8.lt_iff_toNat_lt]; simp; omega
  have e2 : ¬ a < 0xC2 := by rw [UInt8.lt_iff_toNat_lt]; simp; omega
  have e3 : ¬ a < 0xE0 := by rw [UInt8.lt_iff_toNat_lt]; simp; omega
  have e4 : ¬ a < 0xF0 := by rw [UInt8.lt_iff_toNat_lt]; simp; omega
  have e5 : a ≠ 0xE0 := by rintro rfl; exact absurd h1 (by decide)
  have e6 : a ≠ 0xED := by rintro rfl; exact absurd h1 (by decide)
  unfold head
  rw [if_neg e1, if_neg e2, if_neg e3, if_neg e5, if_neg e6, if_neg e4]
  -- the least and the greatest first octet bound the second one
  by_cases ha : a = 0xF0
  · rw [if_pos ha]
    exact fourOctets_eq r ⟨hlow (by rw [ha]; rfl), hb'.2⟩ hc hd
  by_cases hf : a < 0xF4
  · rw [if_neg ha, if_pos hf]
    exact fourOctets_eq r hb' hc hd
  have hf4 : a = 0xF4 := by
    rw [UInt8.lt_iff_toNat_lt] at hf
    apply UInt8.toNat_inj.1
    simp at hf ⊢
    omega
  rw [if_neg ha, if_neg hf, if_pos hf4]
  exact fourOctets_eq r ⟨hb'.1, htop (by rw [hf4]; rfl)⟩ hc hd

/-- A continuation octet carries the six bits that it was written for. -/
theorem tail_ofNat (n : Nat) : isTail (UInt8.ofNat (n % 64 + 128)) = true ∧
    tailBits (UInt8.ofNat (n % 64 + 128)) = n % 64 := by
  rw [isTail_iff, tailBits, toNat_ofNat (by omega)]
  omega

/-- **The octets of a character are read back as it, whatever follows them.** -/
theorem head_utf8EncodeChar (c : Char) (t : Bytes) :
    ∃ a r, String.utf8EncodeChar c = a :: r ∧ head a (r ++ t) = .char c t := by
  have hv := toNat_range c
  have hc : Char.ofNat c.val.toNat = c := Char.ofNat_toNat c
  fun_cases String.utf8EncodeChar c with
  | case1 v h =>
    refine ⟨_, _, rfl, ?_⟩
    have ha := toNat_ofNat (n := v) (by omega)
    rw [List.nil_append, head_one t (by omega), ha, hc]
  | case2 v h1 h2 =>
    refine ⟨_, _, rfl, ?_⟩
    have ha := toNat_ofNat (n := v / 64 % 32 + 192) (by omega)
    simp only [List.cons_append, List.nil_append]
    rw [head_two t (by omega) (by omega) (tail_ofNat v).1, ha, (tail_ofNat v).2,
      show (v / 64 % 32 + 192) % 32 * 64 + v % 64 = v by omega, hc]
  | case3 v h1 h2 h3 =>
    refine ⟨_, _, rfl, ?_⟩
    have ha := toNat_ofNat (n := v / 4096 % 16 + 224) (by omega)
    have hb := toNat_ofNat (n := v / 64 % 64 + 128) (by omega)
    simp only [List.cons_append, List.nil_append]
    rw [head_three t (by omega) (by omega) (tail_ofNat (v / 64)).1 (by omega) (by omega)
      (tail_ofNat v).1, ha, (tail_ofNat (v / 64)).2, (tail_ofNat v).2,
      show ((v / 4096 % 16 + 224) % 16 * 64 + v / 64 % 64) * 64 + v % 64 = v by omega, hc]
  | case4 v h1 h2 h3 =>
    refine ⟨_, _, rfl, ?_⟩
    have ha := toNat_ofNat (n := v / 262144 % 8 + 240) (by omega)
    have hb := toNat_ofNat (n := v / 4096 % 64 + 128) (by omega)
    simp only [List.cons_append, List.nil_append]
    rw [head_four t (by omega) (by omega) (tail_ofNat (v / 4096)).1 (by omega) (by omega)
      (tail_ofNat (v / 64)).1 (tail_ofNat v).1, ha, (tail_ofNat (v / 4096)).2,
      (tail_ofNat (v / 64)).2, (tail_ofNat v).2,
      show (((v / 262144 % 8 + 240) % 8 * 64 + v / 4096 % 64) * 64 + v / 64 % 64) * 64 + v % 64 = v
        by omega, hc]

theorem decodeFrom_char {seen : List Char} {good : Nat} {a : UInt8} {r rest : Bytes} {c : Char}
    (h : head a r = .char c rest) :
    decodeFrom seen good (a :: r) = decodeFrom (c :: seen) (good + c.utf8Size) rest := by
  rw [decodeFrom.eq_def]
  simp only
  split <;> simp_all

/-- **The octets of a text are read back as it.** -/
theorem decode_encode (cs : List Char) : decode (encode cs) = .ok cs := by
  have from_seen : ∀ seen good, decodeFrom seen good (encode cs) = .ok (seen.reverse ++ cs) := by
    induction cs with
    | nil =>
      intro seen good
      rw [encode, List.flatMap_nil, decodeFrom.eq_def, List.append_nil]
    | cons c cs ih =>
      intro seen good
      obtain ⟨a, r, ha, hhead⟩ := head_utf8EncodeChar c (encode cs)
      have e : encode (c :: cs) = a :: (r ++ encode cs) := by
        rw [encode, List.flatMap_cons, ha]
        rfl
      rw [e, decodeFrom_char hhead, ih]
      simp
  exact from_seen [] 0

theorem encode_inj {cs ds : List Char} (h : encode cs = encode ds) : cs = ds := by
  have := decode_encode cs
  rw [h, decode_encode] at this
  exact (Except.ok.inj this).symm

/-- **A character past ASCII has no octet of ASCII**, and a character of ASCII is its own octet. -/
theorem utf8EncodeChar_octets (c : Char) :
    (c.toNat < 0x80 ∧ String.utf8EncodeChar c = [UInt8.ofNat c.toNat]) ∨
    (0x80 ≤ c.toNat ∧ ∀ b ∈ String.utf8EncodeChar c, 0x80 ≤ b.toNat) := by
  have hc : c.toNat = c.val.toNat := rfl
  rw [hc]
  fun_cases String.utf8EncodeChar c with
  | case1 v h => exact .inl ⟨by omega, rfl⟩
  | case2 v h1 h2 =>
    refine .inr ⟨by omega, fun b hb => ?_⟩
    simp only [List.mem_cons, List.not_mem_nil, or_false] at hb
    rcases hb with rfl | rfl <;> rw [toNat_ofNat (by omega)] <;> omega
  | case3 v h1 h2 h3 =>
    refine .inr ⟨by omega, fun b hb => ?_⟩
    simp only [List.mem_cons, List.not_mem_nil, or_false] at hb
    rcases hb with rfl | rfl | rfl <;> rw [toNat_ofNat (by omega)] <;> omega
  | case4 v h1 h2 h3 =>
    refine .inr ⟨by omega, fun b hb => ?_⟩
    simp only [List.mem_cons, List.not_mem_nil, or_false] at hb
    rcases hb with rfl | rfl | rfl | rfl <;> rw [toNat_ofNat (by omega)] <;> omega

/-! ## 2. The order of texts -/

/-- The octets of a lesser character come first, whatever follows either. -/
theorem utf8EncodeChar_lt {c d : Char} (h : c < d) (x y : Bytes) :
    String.utf8EncodeChar c ++ x < String.utf8EncodeChar d ++ y := by
  have hlt : c.val.toNat < d.val.toNat := by
    simpa [Char.lt_def, UInt32.lt_iff_toNat_lt] using h
  have hd := toNat_range d
  -- the first octet that differs decides, and every length of either character has its own
  fun_cases String.utf8EncodeChar c <;> fun_cases String.utf8EncodeChar d <;>
    simp (disch := omega) only [List.cons_append, List.nil_append, List.cons_lt_cons_iff,
      UInt8.lt_iff_toNat_lt, ← UInt8.toNat_inj, toNat_ofNat, Nat.mod_eq_of_lt] <;> omega

theorem encode_lt {cs ds : List Char} (h : cs < ds) : encode cs < encode ds := by
  induction h with
  | @nil d ds =>
    obtain ⟨a, r, ha⟩ := List.exists_cons_of_ne_nil (String.utf8EncodeChar_ne_nil (c := d))
    simp [encode, ha]
  | cons h ih => exact List.Lex.append_left _ ih _
  | rel h => exact utf8EncodeChar_lt h _ _

/-- **Texts are in the order of their octets.** -/
theorem ofString_lt_iff {s t : String} : ofString s < ofString t ↔ s < t := by
  constructor
  · intro h
    rcases Std.lt_trichotomy s t with hlt | heq | hgt
    · exact hlt
    · exact absurd h (heq ▸ List.lt_irrefl _)
    · exact absurd h (List.lt_asymm (encode_lt (String.lt_iff.1 hgt)))
  · exact fun h => encode_lt (String.lt_iff.1 h)

/-! ## 3. Text between octets of ASCII -/

section Ascii

variable {v : Bytes} (hv : ∀ b ∈ v, b.toNat < 0x80)

include hv

/-- An octet of ASCII continues no character. -/
theorem ascii_no_tail {r t : Bytes} {b lo : UInt8} (h : r ++ v = b :: t) (hlo : 0x80 ≤ lo.toNat)
    (hb : lo ≤ b) : ∃ r', r = b :: r' ∧ t = r' ++ v := by
  cases r with
  | nil =>
    rw [List.nil_append] at h
    have := hv b (by simp [h])
    rw [UInt8.le_iff_toNat_le] at hb
    omega
  | cons c r =>
    obtain ⟨rfl, rfl⟩ := List.cons.inj h
    exact ⟨r, rfl, rfl⟩

theorem twoOctets_before {a : UInt8} {r rest : Bytes} {c : Char}
    (h : twoOctets a (r ++ v) = .char c rest) :
    ∃ r', rest = r' ++ v ∧ twoOctets a r = .char c r' := by
  unfold twoOctets at h
  split at h
  · cases h
  · rename_i b t hb
    split at h
    · rename_i htail
      cases h
      simp only [isTail, Bool.and_eq_true, decide_eq_true_eq] at htail
      obtain ⟨r', rfl, rfl⟩ := ascii_no_tail hv hb (by decide) htail.1
      exact ⟨r', rfl, by simp [twoOctets, isTail, htail]⟩
    · cases h

theorem threeOctets_before {a lo hi : UInt8} {r rest : Bytes} {c : Char} (hlo : 0x80 ≤ lo.toNat)
    (h : threeOctets a lo hi (r ++ v) = .char c rest) :
    ∃ r', rest = r' ++ v ∧ threeOctets a lo hi r = .char c r' := by
  unfold threeOctets at h
  split at h
  · cases h
  · rename_i b t hb
    split at h
    · rename_i hrange
      simp only [Bool.and_eq_true, decide_eq_true_eq] at hrange
      obtain ⟨r', rfl, rfl⟩ := ascii_no_tail hv hb hlo hrange.1
      split at h
      · cases h
      · rename_i d t hd
        split at h
        · rename_i htail
          cases h
          simp only [isTail, Bool.and_eq_true, decide_eq_true_eq] at htail
          obtain ⟨r'', rfl, rfl⟩ := ascii_no_tail hv hd (by decide) htail.1
          exact ⟨r'', rfl, by simp [threeOctets, isTail, htail, hrange]⟩
        · cases h
    · cases h

theorem fourOctets_before {a lo hi : UInt8} {r rest : Bytes} {c : Char} (hlo : 0x80 ≤ lo.toNat)
    (h : fourOctets a lo hi (r ++ v) = .char c rest) :
    ∃ r', rest = r' ++ v ∧ fourOctets a lo hi r = .char c r' := by
  unfold fourOctets at h
  split at h
  · cases h
  · rename_i b t hb
    split at h
    · rename_i hrange
      simp only [Bool.and_eq_true, decide_eq_true_eq] at hrange
      -- no octet of ASCII continues a character, so all four stand before them
      obtain ⟨r', rfl, rfl⟩ := ascii_no_tail hv hb hlo hrange.1
      split at h
      · cases h
      · rename_i d t hd
        split at h
        · rename_i htail
          simp only [isTail, Bool.and_eq_true, decide_eq_true_eq] at htail
          obtain ⟨r'', rfl, rfl⟩ := ascii_no_tail hv hd (by decide) htail.1
          split at h
          · cases h
          · rename_i e t he
            split at h
            · rename_i htail'
              cases h
              simp only [isTail, Bool.and_eq_true, decide_eq_true_eq] at htail'
              obtain ⟨q, rfl, rfl⟩ := ascii_no_tail hv he (by decide) htail'.1
              exact ⟨q, rfl, by simp [fourOctets, isTail, htail, htail', hrange]⟩
            · cases h
        · cases h
    · cases h

/-- A character before octets of ASCII takes none of them. -/
theorem head_before {a : UInt8} {r rest : Bytes} {c : Char} (h : head a (r ++ v) = .char c rest) :
    ∃ r', rest = r' ++ v ∧ head a r = .char c r' := by
  unfold head at h ⊢
  by_cases h1 : a < 0x80
  · rw [if_pos h1] at h ⊢
    cases h
    exact ⟨r, rfl, rfl⟩
  rw [if_neg h1] at h ⊢
  by_cases h2 : a < 0xC2
  · rw [if_pos h2] at h
    cases h
  rw [if_neg h2] at h ⊢
  by_cases h3 : a < 0xE0
  · rw [if_pos h3] at h ⊢
    exact twoOctets_before hv h
  rw [if_neg h3] at h ⊢
  by_cases h4 : a = 0xE0
  · rw [if_pos h4] at h ⊢
    exact threeOctets_before hv (by decide) h
  rw [if_neg h4] at h ⊢
  by_cases h5 : a = 0xED
  · rw [if_pos h5] at h ⊢
    exact threeOctets_before hv (by decide) h
  rw [if_neg h5] at h ⊢
  by_cases h6 : a < 0xF0
  · rw [if_pos h6] at h ⊢
    exact threeOctets_before hv (by decide) h
  rw [if_neg h6] at h ⊢
  by_cases h7 : a = 0xF0
  · rw [if_pos h7] at h ⊢
    exact fourOctets_before hv (by decide) h
  rw [if_neg h7] at h ⊢
  by_cases h8 : a < 0xF4
  · rw [if_pos h8] at h ⊢
    exact fourOctets_before hv (by decide) h
  rw [if_neg h8] at h ⊢
  by_cases h9 : a = 0xF4
  · rw [if_pos h9] at h ⊢
    exact fourOctets_before hv (by decide) h
  rw [if_neg h9] at h
  cases h

end Ascii

theorem decodeFrom_cons {seen cs : List Char} {good : Nat} {a : UInt8} {r : Bytes}
    (h : decodeFrom seen good (a :: r) = .ok cs) :
    ∃ c rest, head a r = .char c rest ∧
      decodeFrom (c :: seen) (good + c.utf8Size) rest = .ok cs := by
  rw [decodeFrom.eq_def] at h
  simp only at h
  split at h
  · rename_i c rest hc
    exact ⟨c, rest, hc, h⟩
  · cases h
  · cases h

/-- Whether octets are text does not depend on what was read before them, and what stands before
    octets of ASCII is text if all of it is. -/
theorem decodeFrom_before {u v : Bytes} (hv : ∀ b ∈ v, b.toNat < 0x80) {seen cs : List Char}
    {good : Nat} (h : decodeFrom seen good (u ++ v) = .ok cs) (seen' : List Char) (good' : Nat) :
    ∃ ds, decodeFrom seen' good' u = .ok ds := by
  generalize hbs : u ++ v = bs at h
  induction hlen : bs.length using Nat.strongRecOn generalizing u bs seen good seen' good' with
  | ind n ih =>
    cases u with
    | nil => exact ⟨_, by rw [decodeFrom.eq_def]⟩
    | cons a r =>
      subst hbs
      obtain ⟨c, rest, hhead, hrest⟩ := decodeFrom_cons h
      have hshort := head_shrinks hhead
      obtain ⟨r', rfl, hc⟩ := head_before hv hhead
      rw [decodeFrom_char hc]
      refine ih _ ?_ _ _ _ rfl hrest rfl
      rw [← hlen]
      exact Nat.lt_succ_of_le hshort

/-- So is what stands behind octets of ASCII. -/
theorem decodeFrom_behind {v u : Bytes} (hv : ∀ b ∈ v, b.toNat < 0x80) {seen cs : List Char}
    {good : Nat} (h : decodeFrom seen good (v ++ u) = .ok cs) :
    ∃ seen' good', decodeFrom seen' good' u = .ok cs := by
  induction v generalizing seen good with
  | nil => exact ⟨seen, good, h⟩
  | cons b v ih =>
    rw [List.cons_append, decodeFrom_char (head_one _ (hv b (by simp)))] at h
    exact ih (fun x hx => hv x (by simp [hx])) h

/-- **What stands between octets of ASCII is text if all of it is.** -/
theorem decode_between {v u w : Bytes} (hv : ∀ b ∈ v, b.toNat < 0x80)
    (hw : ∀ b ∈ w, b.toNat < 0x80) {cs : List Char} (h : decode (v ++ (u ++ w)) = .ok cs) :
    ∃ ds, decode u = .ok ds := by
  obtain ⟨seen, good, hseen⟩ := decodeFrom_behind hv h
  exact decodeFrom_before hw hseen [] 0

/-! ## 4. Texts and their octets -/

/-- The octets of a text are read as it. -/
theorem text?_ofString (s : String) : text? (ofString s) = some s := by
  rw [text?, text, ofString, decode_encode]
  exact congrArg some String.ofList_toList

theorem toNat_char (b : UInt8) : (Char.ofNat b.toNat).toNat = b.toNat := by
  have hb := UInt8.toNat_lt b
  rw [Char.ofNat, dif_pos (.inl (by omega))]
  rfl

theorem ofString_append (s t : String) : ofString (s ++ t) = ofString s ++ ofString t := by
  rw [ofString, String.toList_append, encode, List.flatMap_append]
  rfl

/-- Octets of ASCII are a text. -/
theorem exists_ofString {bs : Bytes} (h : ∀ b ∈ bs, b.toNat < 0x80) :
    ∃ s : String, ofString s = bs := by
  induction bs with
  | nil => exact ⟨"", rfl⟩
  | cons b bs ih =>
    obtain ⟨hb, hbs⟩ := List.forall_mem_cons.1 h
    obtain ⟨s, rfl⟩ := ih hbs
    have hchar := toNat_char b
    refine ⟨String.ofList (Char.ofNat b.toNat :: s.toList), ?_⟩
    rw [ofString, String.toList_ofList, encode, List.flatMap_cons]
    rcases utf8EncodeChar_octets (Char.ofNat b.toNat) with ⟨-, hocts⟩ | ⟨hle, -⟩
    · rw [hocts, hchar, UInt8.ofNat_toNat]
      rfl
    · omega

/-- A character of ASCII stands in a text only if its octet stands among those of the text. -/
theorem mem_ofString {s : String} {c : Char} (hc : c.toNat < 0x80) (h : c ∈ s.toList) :
    UInt8.ofNat c.toNat ∈ ofString s := by
  refine List.mem_flatMap.2 ⟨c, h, ?_⟩
  rcases utf8EncodeChar_octets c with ⟨-, hocts⟩ | ⟨hle, -⟩
  · rw [hocts]
    exact List.mem_singleton_self _
  · omega

/-! ## 5. Only texts are read -/

theorem toNat_val_ofNat {n : Nat} (h : n.isValidChar) : (Char.ofNat n).val.toNat = n := by
  rw [Char.ofNat, dif_pos h]
  rfl

theorem eq_ofNat {a : UInt8} {n : Nat} (h : n = a.toNat) : UInt8.ofNat n = a := by
  rw [h, UInt8.ofNat_toNat]

theorem twoOctets_written {a : UInt8} {r rest : Bytes} {c : Char} (hlo : 0xC2 ≤ a.toNat)
    (hhi : a.toNat < 0xE0) (h : twoOctets a r = .char c rest) :
    a :: r = String.utf8EncodeChar c ++ rest := by
  unfold twoOctets at h
  split at h
  · cases h
  · rename_i b r
    split at h
    · rename_i hb
      cases h
      rw [isTail_iff] at hb
      have hv := toNat_val_ofNat (n := a.toNat % 32 * 64 + b.toNat % 64) (.inl (by omega))
      rw [String.utf8EncodeChar, tailBits]
      simp only [hv]
      rw [if_neg (by omega), if_pos (by omega), eq_ofNat (a := a) (by omega),
        eq_ofNat (a := b) (by omega)]
      rfl
    · cases h

/-- What is read as a character of three octets is its octets, if the first two of them are those
    of a character. -/
theorem threeOctets_written {a lo hi : UInt8} {r rest : Bytes} {c : Char} (ha : 0xE0 ≤ a.toNat)
    (ha' : a.toNat < 0xF0)
    (hrange : ∀ b : Nat, lo.toNat ≤ b → b ≤ hi.toNat → 0x80 ≤ b ∧ b ≤ 0xBF ∧
      0x20 ≤ a.toNat % 16 * 64 + b % 64 ∧
      (a.toNat % 16 * 64 + b % 64 < 0x360 ∨ 0x37F < a.toNat % 16 * 64 + b % 64))
    (h : threeOctets a lo hi r = .char c rest) :
    a :: r = String.utf8EncodeChar c ++ rest := by
  unfold threeOctets at h
  split at h
  · cases h
  · rename_i b r
    split at h
    · rename_i hb
      simp only [Bool.and_eq_true, decide_eq_true_eq, UInt8.le_iff_toNat_le] at hb
      have hb := hrange _ hb.1 hb.2
      split at h
      · cases h
      · rename_i d r
        split at h
        · rename_i hd
          cases h
          rw [isTail_iff] at hd
          have hv := toNat_val_ofNat
            (n := (a.toNat % 16 * 64 + b.toNat % 64) * 64 + d.toNat % 64)
            (by unfold Nat.isValidChar; omega)
          rw [String.utf8EncodeChar, tailBits, tailBits]
          simp only [hv]
          rw [if_neg (by omega), if_neg (by omega), if_pos (by omega), eq_ofNat (a := a) (by omega),
            eq_ofNat (a := b) (by omega), eq_ofNat (a := d) (by omega)]
          rfl
        · cases h
    · cases h

theorem fourOctets_written {a lo hi : UInt8} {r rest : Bytes} {c : Char} (ha : 0xF0 ≤ a.toNat)
    (ha' : a.toNat < 0xF8)
    (hrange : ∀ b : Nat, lo.toNat ≤ b → b ≤ hi.toNat → 0x80 ≤ b ∧ b ≤ 0xBF ∧
      0x10 ≤ a.toNat % 8 * 64 + b % 64 ∧ a.toNat % 8 * 64 + b % 64 < 0x110)
    (h : fourOctets a lo hi r = .char c rest) :
    a :: r = String.utf8EncodeChar c ++ rest := by
  unfold fourOctets at h
  split at h
  · cases h
  · rename_i b r
    split at h
    · rename_i hb
      simp only [Bool.and_eq_true, decide_eq_true_eq, UInt8.le_iff_toNat_le] at hb
      have hb := hrange _ hb.1 hb.2
      split at h
      · cases h
      · rename_i d r
        split at h
        · rename_i hd
          rw [isTail_iff] at hd
          split at h
          · cases h
          · rename_i e r
            split at h
            · rename_i he
              cases h
              rw [isTail_iff] at he
              have hv := toNat_val_ofNat
                (n := ((a.toNat % 8 * 64 + b.toNat % 64) * 64 + d.toNat % 64) * 64 + e.toNat % 64)
                (by unfold Nat.isValidChar; omega)
              rw [String.utf8EncodeChar, tailBits, tailBits, tailBits]
              simp only [hv]
              rw [if_neg (by omega), if_neg (by omega), if_neg (by omega),
                eq_ofNat (a := a) (by omega), eq_ofNat (a := b) (by omega),
                eq_ofNat (a := d) (by omega), eq_ofNat (a := e) (by omega)]
              rfl
            · cases h
        · cases h
    · cases h

/-- **What is read as a character is its octets.** -/
theorem head_written {a : UInt8} {r rest : Bytes} {c : Char} (h : head a r = .char c rest) :
    a :: r = String.utf8EncodeChar c ++ rest := by
  unfold head at h
  simp only [UInt8.lt_iff_toNat_lt, ← UInt8.toNat_inj, UInt8.reduceToNat] at h
  split at h
  · rename_i h1
    cases h
    have hv := toNat_val_ofNat (n := a.toNat) (.inl (by omega))
    rw [String.utf8EncodeChar]
    simp only [hv]
    rw [if_pos (by omega), eq_ofNat rfl]
    rfl
  split at h
  · cases h
  split at h
  · exact twoOctets_written (by omega) (by omega) h
  split at h
  · exact threeOctets_written (by omega) (by omega) (by simp; omega) h
  split at h
  · exact threeOctets_written (by omega) (by omega) (by simp; omega) h
  split at h
  · exact threeOctets_written (by omega) (by omega) (by simp; omega) h
  split at h
  · exact fourOctets_written (by omega) (by omega) (by simp; omega) h
  split at h
  · exact fourOctets_written (by omega) (by omega) (by simp; omega) h
  split at h
  · exact fourOctets_written (by omega) (by omega) (by simp; omega) h
  · cases h

theorem eq_encode_of_decodeFrom {seen cs : List Char} {good : Nat} {bs : Bytes}
    (h : decodeFrom seen good bs = .ok cs) : ∃ ds, cs = seen.reverse ++ ds ∧ bs = encode ds := by
  induction hlen : bs.length using Nat.strongRecOn generalizing bs seen good with
  | ind n ih =>
    cases bs with
    | nil =>
      rw [decodeFrom.eq_def] at h
      cases h
      exact ⟨[], (List.append_nil _).symm, rfl⟩
    | cons a r =>
      obtain ⟨c, rest, hhead, hrest⟩ := decodeFrom_cons h
      have hshort := head_shrinks hhead
      obtain ⟨ds, rfl, rfl⟩ := ih _ (hlen ▸ Nat.lt_succ_of_le hshort) hrest rfl
      refine ⟨c :: ds, by simp, ?_⟩
      rw [head_written hhead, encode, encode, List.flatMap_cons]

/-- **Exactly the octets of a text are read as it.** -/
theorem decode_eq_ok_iff {bs : Bytes} {cs : List Char} : decode bs = .ok cs ↔ bs = encode cs := by
  constructor
  · intro h
    obtain ⟨ds, rfl, hbs⟩ := eq_encode_of_decodeFrom h
    exact hbs
  · rintro rfl
    exact decode_encode cs

end CitationFusion.Utf8
