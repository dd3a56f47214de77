import CitationFusion.Json.Record
import CitationFusion.Json.Write
import CitationFusion.Proofs.Json.Passing
import CitationFusion.Proofs.Utf8
import Mathlib.Data.List.Forall2

/-!
# What is written is read back

* `Written value v a` : the octets `v` are one value, and `value` reads them as `a`.
* `written_string`, `written_nat`, `written_bool`, `written_list` : what the writers write.
* `Fills` : members that fill a draft, one field after the other.
* `Shape.written` : a record of such members is read back.
-/

namespace CitationFusion.Json

open Ascii

/-! ## 1. Strings -/

theorem hexValue_hexDigit : ∀ n < 16, hexValue? (hexDigit n) = some n := by decide

theorem hexQuad_hexDigits {n : Nat} (h : n < 256) (r : Bytes) :
    hexQuad (zero :: zero :: hexDigit (n / 16) :: hexDigit (n % 16) :: r) = .ok (n, r) := by
  have h0 : hexValue? zero = some 0 := by decide
  simp only [hexQuad, h0, hexValue_hexDigit (n / 16) (by omega),
    hexValue_hexDigit (n % 16) (by omega)]
  congr 2
  omega

theorem isPlain_of_le {b : UInt8} (h : 0x80 ≤ b.toNat) : isPlain b = true := by
  have hq : b ≠ quote := by rintro rfl; exact absurd h (by decide)
  have hb : b ≠ backslash := by rintro rfl; exact absurd h (by decide)
  have hc : ¬ b < 0x20 := by rw [UInt8.lt_iff_toNat_lt]; simp; omega
  simp [isPlain, hq, hb, hc]

/-- How a character stands in a string: as an escape of one letter, as an escape of its number,
    or as its octets. -/
theorem escapeChar_cases (c : Char) :
    (∃ e, escapeChar c = [backslash, e] ∧ isShortEscape e = true ∧ shortEscape? e = some c) ∨
    (c.toNat < 0x20 ∧ escapeChar c =
      [backslash, 0x75, zero, zero, hexDigit (c.toNat / 16), hexDigit (c.toNat % 16)]) ∨
    (escapeChar c = String.utf8EncodeChar c ∧
      ∀ b ∈ String.utf8EncodeChar c, isPlain b = true) := by
  fun_cases escapeChar c with
  | case1 h => exact .inl ⟨_, rfl, by decide, by rw [beq_iff_eq.1 h]; rfl⟩
  | case2 _ h => exact .inl ⟨_, rfl, by decide, by rw [beq_iff_eq.1 h]; rfl⟩
  | case3 _ _ h => exact .inl ⟨_, rfl, by decide, by rw [beq_iff_eq.1 h]; rfl⟩
  | case4 _ _ _ h => exact .inl ⟨_, rfl, by decide, by rw [beq_iff_eq.1 h]; rfl⟩
  | case5 _ _ _ _ h => exact .inl ⟨_, rfl, by decide, by rw [beq_iff_eq.1 h]; rfl⟩
  | case6 _ _ _ _ _ h => exact .inl ⟨_, rfl, by decide, by rw [beq_iff_eq.1 h]; rfl⟩
  | case7 _ _ _ _ _ _ h => exact .inl ⟨_, rfl, by decide, by rw [beq_iff_eq.1 h]; rfl⟩
  | case8 _ _ _ _ _ _ _ h => exact .inr (.inl ⟨h, rfl⟩)
  | case9 hq hb _ _ _ _ _ h =>
    refine .inr (.inr ⟨rfl, fun b hb' => ?_⟩)
    rcases Utf8.utf8EncodeChar_octets c with ⟨hc, he⟩ | ⟨_, he⟩
    · rw [he, List.mem_singleton] at hb'
      subst hb'
      have hn : (UInt8.ofNat c.toNat).toNat = c.toNat := Utf8.toNat_ofNat (by omega)
      have hq' : c.toNat ≠ 0x22 := fun e => hq (beq_iff_eq.2 (Char.toNat_inj.1 e))
      have hb' : c.toNat ≠ 0x5C := fun e => hb (beq_iff_eq.2 (Char.toNat_inj.1 e))
      simp only [isPlain, Bool.and_eq_true, bne_iff_ne, ne_eq, ← UInt8.toNat_inj, hn,
        Bool.not_eq_true', decide_eq_false_iff_not, UInt8.lt_iff_toNat_lt]
      exact ⟨⟨hq', hb'⟩, h⟩
    · exact isPlain_of_le (he b hb')

theorem skimString_escapeChar (c : Char) (r : Bytes) :
    skimString (escapeChar c ++ r) = skimString r := by
  rcases escapeChar_cases c with ⟨e, he, hs, -⟩ | ⟨hc, he⟩ | ⟨he, hp⟩
  · rw [he]
    exact skimString_short r hs
  · rw [he]
    exact skimString_unicode (hexQuad_hexDigits (by omega) r)
  · rw [he]
    exact skimString_plain_append hp r

theorem skimString_escape (cs : List Char) (r : Bytes) :
    skimString (escape cs ++ quote :: r) = .ok r := by
  induction cs with
  | nil => exact skimString_quote r
  | cons c cs ih =>
    rw [escape, List.flatMap_cons, List.append_assoc, skimString_escapeChar]
    exact ih

theorem readEscape_short {e : UInt8} {c : Char} (r : Bytes) (h : shortEscape? e = some c) :
    readEscape (e :: r) = .ok (c, r) := by
  simp only [readEscape, h]

theorem readEscape_unicode {r r' : Bytes} {n : Nat} (h : hexQuad r = .ok (n, r'))
    (hn : n < 0xD800) : readEscape (0x75 :: r) = .ok (Char.ofNat n, r') := by
  have hs : shortEscape? 0x75 = none := by decide
  have h1 : ¬ 0xDC00 ≤ n := by omega
  have h2 : ¬ 0xD800 ≤ n := by omega
  simp only [readEscape, hs, h, beq_self_eq_true, if_true, h1, h2, decide_false, Bool.false_and,
    Bool.false_eq_true, if_false]

section Chars

variable {seen : List Char} {bad : Option Nat} {b : UInt8} {r r' : Bytes} {c : Char}

theorem readChars_quote (r : Bytes) :
    readChars seen none (quote :: r) = .ok (String.ofList seen.reverse, r) := by
  rw [readChars.eq_def]
  rfl

theorem readChars_escape (h : readEscape r = .ok (c, r')) :
    readChars seen bad (backslash :: r) = readChars (c :: seen) bad r' := by
  rw [readChars.eq_def]
  simp only [show (backslash == quote) = false from rfl, beq_self_eq_true, if_true,
    Bool.false_eq_true, if_false]
  split <;> simp_all

theorem readChars_char (hb : isPlain b = true) (h : Utf8.head b r = .char c r') :
    readChars seen bad (b :: r) = readChars (c :: seen) bad r' := by
  simp only [isPlain, Bool.and_eq_true, bne_iff_ne, Bool.not_eq_true',
    decide_eq_false_iff_not] at hb
  rw [readChars.eq_def]
  simp only [beq_iff_eq, hb, if_false]
  split <;> simp_all

end Chars

theorem readChars_escapeChar (seen : List Char) (c : Char) (r : Bytes) :
    readChars seen none (escapeChar c ++ r) = readChars (c :: seen) none r := by
  rcases escapeChar_cases c with ⟨e, he, -, hs⟩ | ⟨hc, he⟩ | ⟨he, hp⟩
  · rw [he]
    exact readChars_escape (readEscape_short r hs)
  · rw [he]
    have h := readEscape_unicode (hexQuad_hexDigits (n := c.toNat) (by omega) r) (by omega)
    rw [Char.ofNat_toNat] at h
    exact readChars_escape h
  · obtain ⟨a, r', ha, hhead⟩ := Utf8.head_utf8EncodeChar c r
    rw [he, ha]
    exact readChars_char (hp a (by simp [ha])) hhead

theorem readChars_escapes (seen cs : List Char) (r : Bytes) :
    readChars seen none (escape cs ++ quote :: r) =
      .ok (String.ofList (seen.reverse ++ cs), r) := by
  induction cs generalizing seen with
  | nil => simpa [escape] using readChars_quote r
  | cons c cs ih =>
    rw [escape, List.flatMap_cons, List.append_assoc, readChars_escapeChar]
    have := ih (c :: seen)
    rw [escape] at this
    rw [this]
    simp

/-- **A string that was written is read back, whatever follows it.** -/
theorem readString_writeString (s : String) (r : Bytes) :
    readString (escape s.toList ++ quote :: r) = .ok (s, r) := by
  have := readChars_escapes [] s.toList r
  simpa [readString] using this

/-! ## 2. Written values -/

variable {α β σ : Type}

/-- Some octets are one value, without white space before it, and are read as `a`. -/
structure Written (value : Reader α) (v : Bytes) (a : α) : Prop where
  one : IsValue v
  bare : skipSpace v = v
  reads : ∀ t, Closed t → value (v ++ t) = .ok (a, t)

namespace Written

variable {value : Reader α} {v : Bytes} {a : α}

theorem begins (h : Written value v a) :
    ∃ b r, v = b :: r ∧ isSpace b = false ∧ b ≠ closeBracket := by
  obtain ⟨b, r, hv, hb⟩ := h.one.begins
  rw [h.bare] at hv
  have := List.head?_dropWhile_not isSpace v
  rw [show v.dropWhile isSpace = v from h.bare, hv] at this
  exact ⟨b, r, hv, by simpa using this, hb⟩

theorem skipSpace_append (h : Written value v a) (t : Bytes) : skipSpace (v ++ t) = v ++ t := by
  obtain ⟨b, r, rfl, hb, -⟩ := h.begins
  exact skipSpace_cons _ hb

/-- What is read may be turned into something else. -/
theorem map (f : α → β) (h : Written value v a) :
    Written (fun bs => (value bs).map fun (a, rest) => (f a, rest)) v (f a) where
  one := h.one
  bare := h.bare
  reads t ht := by
    show (value (v ++ t)).map _ = _
    rw [h.reads t ht]
    rfl

/-- **A whole text that was written is read back.** -/
theorem readDocument_eq (h : Written value v a) : readDocument value v = .ok a := by
  have := h.reads [] closed_nil
  rw [List.append_nil] at this
  simp only [readDocument, this]
  rfl

end Written

/-! ## 3. Values of one kind -/

theorem isValue_string (s : String) : IsValue (writeString s) := by
  intro stack t _
  have h : skimScalar quote (escape s.toList ++ quote :: t) = .ok t := skimString_escape s.toList t
  have e : writeString s ++ t = quote :: (escape s.toList ++ quote :: t) := by simp [writeString]
  rw [e]
  exact skimFrom_scalar (skipSpace_cons _ (by decide)) (by decide) (by decide) h

theorem written_string (s : String) : Written readText (writeString s) s where
  one := isValue_string s
  bare := skipSpace_cons _ (by decide)
  reads t _ := by
    have e : writeString s ++ t = quote :: (escape s.toList ++ quote :: t) := by simp [writeString]
    have hs : skipSpace (quote :: (escape s.toList ++ quote :: t)) =
      quote :: (escape s.toList ++ quote :: t) := skipSpace_cons _ (by decide)
    rw [e]
    simp only [readText, hs]
    exact readString_writeString s t

theorem written_bool (b : Bool) : Written readBool (writeBool b) b := by
  have word : ∀ c w, isSpace c = false → c ≠ openBracket → c ≠ openBrace →
      (∀ t, skimScalar c (w ++ t) = skimLiteral w (w ++ t)) →
      (∀ t, readBool (c :: (w ++ t)) = .ok (b, t)) → Written readBool (c :: w) b := by
    intro c w hc hl ho hs hr
    refine ⟨fun stack t _ => ?_, skipSpace_cons _ hc, fun t _ => hr t⟩
    have h : skimScalar c (w ++ t) = .ok t := by rw [hs, skimLiteral_append]
    exact skimFrom_scalar (skipSpace_cons _ hc) hl ho h
  cases b with
  | true =>
    refine word 0x74 trueTail (by decide) (by decide) (by decide) (fun _ => rfl) fun t => ?_
    have hs : skipSpace (0x74 :: (trueTail ++ t)) = 0x74 :: (trueTail ++ t) :=
      skipSpace_cons _ (by decide)
    simp only [readBool, hs, beq_self_eq_true, if_true, skimLiteral_append]
    rfl
  | false =>
    refine word 0x66 falseTail (by decide) (by decide) (by decide) (fun _ => rfl) fun t => ?_
    have hs : skipSpace (0x66 :: (falseTail ++ t)) = 0x66 :: (falseTail ++ t) :=
      skipSpace_cons _ (by decide)
    simp only [readBool, hs, show ((0x66 : UInt8) == 0x74) = false from rfl, beq_self_eq_true,
      if_true, Bool.false_eq_true, if_false, skimLiteral_append]
    rfl

/-! ## 4. Lists -/

theorem separated_cons (x : Bytes) (xs : List Bytes) :
    separated (x :: xs) = x ++ xs.flatMap (comma :: ·) := by
  induction xs generalizing x with
  | nil => simp [separated]
  | cons y xs ih =>
    rw [separated, ih, List.flatMap_cons]
    rfl

/-- What stands behind an item of a list, or a member of an object, does not go on with it. -/
theorem closed_behind {close : UInt8} (hc : ∀ t, Closed (close :: t)) (vs : List Bytes)
    (t : Bytes) : Closed (vs.flatMap (comma :: ·) ++ close :: t) := by
  cases vs with
  | nil => exact hc t
  | cons v vs => exact closed_comma _

theorem length_le_flatMap (vs : List Bytes) : vs.length ≤ (vs.flatMap (comma :: ·)).length := by
  induction vs with
  | nil => exact Nat.le_refl _
  | cons v vs ih =>
    rw [List.flatMap_cons, List.length_append, List.length_cons, List.length_cons]
    omega

theorem skimFrom_items {vs : List Bytes} (h : ∀ v ∈ vs, IsValue v) (stack : List Frame)
    (t : Bytes) :
    skimFrom .behind (.list :: stack) (vs.flatMap (comma :: ·) ++ closeBracket :: t) =
      skimFrom .behind stack t := by
  induction vs with
  | nil => exact skimFrom_behind_closeBracket (skipSpace_cons _ (by decide))
  | cons v vs ih =>
    have hc := closed_behind closed_closeBracket vs t
    rw [List.flatMap_cons, List.append_assoc, List.cons_append,
      skimFrom_behind_item (skipSpace_cons _ (by decide)), h v (by simp) _ _ hc]
    exact ih fun w hw => h w (by simp [hw])

/-- A list of values is a value. -/
theorem IsValue.list {vs : List Bytes} (h : ∀ v ∈ vs, IsValue v) : IsValue (writeList vs) := by
  intro stack t _
  have e : writeList vs ++ t = openBracket :: (separated vs ++ closeBracket :: t) := by
    simp [writeList]
  rw [e, skimFrom_openBracket (skipSpace_cons _ (by decide))]
  cases vs with
  | nil => exact skimFrom_opened_closeBracket (skipSpace_cons _ (by decide))
  | cons v vs =>
    have hv := h v (by simp)
    have hc := closed_behind closed_closeBracket vs t
    obtain ⟨b, r, hs, hb⟩ := hv.begins
    rw [separated_cons, List.append_assoc,
      skimFrom_opened_item (Json.skipSpace_append hs _) hb, ← Json.skipSpace_append hs,
      skimFrom_value_congr (skipSpace_skipSpace _), hv _ _ hc]
    exact skimFrom_items (fun w hw => h w (by simp [hw])) stack t

section Items

variable {item : Reader α} {v : Bytes} {a : α} {vs : List Bytes} {as : List α}

theorem nextItem_first (h : Written item v a) (t : Bytes) :
    nextItem true (v ++ t) = .ok (some (v ++ t)) := by
  have hs := h.skipSpace_append t
  obtain ⟨b, r, rfl, -, hb⟩ := h.begins
  rw [List.cons_append] at hs ⊢
  simp only [nextItem, hs, beq_iff_eq, hb, if_false, if_true]

theorem nextItem_comma (h : Written item v a) (t : Bytes) :
    nextItem false (comma :: (v ++ t)) = .ok (some (v ++ t)) := by
  have hs := h.skipSpace_append t
  have hc : skipSpace (comma :: (v ++ t)) = comma :: (v ++ t) := skipSpace_cons _ (by decide)
  obtain ⟨b, r, rfl, -, hb⟩ := h.begins
  rw [List.cons_append] at hs hc ⊢
  simp only [nextItem, hc, hs, show (comma == closeBracket) = false from rfl, Bool.false_eq_true,
    if_false, beq_self_eq_true, if_true, beq_iff_eq, hb]

theorem readItems_rest (h : List.Forall₂ (Written item) vs as) {fuel : Nat} {seen : List α}
    (hseen : seen ≠ []) (hfuel : vs.length < fuel) (t : Bytes) :
    readItems item fuel seen (vs.flatMap (comma :: ·) ++ closeBracket :: t) =
      .ok (seen.reverse ++ as, t) := by
  have hfirst : ∀ (s : List α), s ≠ [] → s.isEmpty = false := by
    intro s hs
    cases s with
    | nil => exact absurd rfl hs
    | cons _ _ => rfl
  induction h generalizing fuel seen with
  | nil =>
    obtain ⟨fuel, rfl⟩ := Nat.exists_eq_add_one_of_ne_zero (Nat.ne_of_gt hfuel)
    have hs : skipSpace (closeBracket :: t) = closeBracket :: t := skipSpace_cons _ (by decide)
    simp only [List.flatMap_nil, List.nil_append, readItems, nextItem, closeList, hs,
      beq_self_eq_true, if_true, List.append_nil]
    rfl
  | @cons v a vs as hv _ ih =>
    obtain ⟨fuel, rfl⟩ := Nat.exists_eq_add_one_of_ne_zero (Nat.ne_of_gt (Nat.zero_lt_of_lt hfuel))
    have hc := closed_behind closed_closeBracket vs t
    rw [List.flatMap_cons, List.append_assoc, List.cons_append]
    simp only [readItems, hfirst seen hseen, nextItem_comma hv, hv.reads _ hc]
    rw [ih (List.cons_ne_nil _ _) (by simpa using hfuel)]
    simp

/-- **A list that was written is read back, item by item.** -/
theorem written_list (h : List.Forall₂ (Written item) vs as) :
    Written (readList item) (writeList vs) as := by
  refine ⟨.list fun v hv => ?_, skipSpace_cons _ (by decide), fun t _ => ?_⟩
  · exact ((List.forall₂_and_left _ _).1 (h.imp fun _ _ w => ⟨w.one, w⟩)).1 v hv
  have e : writeList vs ++ t = openBracket :: (separated vs ++ closeBracket :: t) := by
    simp [writeList]
  have ho : skipSpace (openBracket :: (separated vs ++ closeBracket :: t)) = _ :=
    skipSpace_cons _ (by decide)
  rw [e]
  simp only [readList, ho, beq_self_eq_true, if_true]
  cases h with
  | nil =>
    have hs : skipSpace (closeBracket :: t) = closeBracket :: t := skipSpace_cons _ (by decide)
    simp only [separated, List.nil_append, readItems, nextItem, closeList, hs, beq_self_eq_true,
      if_true]
    rfl
  | @cons v a vs as hv h =>
    have hc := closed_behind closed_closeBracket vs t
    rw [separated_cons, List.append_assoc]
    simp only [readItems, List.isEmpty_nil, nextItem_first hv, hv.reads _ hc]
    refine readItems_rest h (List.cons_ne_nil _ _) ?_ t
    have := length_le_flatMap vs
    simp only [List.length_append, List.length_cons]
    omega

end Items

/-! ## 5. Objects -/

/-- A member of an object as it was written, its value being a value. -/
def IsMember (m : Bytes) : Prop := ∃ key v, m = writeMember key v ∧ IsValue v

theorem skimKey_writeMember (key : String) (v t : Bytes) :
    skimKey (writeMember key v ++ t) = .ok (v ++ t) := by
  have e : writeMember key v ++ t =
      quote :: (escape key.toList ++ quote :: (colon :: (v ++ t))) := by
    simp [writeMember, writeString]
  rw [e]
  exact skimKey_eq_ok.2
    ⟨_, _, skipSpace_cons _ (by decide), skimString_escape _ _, skipSpace_cons _ (by decide)⟩

theorem skimFrom_members {ms : List Bytes} (h : ∀ m ∈ ms, IsMember m) (stack : List Frame)
    (t : Bytes) :
    skimFrom .behind (.object :: stack) (ms.flatMap (comma :: ·) ++ closeBrace :: t) =
      skimFrom .behind stack t := by
  induction ms with
  | nil => exact skimFrom_behind_closeBrace (skipSpace_cons _ (by decide))
  | cons m ms ih =>
    obtain ⟨key, v, rfl, hv⟩ := h m (by simp)
    have hc := closed_behind closed_closeBrace ms t
    rw [List.flatMap_cons, List.append_assoc, List.cons_append,
      skimFrom_behind_member (skipSpace_cons _ (by decide)) (skimKey_writeMember key v _),
      hv _ _ hc]
    exact ih fun w hw => h w (by simp [hw])

/-- An object of members is a value. -/
theorem IsValue.object {ms : List Bytes} (h : ∀ m ∈ ms, IsMember m) :
    IsValue (writeObject ms) := by
  intro stack t _
  have e : writeObject ms ++ t = openBrace :: (separated ms ++ closeBrace :: t) := by
    simp [writeObject]
  rw [e, skimFrom_openBrace (skipSpace_cons _ (by decide))]
  cases ms with
  | nil => exact skimFrom_opened_closeBrace (skipSpace_cons _ (by decide))
  | cons m ms =>
    obtain ⟨key, v, rfl, hv⟩ := h m (by simp)
    have hc := closed_behind closed_closeBrace ms t
    have hk := skimKey_writeMember key v (ms.flatMap (comma :: ·) ++ closeBrace :: t)
    rw [separated_cons, List.append_assoc]
    rw [writeMember, writeString, List.cons_append, List.cons_append] at hk ⊢
    rw [skimFrom_opened_member (skipSpace_cons _ (by decide)) (by decide) hk, hv _ _ hc]
    exact skimFrom_members (fun w hw => h w (by simp [hw])) stack t

/-- Members that fill a draft, one field after the other: what they make of it. -/
inductive Fills (slots : List (Slot σ)) : σ → List Bytes → σ → Prop where
  | done (d : σ) : Fills slots d [] d
  | member {d d' d'' : σ} {key : String} {v : Bytes} {slot : Slot σ} {ms : List Bytes}
      (named : slots.find? (fun slot => slot.name == key) = some slot)
      (free : slot.filled d = false) (value : Written (slot.read d) v d')
      (rest : Fills slots d' ms d'') : Fills slots d (writeMember key v :: ms) d''

section Members

variable {slots : List (Slot σ)} {d d' : σ} {ms : List Bytes}

theorem Fills.optional {name : String} {get : σ → Option α} {put : σ → α → σ} {value : Reader α}
    {v : Bytes} {a : α}
    (named : slots.find? (fun slot => slot.name == name) = some (.optional name get put value))
    (free : (get d).isSome = false) (hv : Written value v a) (rest : Fills slots (put d a) ms d') :
    Fills slots d (writeMember name v :: ms) d' :=
  .member named free (hv.map (put d)) rest

theorem Fills.required {name : String} {get : σ → Option α} {put : σ → α → σ} {value : Reader α}
    {v : Bytes} {a : α}
    (named : slots.find? (fun slot => slot.name == name) = some (.required name get put value))
    (free : (get d).isSome = false) (hv : Written value v a) (rest : Fills slots (put d a) ms d') :
    Fills slots d (writeMember name v :: ms) d' :=
  .member named free (hv.map (put d)) rest

theorem Fills.isMember (h : Fills slots d ms d') : ∀ m ∈ ms, IsMember m := by
  induction h with
  | done => exact fun m hm => absurd hm List.not_mem_nil
  | member _ _ value _ ih =>
    intro m hm
    rcases List.mem_cons.1 hm with rfl | hm
    · exact ⟨_, _, rfl, value.one⟩
    · exact ih m hm

theorem readField_slot {key : String} {v t : Bytes} {slot : Slot σ}
    (named : slots.find? (fun slot => slot.name == key) = some slot)
    (free : slot.filled d = false) (value : Written (slot.read d) v d') (ht : Closed t) :
    readField slots key d (colon :: (v ++ t)) = .ok (d', t) := by
  have hc : skipSpace (colon :: (v ++ t)) = _ := skipSpace_cons _ (by decide)
  simp only [readField, named, free, Bool.false_eq_true, if_false, readColon, hc,
    beq_self_eq_true, if_true]
  exact value.reads t ht

theorem nextKey_first (key : String) (v t : Bytes) :
    nextKey true (writeMember key v ++ t) =
      .ok (some (escape key.toList ++ quote :: (colon :: (v ++ t)))) := by
  have e : writeMember key v ++ t =
      quote :: (escape key.toList ++ quote :: (colon :: (v ++ t))) := by
    simp [writeMember, writeString]
  have hs : skipSpace (quote :: (escape key.toList ++ quote :: (colon :: (v ++ t)))) = _ :=
    skipSpace_cons _ (by decide)
  rw [e]
  simp only [nextKey, hs, show (quote == closeBrace) = false from rfl, Bool.false_eq_true,
    if_false, beq_self_eq_true, if_true]

theorem nextKey_comma (key : String) (v t : Bytes) :
    nextKey false (comma :: (writeMember key v ++ t)) =
      .ok (some (escape key.toList ++ quote :: (colon :: (v ++ t)))) := by
  have e : writeMember key v ++ t =
      quote :: (escape key.toList ++ quote :: (colon :: (v ++ t))) := by
    simp [writeMember, writeString]
  have hs : skipSpace (quote :: (escape key.toList ++ quote :: (colon :: (v ++ t)))) = _ :=
    skipSpace_cons _ (by decide)
  have hc : skipSpace (comma :: quote :: (escape key.toList ++ quote :: (colon :: (v ++ t)))) = _ :=
    skipSpace_cons _ (by decide)
  rw [e]
  simp only [nextKey, hc, hs, show (comma == closeBrace) = false from rfl, Bool.false_eq_true,
    if_false, beq_self_eq_true, if_true]

theorem readMembers_end (t : Bytes) (first : Bool) (fuel : Nat) :
    readMembers (readField slots) (fuel + 1) first d (closeBrace :: t) = .ok (d, t) := by
  have hs : skipSpace (closeBrace :: t) = closeBrace :: t := skipSpace_cons _ (by decide)
  simp only [readMembers, nextKey, behindObject, hs, beq_self_eq_true, if_true]

theorem readMembers_rest (h : Fills slots d ms d') {fuel : Nat} (hfuel : ms.length < fuel)
    (t : Bytes) :
    readMembers (readField slots) fuel false d (ms.flatMap (comma :: ·) ++ closeBrace :: t) =
      .ok (d', t) := by
  induction h generalizing fuel with
  | done =>
    obtain ⟨fuel, rfl⟩ := Nat.exists_eq_add_one_of_ne_zero (Nat.ne_of_gt hfuel)
    exact readMembers_end t false fuel
  | @member d d' d'' key v slot ms named free value _ ih =>
    obtain ⟨fuel, rfl⟩ := Nat.exists_eq_add_one_of_ne_zero (Nat.ne_of_gt (Nat.zero_lt_of_lt hfuel))
    have hc := closed_behind closed_closeBrace ms t
    rw [List.flatMap_cons, List.append_assoc, List.cons_append]
    simp only [readMembers, nextKey_comma, readString_writeString,
      readField_slot named free value hc]
    exact ih (by simpa using hfuel)

theorem readMembers_first (h : Fills slots d ms d') {fuel : Nat} (hfuel : ms.length < fuel)
    (t : Bytes) :
    readMembers (readField slots) fuel true d (separated ms ++ closeBrace :: t) = .ok (d', t) := by
  obtain ⟨fuel, rfl⟩ := Nat.exists_eq_add_one_of_ne_zero (Nat.ne_of_gt (Nat.zero_lt_of_lt hfuel))
  cases h with
  | done => exact readMembers_end t true fuel
  | @member _ d'' _ key v slot ms named free value rest =>
    have hc := closed_behind closed_closeBrace ms t
    rw [separated_cons, List.append_assoc]
    simp only [readMembers, nextKey_first, readString_writeString,
      readField_slot named free value hc]
    exact readMembers_rest rest (by simpa using hfuel) t

theorem length_le_separated (ms : List Bytes) : ms.length ≤ (separated ms).length + 1 := by
  cases ms with
  | nil => exact Nat.zero_le _
  | cons m ms =>
    have := length_le_flatMap ms
    rw [separated_cons, List.length_append, List.length_cons]
    omega

/-- **A record that was written field by field is read back.** -/
theorem Shape.written {s : Shape σ β} {b : β} (h : Fills s.slots s.draft ms d)
    (hb : s.build d = .ok b) : Written s.read (writeObject ms) b := by
  refine ⟨.object h.isMember, skipSpace_cons _ (by decide), fun t _ => ?_⟩
  have e : writeObject ms ++ t = openBrace :: (separated ms ++ closeBrace :: t) := by
    simp [writeObject]
  have ho : skipSpace (openBrace :: (separated ms ++ closeBrace :: t)) = _ :=
    skipSpace_cons _ (by decide)
  have hfuel : ms.length < (separated ms ++ closeBrace :: t).length + 1 := by
    have := length_le_separated ms
    simp only [List.length_append, List.length_cons]
    omega
  rw [e]
  simp only [Shape.read, ho, show (openBrace == openBracket) = false from rfl, Bool.false_eq_true,
    if_false, beq_self_eq_true, if_true, readMembers_first h hfuel t, hb]

end Members

end CitationFusion.Json
