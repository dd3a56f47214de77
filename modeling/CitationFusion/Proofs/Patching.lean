import CitationFusion.Proofs.Json.Token
import CitationFusion.Proofs.Took

/-!
# Documents stay documents when they are patched

What looks like the time of a response may stand anywhere in a document, even with its first quote
escaped inside a key. Behind it there is always a value of an object, and what is taken for a
number there is all of that value.

* `skimString_marker`, `skimKey_marker`, `skimFrom_marker` : up to the number, a document is passed
  over in the same way whatever stands behind.
* `number_at_marker` : what is taken for a number there is all of a value.
* `isDocument_patch` : so another number may stand there.
-/

namespace CitationFusion.Took

open Ascii Json

/-! ## 1. Strings and keys -/

/-- What stands in the marker behind the first key and its colon. -/
def inner : Bytes := openBrace :: (writeString "took" ++ [colon])

/-- What stands in the marker behind its first quote, up to the next one. -/
def word : Bytes := [0x65, 0x78, 0x74, 0x72, 0x61]

theorem marker_append (t : Bytes) :
    marker ++ t = quote :: (word ++ quote :: (colon :: (inner ++ t))) := by
  have e : marker = quote :: (word ++ quote :: (colon :: inner)) := by decide
  rw [e]
  simp

/-- Within a string, the word of the marker and the quote behind it end the string. -/
theorem skimString_word (t : Bytes) :
    skimString (word ++ quote :: (colon :: (inner ++ t))) = .ok (colon :: (inner ++ t)) := by
  have hplain : word.all isPlain = true := by decide
  rw [skimString_plain_append (List.all_eq_true.1 hplain), skimString_quote]

/-- A quote ends the digits of an escape too early. -/
theorem hexQuad_before_quote {p w r : Bytes} {n : Nat}
    (h : hexQuad (p ++ quote :: w) = .ok (n, r)) :
    ∃ p', r = p' ++ quote :: w ∧ ∀ w', hexQuad (p ++ quote :: w') = .ok (n, p' ++ quote :: w') := by
  have hq : hexValue? quote = none := by decide
  match p, h with
  | [], h => rcases w with _ | ⟨x, _ | ⟨y, _ | ⟨z, w⟩⟩⟩ <;> simp [hexQuad, hq] at h
  | [a], h => rcases w with _ | ⟨x, _ | ⟨y, w⟩⟩ <;> simp [hexQuad, hq] at h
  | [a, b], h => rcases w with _ | ⟨x, w⟩ <;> simp [hexQuad, hq] at h
  | [a, b, c], h => simp [hexQuad, hq] at h
  | a :: b :: c :: d :: p', h =>
    simp only [List.cons_append, hexQuad] at h ⊢
    split at h
    · cases h
      exact ⟨p', rfl, fun _ => rfl⟩
    · cases h

variable {p u rest : Bytes}

/-- **Where the marker may stand in a string**: behind it, or with its first quote escaped, so that
    the string ends with its word, or with the quote that ends the string. -/
theorem skimString_marker (h : skimString (p ++ (marker ++ u)) = .ok rest) :
    (∃ p', rest = p' ++ (marker ++ u) ∧
      ∀ t, skimString (p ++ (marker ++ t)) = .ok (p' ++ (marker ++ t))) ∨
    (∀ t, skimString (p ++ (marker ++ t)) = .ok (colon :: (inner ++ t))) ∨
    rest = word ++ quote :: (colon :: (inner ++ u)) := by
  simp only [marker_append] at h ⊢
  generalize hbs : p ++ quote :: (word ++ quote :: (colon :: (inner ++ u))) = bs at h
  fun_induction skimString bs generalizing p with
  | case1 => cases h
  | case2 b r hb =>
    cases h
    cases p with
    | nil => exact .inr (.inr (List.cons.inj hbs).2.symm)
    | cons a p =>
      obtain ⟨rfl, rfl⟩ := List.cons.inj hbs
      refine .inl ⟨p, rfl, fun t => ?_⟩
      rw [List.cons_append, beq_iff_eq.1 hb]
      exact skimString_quote _
  | case3 => cases h
  | case4 b hq hb e r he ih =>
    cases p with
    | nil => exact absurd (List.cons.inj hbs).1.symm (by simpa using hq)
    | cons a p =>
      obtain ⟨rfl, hr⟩ := List.cons.inj hbs
      obtain rfl := beq_iff_eq.1 hb
      cases p with
      | nil =>
        -- the first quote of the marker is escaped
        refine .inr (.inl fun t => ?_)
        rw [List.cons_append, List.nil_append, skimString_short _ (by decide), skimString_word]
      | cons c p =>
        obtain ⟨rfl, hr'⟩ := List.cons.inj hr
        have hstep : ∀ t, skimString (backslash :: c :: (p ++ t)) = skimString (p ++ t) :=
          fun t => skimString_short _ he
        simp only [List.cons_append, hstep]
        exact ih hr' h
  | case5 b hq hb e r _ he n r' hquad _ ih =>
    cases p with
    | nil => exact absurd (List.cons.inj hbs).1.symm (by simpa using hq)
    | cons a p =>
      obtain ⟨rfl, hr⟩ := List.cons.inj hbs
      obtain rfl := beq_iff_eq.1 hb
      obtain rfl := beq_iff_eq.1 he
      cases p with
      | nil => exact absurd (List.cons.inj hr).1 (by decide)
      | cons c p =>
        obtain ⟨rfl, rfl⟩ := List.cons.inj hr
        obtain ⟨p', rfl, hp'⟩ := hexQuad_before_quote hquad
        have hstep : ∀ t, skimString (backslash :: 0x75 :: (p ++ quote :: t)) =
            skimString (p' ++ quote :: t) := fun t => skimString_unicode (hp' t)
        simp only [List.cons_append, hstep]
        exact ih rfl h
  | case6 => cases h
  | case7 => cases h
  | case8 => cases h
  | case9 b r hq hb hc ih =>
    cases p with
    | nil => exact absurd (List.cons.inj hbs).1.symm (by simpa using hq)
    | cons a p =>
      obtain ⟨rfl, hr⟩ := List.cons.inj hbs
      have hstep : ∀ t, skimString (a :: (p ++ t)) = skimString (p ++ t) :=
        fun t => skimString_plain _ (by simp_all [isPlain])
      simp only [List.cons_append, hstep]
      exact ih hr h

/-- The white space before a text without any is passed over. -/
theorem skipSpace_append_bare {w : Bytes} (p : Bytes) (hw : skipSpace w = w) :
    skipSpace (p ++ w) = skipSpace p ++ w := by
  unfold skipSpace at hw ⊢
  rw [List.dropWhile_append, hw]
  split
  · rename_i h
    rw [List.isEmpty_iff.1 h, List.nil_append]
  · rfl

theorem skipSpace_marker (p t : Bytes) :
    skipSpace (p ++ (marker ++ t)) = skipSpace p ++ (marker ++ t) :=
  skipSpace_append_bare p (by rw [marker_append]; exact skipSpace_cons _ (by decide))

/-- An octet before the marker that is no quote is passed over before the marker is. -/
theorem skipSpace_before {b : UInt8} {r : Bytes} (h : skipSpace (p ++ (marker ++ u)) = b :: r)
    (hb : b ≠ quote) :
    ∃ p', r = p' ++ (marker ++ u) ∧
      ∀ t, skipSpace (p ++ (marker ++ t)) = b :: (p' ++ (marker ++ t)) := by
  simp only [skipSpace_marker] at h ⊢
  cases hp : skipSpace p with
  | nil =>
    rw [hp, List.nil_append, marker_append] at h
    exact absurd (List.cons.inj h).1.symm hb
  | cons c p' =>
    rw [hp, List.cons_append] at h
    obtain ⟨rfl, rfl⟩ := List.cons.inj h
    exact ⟨p', rfl, fun t => rfl⟩

/-- The octet behind the white space does not depend on what stands behind the marker. -/
theorem skipSpace_marker_head {b : UInt8} {r : Bytes}
    (h : skipSpace (p ++ (marker ++ u)) = b :: r) (t : Bytes) :
    ∃ r', skipSpace (p ++ (marker ++ t)) = b :: r' := by
  by_cases hb : b = quote
  · rw [skipSpace_marker] at h ⊢
    cases hp : skipSpace p with
    | nil => exact ⟨_, by rw [hb, List.nil_append, marker_append]⟩
    | cons c p' =>
      rw [hp, List.cons_append] at h
      exact ⟨_, by rw [← (List.cons.inj h).1, List.cons_append]⟩
  · obtain ⟨p', -, hp'⟩ := skipSpace_before h hb
    exact ⟨_, hp' t⟩

/-- **Where the marker may stand in a key**: behind it, or so that the key ends with its word. -/
theorem skimKey_marker (h : skimKey (p ++ (marker ++ u)) = .ok rest) :
    (∃ p', rest = p' ++ (marker ++ u) ∧
      ∀ t, skimKey (p ++ (marker ++ t)) = .ok (p' ++ (marker ++ t))) ∨
    ∀ t, skimKey (p ++ (marker ++ t)) = .ok (inner ++ t) := by
  have colon_first : ∀ t, skipSpace (colon :: t) = colon :: t :=
    fun t => skipSpace_cons t (by decide)
  obtain ⟨r, r', hs, hr, hs'⟩ := skimKey_eq_ok.1 h
  rw [skipSpace_marker] at hs
  cases hp : skipSpace p with
  | nil =>
    refine .inr fun t => skimKey_eq_ok.2 ⟨_, _, ?_, skimString_word t, colon_first _⟩
    rw [skipSpace_marker, hp, List.nil_append, marker_append]
  | cons b p' =>
    rw [hp, List.cons_append] at hs
    obtain ⟨rfl, rfl⟩ := List.cons.inj hs
    have begins : ∀ t, skipSpace (p ++ (marker ++ t)) = quote :: (p' ++ (marker ++ t)) := by
      intro t
      rw [skipSpace_marker, hp, List.cons_append]
    rcases skimString_marker hr with ⟨p'', rfl, hext⟩ | hext | rfl
    · obtain ⟨q, rfl, hq⟩ := skipSpace_before hs' (by decide)
      exact .inl ⟨q, rfl, fun t => skimKey_eq_ok.2 ⟨_, _, begins t, hext t, hq t⟩⟩
    · exact .inr fun t => skimKey_eq_ok.2 ⟨_, _, begins t, hext t, colon_first _⟩
    · exact absurd (List.cons.inj hs').1 (by decide)

/-! ## 2. Values -/

/-- Whether a number ends before some text does not depend on what stands behind the marker. -/
theorem closed_marker (h : Closed (p ++ (marker ++ u))) (t : Bytes) :
    Closed (p ++ (marker ++ t)) := by
  cases p with
  | nil =>
    rw [List.nil_append, marker_append] at h ⊢
    exact closed_cons.2 (closed_cons.1 h)
  | cons b p => exact closed_cons.2 (closed_cons.1 h)

/-- Where the marker may stand in a value that is no list and no object. -/
theorem skimScalar_marker {b : UInt8} (h : skimScalar b (p ++ (marker ++ u)) = .ok rest)
    (hrest : Closed rest) :
    (∃ p', rest = p' ++ (marker ++ u) ∧
      ∀ t, skimScalar b (p ++ (marker ++ t)) = .ok (p' ++ (marker ++ t))) ∨
    rest = colon :: (inner ++ u) ∨ rest = word ++ quote :: (colon :: (inner ++ u)) := by
  by_cases hb : b = quote
  · subst hb
    have hstring : ∀ r, skimScalar quote r = skimString r := fun _ => rfl
    simp only [hstring] at h ⊢
    rcases skimString_marker h with ⟨p', hp', hext⟩ | hext | hend
    · exact .inl ⟨p', hp', hext⟩
    · exact .inr (.inl (Except.ok.inj (h.symm.trans (hext u))))
    · exact .inr (.inr hend)
  · obtain ⟨v, hv, hext⟩ := skimScalar_split h
    have hq := unquoted_of_skim hb h hv
    -- the marker begins with a quote, so not within a value that has none
    rcases List.append_eq_append_iff.1 hv with ⟨a, rfl, ha⟩ | ⟨p', rfl, rfl⟩
    · cases a with
      | nil =>
        rw [List.nil_append] at ha
        subst ha
        refine .inl ⟨[], rfl, fun t => ?_⟩
        rw [List.append_nil] at hext
        exact hext _ (closed_marker (p := []) hrest t)
      | cons c a =>
        rw [marker_append] at ha
        obtain ⟨rfl, -⟩ := List.cons.inj ha
        exact absurd (List.mem_append_right _ (by simp)) hq
    · refine .inl ⟨p', rfl, fun t => ?_⟩
      rw [List.append_assoc]
      exact hext _ (closed_marker hrest t)

/-- Behind the first key of the marker stands an object, and behind its key a value of it. -/
theorem skimFrom_inner (stack : List Frame) (t : Bytes) :
    skimFrom .value stack (inner ++ t) = skimFrom .value (.object :: stack) t := by
  have hkey : skimKey (writeString "took" ++ colon :: t) = .ok t := by
    have := skimKey_writeMember "took" t []
    rwa [List.append_nil, List.append_nil] at this
  have e : inner ++ t = openBrace :: (writeString "took" ++ colon :: t) := by simp [inner]
  have hquote : writeString "took" ++ colon :: t =
      quote :: (escape "took".toList ++ quote :: (colon :: t)) := by simp [writeString]
  rw [e, skimFrom_openBrace (skipSpace_cons _ (by decide))]
  rw [hquote] at hkey ⊢
  exact skimFrom_opened_member (skipSpace_cons _ (by decide)) (by decide) hkey

/-- What stands behind a value within a document. -/
theorem behind_head {stack : List Frame} {b : UInt8} {r : Bytes}
    (h : skimFrom .behind stack (b :: r) = .ok rest) (hrest : skipSpace rest = []) :
    isSpace b = true ∨ b = comma ∨ b = closeBracket ∨ b = closeBrace := by
  by_cases hb : isSpace b = true
  · exact .inl hb
  refine .inr ?_
  have hs : skipSpace (b :: r) = b :: r := skipSpace_cons r (by simpa using hb)
  -- behind a value the loop goes on at a comma, or at the end of what is open
  rw [skimFrom.eq_def] at h
  cases stack with
  | nil =>
    cases h
    rw [hs] at hrest
    cases hrest
  | cons frame stack =>
    cases frame <;> simp only at h <;> split at h
    · rename_i h'
      cases hs.symm.trans h'
    · rename_i h'
      obtain ⟨rfl, rfl⟩ := List.cons.inj (hs.symm.trans h')
      by_cases h1 : b = closeBracket
      · exact .inr (.inl h1)
      by_cases h2 : b = comma
      · exact .inl h2
      simp [h1, h2] at h
    · rename_i h'
      cases hs.symm.trans h'
    · rename_i h'
      obtain ⟨rfl, rfl⟩ := List.cons.inj (hs.symm.trans h')
      by_cases h1 : b = closeBrace
      · exact .inr (.inr h1)
      by_cases h2 : b = comma
      · exact .inl h2
      simp [h1, h2] at h

/-- So a number ends there. -/
theorem closed_of_behind {stack : List Frame} {bs : Bytes}
    (h : skimFrom .behind stack bs = .ok rest) (hrest : skipSpace rest = []) : Closed bs := by
  cases bs with
  | nil => exact closed_nil
  | cons b r =>
    rcases behind_head h hrest with hb | rfl | rfl | rfl
    · exact closed_of_isSpace hb r
    · exact closed_comma r
    · exact closed_closeBracket r
    · exact closed_closeBrace r

/-- Whether what stands before the marker is passed over in the same way whatever stands behind it,
    up to a value of an object there. -/
def Uniform (place : Place) (stack : List Frame) (p : Bytes) : Prop :=
  ∃ stack', ∀ t, skimFrom place stack (p ++ (marker ++ t)) = skimFrom .value (.object :: stack') t

namespace Uniform

variable {place place' : Place} {stack stack' : List Frame} {b : UInt8} {r : Bytes}

/-- One octet that is no quote is passed over, with the white space before it. -/
theorem octet (hs : skipSpace (p ++ (marker ++ u)) = b :: r) (hb : b ≠ quote)
    (next : ∀ {p'}, p' ++ (marker ++ u) = r → Uniform place' stack' p')
    (step : ∀ {bs t : Bytes}, skipSpace bs = b :: t →
      skimFrom place stack bs = skimFrom place' stack' t) : Uniform place stack p := by
  obtain ⟨p', rfl, hp'⟩ := skipSpace_before hs hb
  obtain ⟨stack'', hext⟩ := next rfl
  exact ⟨stack'', fun t => (step (hp' t)).trans (hext t)⟩

/-- A key is passed over, or it is the one that the marker ends with. -/
theorem key {q : Bytes} (hkey : skimKey (q ++ (marker ++ u)) = .ok r)
    (next : ∀ {p'}, p' ++ (marker ++ u) = r → Uniform .value (.object :: stack') p')
    (step : ∀ {t rest : Bytes}, skimKey (q ++ (marker ++ t)) = .ok rest →
      skimFrom place stack (p ++ (marker ++ t)) = skimFrom .value (.object :: stack') rest) :
    Uniform place stack p := by
  rcases skimKey_marker hkey with ⟨p', rfl, hext⟩ | hext
  · obtain ⟨stack'', hstack⟩ := next rfl
    exact ⟨stack'', fun t => (step (hext t)).trans (hstack t)⟩
  · exact ⟨_, fun t => (step (hext t)).trans (skimFrom_inner _ t)⟩

end Uniform

/-- **Up to the number behind the marker, a document is passed over in the same way whatever stands
    there**, and what stands there is a value of an object. -/
theorem skimFrom_marker {place : Place} {stack : List Frame}
    (h : skimFrom place stack (p ++ (marker ++ u)) = .ok rest) (hrest : skipSpace rest = []) :
    Uniform place stack p := by
  generalize hbs : p ++ (marker ++ u) = bs at h
  fun_induction skimFrom place stack bs generalizing p with
  | case1 => cases h
  | case2 bs stack b r hs _ hb ih =>
    obtain rfl := beq_iff_eq.1 hb
    exact .octet (hbs ▸ hs) (by decide) (fun hr => ih hr h) skimFrom_openBracket
  | case3 bs stack b r hs _ _ hb ih =>
    obtain rfl := beq_iff_eq.1 hb
    exact .octet (hbs ▸ hs) (by decide) (fun hr => ih hr h) skimFrom_openBrace
  | case4 => cases h
  | case5 bs stack b r hs _ hl ho rest' hscalar _ ih =>
    subst hbs
    have hclosed := closed_of_behind h hrest
    rw [skipSpace_marker] at hs
    cases hp : skipSpace p with
    | nil =>
      -- the marker would begin a string that is no key
      rw [hp, List.nil_append, marker_append] at hs
      obtain ⟨rfl, rfl⟩ := List.cons.inj hs
      obtain rfl := Except.ok.inj (hscalar.symm.trans (skimString_word u))
      exact absurd (behind_head h hrest) (by decide)
    | cons c p' =>
      rw [hp, List.cons_append] at hs
      obtain ⟨rfl, rfl⟩ := List.cons.inj hs
      rcases skimScalar_marker hscalar hclosed with ⟨p'', rfl, hext⟩ | rfl | rfl
      · obtain ⟨stack', hstack⟩ := ih rfl h
        refine ⟨stack', fun t => ?_⟩
        have hs : skipSpace (p ++ (marker ++ t)) = c :: (p' ++ (marker ++ t)) := by
          rw [skipSpace_marker, hp, List.cons_append]
        rw [skimFrom_scalar hs (by simpa using hl) (by simpa using ho) (hext t)]
        exact hstack t
      · exact absurd (behind_head h hrest) (by decide)
      · exact absurd (behind_head h hrest) (by decide)
  | case6 => cases h
  | case7 bs stack b r hs _ hb ih =>
    obtain rfl := beq_iff_eq.1 hb
    exact .octet (hbs ▸ hs) (by decide) (fun hr => ih hr h) skimFrom_opened_closeBracket
  | case8 bs stack b r hs _ hb ih =>
    subst hbs
    obtain ⟨stack', hext⟩ := ih ((skipSpace_marker p u).symm.trans hs) h
    refine ⟨stack', fun t => ?_⟩
    obtain ⟨r', hr'⟩ := skipSpace_marker_head hs t
    rw [skimFrom_opened_item hr' (by simpa using hb), ← hr', skipSpace_marker]
    exact hext t
  | case9 => cases h
  | case10 bs stack b r hs _ hb ih =>
    obtain rfl := beq_iff_eq.1 hb
    exact .octet (hbs ▸ hs) (by decide) (fun hr => ih hr h) skimFrom_opened_closeBrace
  | case11 => cases h
  | case12 bs stack b r hs _ hb rest' hkey _ ih =>
    subst hbs
    rw [← hs, skipSpace_marker] at hkey
    refine .key hkey (fun hr => ih hr h) fun {t _} hkey => ?_
    obtain ⟨r', hr'⟩ := skipSpace_marker_head hs t
    rw [← skipSpace_marker, hr'] at hkey
    exact skimFrom_opened_member hr' (by simpa using hb) hkey
  | case13 =>
    subst hbs
    cases h
    rw [skipSpace_marker, marker_append] at hrest
    exact absurd hrest (by simp)
  | case14 => cases h
  | case15 bs stack b r hs _ hb ih =>
    obtain rfl := beq_iff_eq.1 hb
    exact .octet (hbs ▸ hs) (by decide) (fun hr => ih hr h) skimFrom_behind_closeBracket
  | case16 bs stack b r hs _ _ hb ih =>
    obtain rfl := beq_iff_eq.1 hb
    exact .octet (hbs ▸ hs) (by decide) (fun hr => ih hr h) skimFrom_behind_item
  | case17 => cases h
  | case18 => cases h
  | case19 bs stack b r hs _ hb ih =>
    obtain rfl := beq_iff_eq.1 hb
    exact .octet (hbs ▸ hs) (by decide) (fun hr => ih hr h) skimFrom_behind_closeBrace
  | case20 => cases h
  | case21 bs stack b r hs _ _ hb rest' hkey _ ih =>
    subst hbs
    obtain rfl := beq_iff_eq.1 hb
    obtain ⟨p', rfl, hp'⟩ := skipSpace_before hs (by decide)
    exact .key hkey (fun hr => ih hr h) (skimFrom_behind_member (hp' _))
  | case22 => cases h

/-! ## 3. Documents -/

theorem finish_isOk {rest : Bytes} : (finish rest).isOk = true ↔ skipSpace rest = [] := by
  unfold finish
  cases hs : skipSpace rest with
  | nil => simp [Except.isOk, Except.toBool]
  | cons b r => simp [Except.isOk, Except.toBool]

/-- A document is one value with white space around it. -/
theorem isDocument_iff {bs : Bytes} :
    isDocument bs = true ↔ ∃ rest, skim bs = .ok rest ∧ skipSpace rest = [] := by
  unfold isDocument checkDocument
  constructor
  · intro h
    cases hskim : skim bs with
    | error stop =>
      rw [hskim] at h
      cases h
    | ok rest =>
      rw [hskim] at h
      exact ⟨rest, rfl, finish_isOk.1 h⟩
  · rintro ⟨rest, hskim, hs⟩
    rw [hskim]
    exact finish_isOk.2 hs

/-- **What is taken for a number behind the marker of a document is all of a value** of an object
    there. -/
theorem number_at_marker {p u : Bytes} {n : Nat} (h : isDocument (p ++ (marker ++ u)) = true)
    (hn : numberLength? u = some n) :
    ∃ stack rest, (∀ t, skimFrom .value [] (p ++ (marker ++ t)) =
        skimFrom .value (.object :: stack) t) ∧
      IsNumber (u.take n) ∧ skimFrom .behind (.object :: stack) (u.drop n) = .ok rest ∧
      skipSpace rest = [] := by
  obtain ⟨rest, hskim, hrest⟩ := isDocument_iff.1 h
  obtain ⟨stack, hext⟩ := skimFrom_marker hskim hrest
  obtain ⟨b, r, rfl, hb⟩ := numberLength?_head hn
  have hvalue : skimFrom .value (.object :: stack) (b :: r) = .ok rest := (hext _).symm.trans hskim
  have hplain : isSpace b = false ∧ b ≠ openBracket ∧ b ≠ openBrace := by
    rcases hb with rfl | hd
    · decide
    · exact isDigit_plain hd
  obtain ⟨hspace, hl, ho⟩ := hplain
  rw [skimFrom_value_cons (skipSpace_cons r hspace), if_neg (by simpa using hl),
    if_neg (by simpa using ho)] at hvalue
  cases hscalar : skimScalar b r with
  | error stop =>
    rw [hscalar] at hvalue
    cases hvalue
  | ok behind =>
    rw [hscalar] at hvalue
    obtain ⟨v, hv, hnumber⟩ := isNumber_of_skim hb hscalar
    -- the number ends before what follows the value, so it is what is taken
    have hlength := (numeric_of_isNumber hnumber).taken (closed_of_behind hvalue hrest)
    rw [← hv] at hlength
    obtain rfl := Option.some.inj (hlength.symm.trans hn)
    rw [hv, List.take_left, List.drop_left]
    exact ⟨stack, rest, hext, hnumber, hvalue, hrest⟩

/-- So any other value may stand there. -/
theorem isDocument_marker {p u v : Bytes} {n : Nat} (h : isDocument (p ++ (marker ++ u)) = true)
    (hn : numberLength? u = some n) (hv : IsValue v) :
    isDocument (p ++ (marker ++ (v ++ u.drop n))) = true := by
  obtain ⟨stack, rest, hext, -, hbehind, hrest⟩ := number_at_marker h hn
  refine isDocument_iff.2 ⟨rest, ?_, hrest⟩
  show skimFrom .value [] _ = _
  rw [hext, hv _ _ (closed_of_behind hbehind hrest)]
  exact hbehind

/-- **A document stays one when it is patched.** -/
theorem isDocument_patch {body : Bytes} {d : Duration} (h : isDocument body = true)
    (hd : d.secs < word64) : isDocument (patch body d) = true := by
  cases hp : patch? body d with
  | none =>
    rw [patch, hp]
    exact h
  | some patched =>
    obtain ⟨p, u, n, rfl, hn, -, rfl⟩ := patch?_split hp
    obtain ⟨m, -, -, -, hprint⟩ := Response.print_numeral hd
    rw [patch, hp, Option.getD_some, hprint]
    exact isDocument_marker h hn m.isValue

end CitationFusion.Took
