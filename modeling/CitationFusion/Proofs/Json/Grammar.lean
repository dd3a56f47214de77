import CitationFusion.Proofs.Patching

/-!
# The grammar of documents

What a document is, said without a reader: a value between white space. What is passed over as a
document is exactly that, however deep its lists and objects are nested.

* `Blank`, `Leads`, `Derives` : the grammar; `IsNumber` and `IsString` are those of numbers and of
  strings.
* `Derives.isValue` : what the grammar derives as a value is passed over as one.
* `Remains`, `remainsAt_of_skimFrom` : what is passed over is what the grammar derives, given the
  lists and objects that are open.
* `isDocument_iff_isText` : a text is a document exactly if the grammar says so.
-/

namespace CitationFusion.Json

open Ascii

/-! ## 1. The grammar -/

/-- White space: spaces, tabs, line feeds and carriage returns. -/
def Blank (ws : Bytes) : Prop :=
  ∀ b ∈ ws, b = space ∨ b = tab ∨ b = lineFeed ∨ b = carriageReturn

instance (ws : Bytes) : Decidable (Blank ws) := List.decidableBAll _ ws

/-- The octet that opens a list or an object. -/
def Frame.opening : Frame → UInt8
  | .list => openBracket
  | .object => openBrace

/-- The octet that ends it. -/
def Frame.ending : Frame → UInt8
  | .list => closeBracket
  | .object => closeBrace

/-- What stands before the value of an entry: nothing in a list, a key and a colon in an object. -/
inductive Leads : Frame → Bytes → Prop where
  | item : Leads .list []
  | key {ws v ws' : Bytes} (before : Blank ws) (string : IsString v) (behind : Blank ws') :
      Leads .object (ws ++ quote :: (v ++ (ws' ++ [colon])))

/-- The values that are words. -/
def words : List Bytes := ["null", "true", "false"].map Utf8.ofString

/-- What the grammar derives: a value, or the entries of a list or an object with commas between
    them. -/
inductive Symbol where
  | value
  | entries (frame : Frame)

/-- The texts that the grammar derives. -/
inductive Derives : Symbol → Bytes → Prop where
  | word {v : Bytes} (h : v ∈ words) : Derives .value v
  | number {v : Bytes} (h : IsNumber v) : Derives .value v
  | string {v : Bytes} (h : IsString v) : Derives .value (quote :: v)
  | empty (f : Frame) {ws : Bytes} (h : Blank ws) :
      Derives .value (f.opening :: (ws ++ [f.ending]))
  | filled (f : Frame) {v : Bytes} (h : Derives (.entries f) v) :
      Derives .value (f.opening :: (v ++ [f.ending]))
  | last {f : Frame} {k ws v ws' : Bytes} (leads : Leads f k) (before : Blank ws)
      (value : Derives .value v) (behind : Blank ws') :
      Derives (.entries f) (k ++ (ws ++ (v ++ ws')))
  | more {f : Frame} {k ws v ws' u : Bytes} (leads : Leads f k) (before : Blank ws)
      (value : Derives .value v) (behind : Blank ws') (rest : Derives (.entries f) u) :
      Derives (.entries f) (k ++ (ws ++ (v ++ (ws' ++ comma :: u))))

/-- A document: one value between white space. -/
def IsText (bs : Bytes) : Prop :=
  ∃ ws v ws', bs = ws ++ (v ++ ws') ∧ Blank ws ∧ Derives .value v ∧ Blank ws'

/-! ## 2. White space -/

section Scan

variable {ws bs t : Bytes} {b : UInt8}

theorem isSpace_iff :
    isSpace b = true ↔ b = space ∨ b = tab ∨ b = lineFeed ∨ b = carriageReturn := by
  simp only [isSpace, Bool.or_eq_true, beq_iff_eq]
  tauto

theorem blank_iff : Blank ws ↔ ∀ b ∈ ws, isSpace b = true :=
  forall₂_congr fun _ _ => isSpace_iff.symm

theorem Blank.nil : Blank [] := fun _ h => absurd h List.not_mem_nil

/-- White space makes no difference to what follows it. -/
theorem Blank.skipSpace (h : Blank ws) (t : Bytes) : Json.skipSpace (ws ++ t) = Json.skipSpace t :=
  List.dropWhile_append_of_pos (blank_iff.1 h)

theorem Blank.skipSpace_eq (h : Blank ws) (hb : isSpace b = false) (t : Bytes) :
    Json.skipSpace (ws ++ b :: t) = b :: t := by
  rw [h.skipSpace, skipSpace_cons t hb]

theorem Blank.closed (h : Blank ws) (hb : Closed (b :: t)) : Closed (ws ++ b :: t) :=
  closed_spaced t (blank_iff.1 h) hb

theorem blank_of_skipSpace (h : Json.skipSpace bs = []) : Blank bs :=
  blank_iff.2 fun b hb => List.dropWhile_eq_nil_iff.1 h b hb

/-- What stands before the first octet that is no white space is white space. -/
theorem blank_before (h : Json.skipSpace bs = b :: t) :
    ∃ ws, bs = ws ++ b :: t ∧ Blank ws := by
  obtain ⟨ws, hbs, hws, -⟩ := skipSpace_split h
  exact ⟨ws, hbs, blank_iff.2 hws⟩

end Scan

/-! ## 3. Words and scalars -/

section Scalars

variable {v : Bytes}

theorem isScalar_word (h : v ∈ words) : IsScalar v := by
  have split : words = [0x6E :: nullTail, 0x74 :: trueTail, 0x66 :: falseTail] := by decide
  rw [split] at h
  simp only [List.mem_cons, List.not_mem_nil, or_false] at h
  rcases h with rfl | rfl | rfl
  · exact ⟨_, _, rfl, by decide, by decide, by decide, fun t _ => skimLiteral_append nullTail t⟩
  · exact ⟨_, _, rfl, by decide, by decide, by decide, fun t _ => skimLiteral_append trueTail t⟩
  · exact ⟨_, _, rfl, by decide, by decide, by decide, fun t _ => skimLiteral_append falseTail t⟩

theorem isScalar_string (h : IsString v) : IsScalar (quote :: v) :=
  ⟨quote, v, rfl, by decide, by decide, by decide, fun t _ => h.skim t⟩

/-- **What is passed over as a value that is no list and no object is one.** -/
theorem derives_of_skimScalar {b : UInt8} {r rest : Bytes} (h : skimScalar b r = .ok rest) :
    ∃ v, b :: r = v ++ rest ∧ Derives .value v := by
  have word : ∀ {tail : Bytes}, b :: tail ∈ words → skimLiteral tail r = .ok rest →
      ∃ v, b :: r = v ++ rest ∧ Derives .value v := by
    intro tail hmem hskim
    exact ⟨b :: tail, by rw [skimLiteral_split hskim]; rfl, .word hmem⟩
  have number : b = minus ∨ isDigit b = true → ∃ v, b :: r = v ++ rest ∧ Derives .value v := by
    intro hb
    obtain ⟨v, hv, hnumber⟩ := isNumber_of_skim hb h
    exact ⟨v, hv, .number hnumber⟩
  unfold skimScalar at h
  split at h
  · rename_i hb
    exact word (by rw [beq_iff_eq.1 hb]; decide) h
  split at h
  · rename_i hb
    exact word (by rw [beq_iff_eq.1 hb]; decide) h
  split at h
  · rename_i hb
    exact word (by rw [beq_iff_eq.1 hb]; decide) h
  split at h
  · rename_i hb
    exact number (.inl (beq_iff_eq.1 hb))
  split at h
  · rename_i hb
    exact number (.inr hb)
  split at h
  · rename_i hb
    obtain ⟨v, rfl, hv⟩ := isString_of_skim h
    exact ⟨b :: v, rfl, by rw [beq_iff_eq.1 hb]; exact .string hv⟩
  · cases h

end Scalars

/-! ## 4. What the grammar derives is passed over -/

section Frames

variable {f : Frame} {stack : List Frame} {bs r k v : Bytes}

theorem Frame.ending_plain (f : Frame) : isSpace f.ending = false := by
  cases f <;> decide

theorem Frame.closed_ending (f : Frame) (t : Bytes) : Closed (f.ending :: t) := by
  cases f with
  | list => exact closed_closeBracket t
  | object => exact closed_closeBrace t

theorem skimFrom_opening (f : Frame) (r : Bytes) :
    skimFrom .value stack (f.opening :: r) = skimFrom (.opened f) stack r := by
  cases f with
  | list => exact skimFrom_openBracket (skipSpace_cons r (by decide))
  | object => exact skimFrom_openBrace (skipSpace_cons r (by decide))

theorem skimFrom_opened_ending (h : skipSpace bs = f.ending :: r) :
    skimFrom (.opened f) stack bs = skimFrom .behind stack r := by
  cases f with
  | list => exact skimFrom_opened_closeBracket h
  | object => exact skimFrom_opened_closeBrace h

theorem skimFrom_behind_ending (h : skipSpace bs = f.ending :: r) :
    skimFrom .behind (f :: stack) bs = skimFrom .behind stack r := by
  cases f with
  | list => exact skimFrom_behind_closeBracket h
  | object => exact skimFrom_behind_closeBrace h

theorem IsString.skimKey {ws ws' : Bytes} (h : IsString v) (before : Blank ws) (behind : Blank ws')
    (r : Bytes) : Json.skimKey (ws ++ quote :: (v ++ (ws' ++ [colon])) ++ r) = .ok r := by
  have e : ws ++ quote :: (v ++ (ws' ++ [colon])) ++ r =
      ws ++ quote :: (v ++ (ws' ++ colon :: r)) := by simp
  rw [e]
  exact skimKey_eq_ok.2
    ⟨_, _, before.skipSpace_eq (by decide) _, h.skim _, behind.skipSpace_eq (by decide) _⟩

/-- What leads an entry is passed over up to its value. The value is not taken for the end of its
    list. -/
theorem Leads.opened (h : Leads f k) (hv : ∃ b r', skipSpace r = b :: r' ∧ b ≠ closeBracket) :
    skimFrom (.opened f) stack (k ++ r) = skimFrom .value (f :: stack) r := by
  cases h with
  | item =>
    obtain ⟨b, r', hr, hb⟩ := hv
    rw [List.nil_append, skimFrom_opened_item hr hb]
    refine skimFrom_value_congr ?_
    rw [← hr]
    exact skipSpace_skipSpace r
  | @key ws v ws' before string behind =>
    have hs : skipSpace (ws ++ quote :: (v ++ (ws' ++ [colon])) ++ r) =
        quote :: (v ++ (ws' ++ [colon])) ++ r := by
      rw [List.append_assoc, before.skipSpace]
      exact skipSpace_cons _ (by decide)
    exact skimFrom_opened_member hs (by decide) (string.skimKey .nil behind r)

/-- White space before a key belongs to what leads its entry. -/
theorem Leads.spaced {ws : Bytes} (h : Leads .object k) (hws : Blank ws) :
    Leads .object (ws ++ k) := by
  cases h with
  | @key ws' v ws'' before string behind =>
    have both : Blank (ws ++ ws') :=
      fun b hb => (List.mem_append.1 hb).elim (hws b) (before b)
    rw [← List.append_assoc]
    exact .key both string behind

/-- So it is behind a comma. -/
theorem Leads.behind (h : Leads f k) (hs : skipSpace bs = comma :: (k ++ r)) :
    skimFrom .behind (f :: stack) bs = skimFrom .value (f :: stack) r := by
  cases h with
  | item => exact skimFrom_behind_item hs
  | key before string behind => exact skimFrom_behind_member hs (string.skimKey before behind r)

/-- Whether entries are passed over up to the end of their list or object, be they the first ones
    there or not. -/
def AreEntries (f : Frame) (v : Bytes) : Prop :=
  ∀ stack t, skimFrom (.opened f) stack (v ++ f.ending :: t) = skimFrom .behind stack t ∧
    ∀ bs, skipSpace bs = comma :: (v ++ f.ending :: t) →
      skimFrom .behind (f :: stack) bs = skimFrom .behind stack t

/-- **An entry is passed over if its value is**, and what follows it. -/
theorem Leads.areEntries {ws u : Bytes} (h : Leads f k) (before : Blank ws) (value : IsValue v)
    (closed : ∀ t, Closed (u ++ f.ending :: t))
    (rest : ∀ stack t,
      skimFrom .behind (f :: stack) (u ++ f.ending :: t) = skimFrom .behind stack t) :
    AreEntries f (k ++ (ws ++ (v ++ u))) := by
  intro stack t
  have e : k ++ (ws ++ (v ++ u)) ++ f.ending :: t = k ++ (ws ++ (v ++ (u ++ f.ending :: t))) := by
    simp
  have hvalue : skimFrom .value (f :: stack) (ws ++ (v ++ (u ++ f.ending :: t))) =
      skimFrom .behind stack t := by
    rw [skimFrom_value_congr (before.skipSpace _), value (f :: stack) _ (closed t), rest]
  rw [e]
  refine ⟨?_, fun bs hs => (h.behind hs).trans hvalue⟩
  obtain ⟨b, r', hb, hne⟩ := value.begins
  refine (h.opened ⟨b, r' ++ (u ++ f.ending :: t), ?_, hne⟩).trans hvalue
  rw [before.skipSpace]
  exact skipSpace_append hb _

end Frames

/-- **What the grammar derives is passed over**, by induction on how it is derived: a value as one
    value, and entries up to the end of what they are entries of. -/
theorem Derives.passes {s : Symbol} {v : Bytes} (h : Derives s v) :
    match s with
    | .value => IsValue v
    | .entries f => AreEntries f v := by
  induction h with
  | word h => exact (isScalar_word h).isValue
  | number h => exact (isScalar_number h).isValue
  | string h => exact (isScalar_string h).isValue
  | @empty f ws h =>
    intro stack t _
    rw [List.cons_append, List.append_assoc, skimFrom_opening]
    exact skimFrom_opened_ending (h.skipSpace_eq f.ending_plain t)
  | @filled f v _ ih =>
    intro stack t _
    rw [List.cons_append, List.append_assoc, skimFrom_opening]
    exact (ih stack t).1
  | @last f k ws v ws' leads before _ behind ih =>
    refine leads.areEntries before ih (fun t => behind.closed (f.closed_ending t)) ?_
    exact fun stack t => skimFrom_behind_ending (behind.skipSpace_eq f.ending_plain t)
  | @more f k ws v ws' u leads before _ behind _ ihv ih =>
    refine leads.areEntries before ihv (fun t => ?_) (fun stack t => ?_)
    · rw [List.append_assoc]
      exact behind.closed (closed_comma _)
    · refine (ih stack t).2 _ ?_
      rw [List.append_assoc]
      exact behind.skipSpace_eq (by decide) _

theorem Derives.isValue {v : Bytes} (h : Derives .value v) : IsValue v := h.passes

/-! ## 5. What is passed over is derived -/

/-- What may follow an entry: the end of its list or object, or more entries and that end. -/
inductive Follows (f : Frame) : Bytes → Prop where
  | close {ws : Bytes} (h : Blank ws) : Follows f (ws ++ [f.ending])
  | more {ws v : Bytes} (h : Blank ws) (rest : Derives (.entries f) v) :
      Follows f (ws ++ comma :: (v ++ [f.ending]))

/-- What may remain of a document behind a value, given the lists and objects that are open. -/
def Remains : List Frame → Bytes → Prop
  | [], u => u = []
  | f :: stack, u => ∃ tail r, u = tail ++ r ∧ Follows f tail ∧ Remains stack r

/-- What may remain of a document at a place. -/
def RemainsAt (stack : List Frame) (u : Bytes) : Place → Prop
  | .value => ∃ ws v r, u = ws ++ (v ++ r) ∧ Blank ws ∧ Derives .value v ∧ Remains stack r
  | .opened f => ∃ body r, u = body ++ f.ending :: r ∧ (Blank body ∨ Derives (.entries f) body) ∧
      Remains stack r
  | .behind => Remains stack u

section Soundness

variable {f : Frame} {stack : List Frame} {bs r rest u : Bytes} {b : UInt8}

/-- **A value and what follows it are entries**, behind what leads it. -/
theorem Follows.derives {k ws v tail : Bytes} (h : Follows f tail) (leads : Leads f k)
    (before : Blank ws) (value : Derives .value v) :
    ∃ body, k ++ (ws ++ (v ++ tail)) = body ++ [f.ending] ∧ Derives (.entries f) body := by
  cases h with
  | close behind => exact ⟨_, by simp, .last leads before value behind⟩
  | more behind rest => exact ⟨_, by simp, .more leads before value behind rest⟩

/-- A list or an object is a value. -/
theorem RemainsAt.value_of_opened {ws : Bytes} (before : Blank ws)
    (h : RemainsAt stack u (.opened f)) : RemainsAt stack (ws ++ f.opening :: u) .value := by
  obtain ⟨body, r, rfl, hbody, hr⟩ := h
  refine ⟨ws, f.opening :: (body ++ [f.ending]), r, by simp, before, ?_, hr⟩
  rcases hbody with hblank | hentries
  · exact .empty f hblank
  · exact .filled f hentries

/-- **A value in a list or an object, with what remains behind it, begins with entries of that.** -/
theorem RemainsAt.entries_of_value {k : Bytes} (leads : Leads f k)
    (h : RemainsAt (f :: stack) u .value) :
    ∃ body r, k ++ u = body ++ f.ending :: r ∧ Derives (.entries f) body ∧ Remains stack r := by
  obtain ⟨ws, v, r, rfl, before, value, tail, r', rfl, follows, hr⟩ := h
  obtain ⟨body, hbody, hentries⟩ := follows.derives leads before value
  refine ⟨body, r', ?_, hentries, hr⟩
  rw [List.append_cons, ← hbody]
  simp

/-- So it may remain where the list or object was opened. -/
theorem RemainsAt.opened_of_value {k : Bytes} (leads : Leads f k)
    (h : RemainsAt (f :: stack) u .value) : RemainsAt stack (k ++ u) (.opened f) := by
  obtain ⟨body, r, hbody, hentries, hr⟩ := h.entries_of_value leads
  exact ⟨body, r, hbody, .inr hentries, hr⟩

/-- And it may remain behind another value and a comma. -/
theorem RemainsAt.behind_of_value {ws k : Bytes} (behind : Blank ws) (leads : Leads f k)
    (h : RemainsAt (f :: stack) u .value) :
    RemainsAt (f :: stack) (ws ++ comma :: (k ++ u)) .behind := by
  obtain ⟨body, r, hbody, hentries, hr⟩ := h.entries_of_value leads
  exact ⟨ws ++ comma :: (body ++ [f.ending]), r, by simp [hbody], .more behind hentries, hr⟩

/-- What is passed over as a key is one. -/
theorem leads_of_skimKey (h : skimKey bs = .ok rest) : ∃ k, bs = k ++ rest ∧ Leads .object k := by
  obtain ⟨r, r', hs, hr, hs'⟩ := skimKey_eq_ok.1 h
  obtain ⟨ws, rfl, before⟩ := blank_before hs
  obtain ⟨v, rfl, string⟩ := isString_of_skim hr
  obtain ⟨ws', rfl, behind⟩ := blank_before hs'
  exact ⟨ws ++ quote :: (v ++ (ws' ++ [colon])), by simp, .key before string behind⟩

/-- **What is passed over is what may remain of a document there.** -/
theorem remainsAt_of_skimFrom {place : Place} (h : skimFrom place stack bs = .ok rest) :
    ∃ u, bs = u ++ rest ∧ RemainsAt stack u place := by
  -- a case for each way through the loop: what it takes, put before what remained behind it
  fun_induction skimFrom place stack bs with
  | case1 => cases h
  | case2 bs stack b r hs _ hb ih =>
    -- a list is opened, and what remained is the rest of it
    obtain ⟨u, rfl, hu⟩ := ih h
    obtain ⟨ws, rfl, before⟩ := blank_before hs
    obtain rfl := beq_iff_eq.1 hb
    exact ⟨ws ++ openBracket :: u, by simp, hu.value_of_opened before⟩
  | case3 bs stack b r hs _ _ hb ih =>
    obtain ⟨u, rfl, hu⟩ := ih h
    obtain ⟨ws, rfl, before⟩ := blank_before hs
    obtain rfl := beq_iff_eq.1 hb
    exact ⟨ws ++ openBrace :: u, by simp, hu.value_of_opened before⟩
  | case4 => cases h
  | case5 bs stack b r hs _ _ _ rest' hscalar _ ih =>
    -- any other value
    obtain ⟨u, rfl, hu⟩ := ih h
    obtain ⟨ws, rfl, before⟩ := blank_before hs
    obtain ⟨v, hv, value⟩ := derives_of_skimScalar hscalar
    exact ⟨ws ++ (v ++ u), by simp [hv], ws, v, u, rfl, before, value, hu⟩
  | case6 => cases h
  | case7 bs stack b r hs _ hb ih =>
    -- an empty list
    obtain ⟨u, rfl, hu⟩ := ih h
    obtain ⟨ws, rfl, before⟩ := blank_before hs
    obtain rfl := beq_iff_eq.1 hb
    exact ⟨ws ++ closeBracket :: u, by simp, ws, u, rfl, .inl before, hu⟩
  | case8 bs stack b r hs _ _ ih =>
    -- the first item of a list
    obtain ⟨u, hr, hu⟩ := ih h
    obtain ⟨ws, rfl, before⟩ := blank_before hs
    obtain ⟨ws', v, u', rfl, before', value, hu'⟩ := hu
    have hvalue : RemainsAt (.list :: stack) (ws ++ ws' ++ (v ++ u')) .value :=
      ⟨ws ++ ws', v, u', rfl, fun b hb => (List.mem_append.1 hb).elim (before b) (before' b),
        value, hu'⟩
    have hopened : RemainsAt stack ([] ++ (ws ++ ws' ++ (v ++ u'))) (.opened .list) :=
      hvalue.opened_of_value .item
    exact ⟨_, by simp [hr], hopened⟩
  | case9 => cases h
  | case10 bs stack b r hs _ hb ih =>
    obtain ⟨u, rfl, hu⟩ := ih h
    obtain ⟨ws, rfl, before⟩ := blank_before hs
    obtain rfl := beq_iff_eq.1 hb
    exact ⟨ws ++ closeBrace :: u, by simp, ws, u, rfl, .inl before, hu⟩
  | case11 => cases h
  | case12 bs stack b r hs _ _ rest' hkey _ ih =>
    -- the first key of an object
    obtain ⟨u, rfl, hu⟩ := ih h
    obtain ⟨ws, rfl, before⟩ := blank_before hs
    obtain ⟨k, hk, leads⟩ := leads_of_skimKey hkey
    have hopened : RemainsAt stack (ws ++ k ++ u) (.opened .object) :=
      hu.opened_of_value (leads.spaced before)
    exact ⟨ws ++ k ++ u, by simp [hk], hopened⟩
  | case13 bs =>
    cases h
    exact ⟨[], rfl, rfl⟩
  | case14 => cases h
  | case15 bs stack b r hs _ hb ih =>
    -- a list ends
    obtain ⟨u, rfl, hu⟩ := ih h
    obtain ⟨ws, rfl, behind⟩ := blank_before hs
    obtain rfl := beq_iff_eq.1 hb
    exact ⟨ws ++ [closeBracket] ++ u, by simp, ws ++ [closeBracket], u, rfl, .close behind, hu⟩
  | case16 bs stack b r hs _ _ hb ih =>
    -- a comma, and an item behind it
    obtain ⟨u, rfl, hu⟩ := ih h
    obtain ⟨ws, rfl, behind⟩ := blank_before hs
    obtain rfl := beq_iff_eq.1 hb
    exact ⟨ws ++ comma :: u, by simp, hu.behind_of_value behind .item⟩
  | case17 => cases h
  | case18 => cases h
  | case19 bs stack b r hs _ hb ih =>
    obtain ⟨u, rfl, hu⟩ := ih h
    obtain ⟨ws, rfl, behind⟩ := blank_before hs
    obtain rfl := beq_iff_eq.1 hb
    exact ⟨ws ++ [closeBrace] ++ u, by simp, ws ++ [closeBrace], u, rfl, .close behind, hu⟩
  | case20 => cases h
  | case21 bs stack b r hs _ _ hb rest' hkey _ ih =>
    -- a comma, and a key behind it
    obtain ⟨u, rfl, hu⟩ := ih h
    obtain ⟨ws, rfl, behind⟩ := blank_before hs
    obtain ⟨k, rfl, leads⟩ := leads_of_skimKey hkey
    obtain rfl := beq_iff_eq.1 hb
    exact ⟨ws ++ comma :: (k ++ u), by simp, hu.behind_of_value behind leads⟩
  | case22 => cases h

/-- What is passed over as one value is white space and a value. -/
theorem derives_of_skim (h : skim bs = .ok rest) :
    ∃ ws v, bs = ws ++ (v ++ rest) ∧ Blank ws ∧ Derives .value v := by
  obtain ⟨u, rfl, ws, v, r, rfl, before, value, rfl⟩ := remainsAt_of_skimFrom h
  exact ⟨ws, v, by simp, before, value⟩

end Soundness

/-! ## 6. Documents -/

section Documents

variable {bs v ws t : Bytes}

theorem Derives.skim_append (h : Derives .value v) (before : Blank ws) (ht : Closed t) :
    skim (ws ++ (v ++ t)) = .ok t := by
  rw [skim, skimFrom_value_congr (before.skipSpace _)]
  exact h.isValue.skim_append ht

theorem Blank.closed_self (h : Blank ws) : Closed ws := by
  cases ws with
  | nil => exact closed_nil
  | cons b ws => exact closed_of_isSpace (blank_iff.1 h b List.mem_cons_self) ws

/-- **A text is a document exactly if the grammar says so**: one value between white space. -/
theorem isDocument_iff_isText : isDocument bs = true ↔ IsText bs := by
  rw [Took.isDocument_iff]
  constructor
  · rintro ⟨rest, hskim, hrest⟩
    obtain ⟨ws, v, hbs, before, value⟩ := derives_of_skim hskim
    exact ⟨ws, v, rest, hbs, before, value, blank_of_skipSpace hrest⟩
  · rintro ⟨ws, v, ws', rfl, before, value, behind⟩
    refine ⟨ws', value.skim_append before behind.closed_self, ?_⟩
    rw [← List.append_nil ws', behind.skipSpace]
    rfl

end Documents

end CitationFusion.Json
