import CitationFusion.Postgres.Tables
import CitationFusion.Proofs.Trimming

/-!
# Scripts and their statements

A script is split at its semicolons, wherever they stand, so the statements of two scripts with a
semicolon between them are those of the one and then those of the other.

* `IsStatement` : a text that is one statement, and nothing else.
* `statements_append` : scripts one after the other.
* `statements_blank`, `statements_padded` : a piece has one statement, or none if it is blank.
* `Spells` : pieces that spell given statements, with white space around them and blank pieces
  between them; `Spells.statements_eq` and `spells_statements` : a script has exactly the statements
  that its pieces spell.
* `statements_canonical` : so splitting undoes joining, and loses nothing.
-/

namespace CitationFusion.Postgres

open Text

/-! ## 1. Pieces -/

theorem splitAt_eq_splitOnP {α : Type} (p : α → Bool) (l : List α) :
    Text.splitAt p l = l.splitOnP p := by
  induction l with
  | nil => rfl
  | cons a l ih =>
    rw [List.splitOnP_cons_eq_if_modifyHead, Text.splitAt, ih]
    split
    · rfl
    · cases hsplit : l.splitOnP p with
      | nil => exact absurd hsplit (List.splitOnP_ne_nil p l)
      | cons q qs => rfl

theorem pieces_eq (cs : List Char) : pieces cs = cs.splitOn ';' := splitAt_eq_splitOnP _ cs

theorem pieces_append (cs ds : List Char) : pieces (cs ++ ';' :: ds) = pieces cs ++ pieces ds := by
  simp only [pieces_eq]
  exact List.splitOn_append_cons_self cs ds

/-- **No piece has a semicolon.** -/
theorem not_mem_pieces {cs p : List Char} (h : p ∈ pieces cs) : ';' ∉ p := by
  rw [pieces_eq] at h
  induction cs generalizing p with
  | nil =>
    rw [List.splitOn_nil, List.mem_singleton] at h
    exact h ▸ List.not_mem_nil
  | cons c cs ih =>
    rw [List.splitOn_cons_eq_if_modifyHead] at h
    split at h
    · rcases List.mem_cons.1 h with rfl | h
      · exact List.not_mem_nil
      · exact ih h
    · rename_i hc
      cases hsplit : cs.splitOn ';' with
      | nil => exact absurd hsplit (List.splitOn_ne_nil _ cs)
      | cons q qs =>
        rw [hsplit, List.modifyHead_cons] at h
        rcases List.mem_cons.1 h with rfl | h
        · intro hmem
          rcases List.mem_cons.1 hmem with rfl | hmem
          · exact hc (beq_self_eq_true _)
          · exact ih (hsplit ▸ List.mem_cons_self) hmem
        · exact ih (hsplit ▸ List.mem_cons_of_mem q h)

theorem intercalate_pieces (script : String) :
    ";".intercalate ((pieces script.toList).map String.ofList) = script := by
  rw [← String.toList_inj, String.toList_intercalate, List.map_map, pieces_eq]
  have same : String.toList ∘ String.ofList = id := funext fun _ => String.toList_ofList
  rw [same, List.map_id]
  exact List.intercalate_splitOn ';'

/-! ## 2. Statements -/

/-- Whether a text is one statement: it is not empty, it has no semicolon, and it neither begins nor
    ends with white space. -/
structure IsStatement (s : String) : Prop where
  nonempty : s ≠ ""
  undivided : ';' ∉ s.toList
  begins : ¬ BeginsIn isBlank s.toList
  ends : ¬ EndsIn isBlank s.toList

instance (s : String) : Decidable (IsStatement s) :=
  decidable_of_iff
    (s ≠ "" ∧ ';' ∉ s.toList ∧ ¬ BeginsIn isBlank s.toList ∧ ¬ EndsIn isBlank s.toList)
    ⟨fun ⟨h1, h2, h3, h4⟩ => ⟨h1, h2, h3, h4⟩, fun ⟨h1, h2, h3, h4⟩ => ⟨h1, h2, h3, h4⟩⟩

theorem isBlankText_iff {s : String} : isBlankText s = true ↔ ∀ c ∈ s.toList, isBlank c = true :=
  List.all_eq_true

theorem not_mem_of_isBlankText {s : String} (h : isBlankText s = true) : ';' ∉ s.toList :=
  fun hmem => absurd (isBlankText_iff.1 h _ hmem) (by decide)

/-- **Each statement of a script is one.** -/
theorem isStatement_of_mem {script s : String} (h : s ∈ statements script) : IsStatement s := by
  obtain ⟨cs, hcs, rfl⟩ := List.mem_map.1 h
  obtain ⟨hmap, hne⟩ := List.mem_filter.1 hcs
  obtain ⟨p, hp, rfl⟩ := List.mem_map.1 hmap
  obtain ⟨before, behind, hsplit, -, -, hbegins, hends⟩ := trim_split p
  refine ⟨fun hempty => ?_, fun hmem => not_mem_pieces hp ?_, ?_, ?_⟩
  · rw [String.ofList_eq_empty_iff] at hempty
    rw [hempty] at hne
    cases hne
  · rw [String.toList_ofList] at hmem
    rw [hsplit]
    exact List.mem_append_right before (List.mem_append_left behind hmem)
  · rwa [String.toList_ofList]
  · rwa [String.toList_ofList]

/-- **The statements of two scripts, one after the other.** -/
theorem statements_append (a b : String) :
    statements (a ++ ";" ++ b) = statements a ++ statements b := by
  have hlist : (a ++ ";" ++ b).toList = a.toList ++ ';' :: b.toList := by
    rw [String.toList_append, String.toList_append, List.append_assoc]
    rfl
  simp only [statements, statementChars, hlist, pieces_append, List.map_append, List.filter_append]

/-- A text without a semicolon has at most one statement: what is left of it when it is trimmed. -/
theorem statements_undivided {s : String} (h : ';' ∉ s.toList) :
    statements s = ([trim s.toList].filter fun p => !p.isEmpty).map String.ofList := by
  rw [statements, statementChars, pieces_eq, List.splitOn_eq_singleton h]
  rfl

theorem statements_blank {s : String} (h : isBlankText s = true) : statements s = [] := by
  rw [statements_undivided (not_mem_of_isBlankText h), trim_eq_nil_iff.2 (isBlankText_iff.1 h)]
  rfl

/-- **White space around a statement does not belong to it.** -/
theorem statements_padded {before s behind : String} (hs : IsStatement s)
    (hbefore : isBlankText before = true) (hbehind : isBlankText behind = true) :
    statements (before ++ s ++ behind) = [s] := by
  have hlist : (before ++ s ++ behind).toList = before.toList ++ (s.toList ++ behind.toList) := by
    rw [String.toList_append, String.toList_append, List.append_assoc]
  have hundivided : ';' ∉ (before ++ s ++ behind).toList := by
    rw [hlist, List.mem_append, List.mem_append]
    rintro (h | h | h)
    · exact not_mem_of_isBlankText hbefore h
    · exact hs.undivided h
    · exact not_mem_of_isBlankText hbehind h
  have hne : s.toList ≠ [] := fun h => hs.nonempty (String.toList_eq_nil_iff.1 h)
  rw [statements_undivided hundivided, hlist,
    trim_padded (isBlankText_iff.1 hbefore) (isBlankText_iff.1 hbehind) hs.begins hs.ends,
    List.filter_cons_of_pos (by simpa using hne)]
  exact congrArg (· :: []) String.ofList_toList

/-! ## 3. Scripts that spell statements -/

/-- Whether the pieces of a script spell some statements: each piece is the next statement with
    white space around it, or blank. -/
inductive Spells : List String → List String → Prop where
  | done : Spells [] []
  | blank {p : String} {ps xs : List String} (hp : isBlankText p = true) (rest : Spells ps xs) :
      Spells (p :: ps) xs
  | statement {before x behind : String} {ps xs : List String}
      (hbefore : isBlankText before = true) (hbehind : isBlankText behind = true)
      (rest : Spells ps xs) : Spells ((before ++ x ++ behind) :: ps) (x :: xs)

/-- The statements of a joined script are those of its first piece and then those of the others. -/
theorem statements_intercalate_cons (p : String) (ps : List String) :
    statements (";".intercalate (p :: ps)) = statements p ++ statements (";".intercalate ps) := by
  cases ps with
  | nil =>
    have hnone : statements "" = [] := statements_blank rfl
    rw [String.intercalate_singleton, String.intercalate_nil, hnone, List.append_nil]
  | cons q qs => rw [String.intercalate_cons_cons, statements_append]

/-- **A script has the statements that its pieces spell.** -/
theorem Spells.statements_eq {ps xs : List String} (h : Spells ps xs)
    (hxs : ∀ x ∈ xs, IsStatement x) : statements (";".intercalate ps) = xs := by
  induction h with
  | done => exact statements_blank rfl
  | blank hp _ ih =>
    rw [statements_intercalate_cons, statements_blank hp, ih hxs]
    rfl
  | statement hbefore hbehind _ ih =>
    obtain ⟨hx, hrest⟩ := List.forall_mem_cons.1 hxs
    rw [statements_intercalate_cons, statements_padded hx hbefore hbehind, ih hrest]
    rfl

/-- Statements spell themselves. -/
theorem Spells.refl (xs : List String) : Spells xs xs := by
  induction xs with
  | nil => exact .done
  | cons x xs ih =>
    have hbare : Spells (("" ++ x ++ "") :: xs) (x :: xs) := .statement rfl rfl ih
    rwa [String.empty_append, String.append_empty] at hbare

/-- **The pieces of a script spell its statements**, so nothing else is in it but white space and
    semicolons. -/
theorem spells_statements (script : String) :
    Spells ((pieces script.toList).map String.ofList) (statements script) := by
  unfold statements statementChars
  induction pieces script.toList with
  | nil => exact .done
  | cons p ps ih =>
    obtain ⟨before, behind, hsplit, hbefore, hbehind, -, -⟩ := trim_split p
    rw [List.map_cons, List.map_cons]
    by_cases hnil : trim p = []
    · rw [List.filter_cons_of_neg (by simp [hnil])]
      refine .blank (isBlankText_iff.2 ?_) ih
      rw [String.toList_ofList]
      exact trim_eq_nil_iff.1 hnil
    · have hpiece : String.ofList p =
          String.ofList before ++ String.ofList (trim p) ++ String.ofList behind := by
        rw [← String.ofList_append, ← String.ofList_append, List.append_assoc, ← hsplit]
      rw [List.filter_cons_of_pos (by simpa using hnil), List.map_cons, hpiece]
      refine .statement (isBlankText_iff.2 ?_) (isBlankText_iff.2 ?_) ih
      · rwa [String.toList_ofList]
      · rwa [String.toList_ofList]

/-- **Splitting a script is a homomorphism with a canonical image.** The statements of two scripts
    with a semicolon between them are those of the one and then those of the other; each of them is
    one statement; whatever pieces spell some statements, these are the statements of the script
    that they are joined to, and there are such pieces for every script; and so the statements of a
    script, joined again, are the statements of that. -/
theorem statements_canonical :
    (∀ a b, statements (a ++ ";" ++ b) = statements a ++ statements b) ∧
    (∀ script, ∀ s ∈ statements script, IsStatement s) ∧
    (∀ ps xs, (∀ x ∈ xs, IsStatement x) → Spells ps xs → statements (";".intercalate ps) = xs) ∧
    (∀ script, ∃ ps, Spells ps (statements script) ∧ ";".intercalate ps = script) ∧
    ∀ script, statements (";".intercalate (statements script)) = statements script := by
  refine ⟨statements_append, fun script s => isStatement_of_mem, fun ps xs hxs h =>
    h.statements_eq hxs, fun script => ?_, fun script => ?_⟩
  · exact ⟨_, spells_statements script, intercalate_pieces script⟩
  · exact (Spells.refl _).statements_eq fun s => isStatement_of_mem

/-- Two statements with white space of several kinds around them, a blank piece between them, and
    empty pieces at both ends. -/
theorem statements_canonical_padded :
    let script := ";\u3000a b\n\u0085;\t;c\u2028;"
    statements script = ["a b", "c"] ∧
    statements (";".intercalate ["a b", "c"]) = ["a b", "c"] := by
  intro script
  have hxs : ∀ x ∈ ["a b", "c"], IsStatement x := by decide
  have hspells : Spells ["", "\u3000" ++ "a b" ++ "\n\u0085", "\t", "" ++ "c" ++ "\u2028", ""]
      ["a b", "c"] :=
    .blank rfl (.statement rfl rfl (.blank rfl (.statement rfl rfl (.blank rfl .done))))
  have hjoined : ";".intercalate
      ["", "\u3000" ++ "a b" ++ "\n\u0085", "\t", "" ++ "c" ++ "\u2028", ""] = script := by decide
  obtain ⟨-, -, hspelt, -, hagain⟩ := statements_canonical
  have hsplit : statements script = ["a b", "c"] := hjoined ▸ hspelt _ _ hxs hspells
  exact ⟨hsplit, hsplit ▸ hagain script⟩

-- a statement for the table, and one for its index
example : (statements identifierMap).length = 2 := by
  decide +kernel

end CitationFusion.Postgres
