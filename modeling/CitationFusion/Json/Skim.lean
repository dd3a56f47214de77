import CitationFusion.Json.Fault

/-!
# Passing over a JSON value

`skim` reads one value without keeping anything of it. Nesting has no limit and numbers have no
range; an escape `\u` takes any four hexadecimal digits; octets from 0x80 on are accepted inside
strings whatever they write.

* `skim` keeps the open lists and objects on a stack of its own, so it is one loop over the text
  and every step of it takes octets away (`skimString_shrinks`, `skimScalar_shrinks`).
* `isDocument` holds of one value between white space.
-/

namespace CitationFusion.Json

open Ascii

/-! ## 1. White space and strings -/

/-- Whether an octet is white space in JSON. -/
def isSpace (b : UInt8) : Bool :=
  b == space || b == lineFeed || b == tab || b == carriageReturn

/-- A text without the white space before it. -/
def skipSpace (bs : Bytes) : Bytes := bs.dropWhile isSpace

/-- Passes over four hexadecimal digits; the value that they write. -/
def hexQuad (bs : Bytes) : Except Stop (Nat × Bytes) :=
  match bs with
  | a :: b :: c :: d :: rest =>
    match hexValue? a, hexValue? b, hexValue? c, hexValue? d with
    | some a, some b, some c, some d => .ok (((a * 16 + b) * 16 + c) * 16 + d, rest)
    | _, _, _, _ => .error (.after .badEscape rest)
  | _ => .error (.after .endInString [])

/-- Whether an octet after a backslash is an escape of its own. -/
def isShortEscape (b : UInt8) : Bool :=
  b == quote || b == backslash || b == 0x2F || b == 0x62 || b == 0x66 || b == 0x6E ||
    b == 0x72 || b == 0x74

theorem hexQuad_shrinks {bs rest : Bytes} {n : Nat} (h : hexQuad bs = .ok (n, rest)) :
    rest.length < bs.length := by
  unfold hexQuad at h
  split at h
  · split at h
    · cases h
      simp only [List.length_cons]
      omega
    · cases h
  · cases h

/-- Passes over a string behind its opening quote. -/
def skimString (bs : Bytes) : Except Stop Bytes :=
  match bs with
  | [] => .error (.after .endInString [])
  | b :: r =>
    if b == quote then .ok r
    else if b == backslash then
      match r with
      | [] => .error (.after .endInString [])
      | e :: r =>
        if isShortEscape e then skimString r
        else if e == 0x75 then
          match h : hexQuad r with
          | .ok (_, r') =>
            have := hexQuad_shrinks h
            skimString r'
          | .error stop => .error stop
        else .error (.after .badEscape r)
    else if b < 0x20 then .error (.after .controlCharacter (b :: r))
    else skimString r
  termination_by bs.length

theorem skimString_shrinks {bs rest : Bytes} (h : skimString bs = .ok rest) :
    rest.length < bs.length := by
  fun_induction skimString bs with
  | case1 => cases h
  | case2 => cases h; simp
  | case3 => cases h
  | case4 _ _ _ _ _ _ ih =>
    have := ih h
    simp only [List.length_cons]
    omega
  | case5 _ _ _ _ _ _ _ _ _ hq hlt ih =>
    have := ih h
    simp only [List.length_cons]
    omega
  | case6 => cases h
  | case7 => cases h
  | case8 => cases h
  | case9 _ _ _ _ _ ih =>
    have := ih h
    simp only [List.length_cons]
    omega

/-! ## 2. Numbers and literals -/

/-- A text without the digits before it. -/
def skipDigits (bs : Bytes) : Bytes := bs.dropWhile isDigit

/-- A text without the sign of an exponent before it. -/
def skipSign (bs : Bytes) : Bytes :=
  match bs with
  | [] => []
  | s :: t => if s == plus || s == minus then t else s :: t

/-- Passes over an optional exponent part. -/
def skimExponent (bs : Bytes) : Except Stop Bytes :=
  match bs with
  | [] => .ok []
  | e :: r =>
    if e == 0x65 || e == 0x45 then
      match skipSign r with
      | [] => .error (.after .badNumber [])
      | d :: r => if isDigit d then .ok (skipDigits r) else .error (.after .badNumber r)
    else .ok (e :: r)

/-- Passes over an optional fraction and an optional exponent part. -/
def skimFraction (bs : Bytes) : Except Stop Bytes :=
  match bs with
  | [] => .ok []
  | p :: r =>
    if p == point then
      match r with
      | [] => .error (.onNext .badNumber [])
      | d :: t =>
        if isDigit d then skimExponent (skipDigits t) else .error (.onNext .badNumber (d :: t))
    else skimExponent (p :: r)

/-- Passes over a number behind its sign. -/
def skimNumber (bs : Bytes) : Except Stop Bytes :=
  match bs with
  | [] => .error (.after .badNumber [])
  | d :: r =>
    if d == zero then
      match r with
      | [] => .ok []
      | c :: t => if isDigit c then .error (.onNext .badNumber (c :: t)) else skimFraction (c :: t)
    else if isDigit d then skimFraction (skipDigits r)
    else .error (.after .badNumber r)

/-- Passes over the rest of a literal. -/
def skimLiteral (word bs : Bytes) : Except Stop Bytes :=
  match word, bs with
  | [], bs => .ok bs
  | _ :: _, [] => .error (.after .endInValue [])
  | w :: word, b :: r => if b == w then skimLiteral word r else .error (.after .expectedLiteral r)

/-- What follows the first letter of `null`. -/
def nullTail : Bytes := [0x75, 0x6C, 0x6C]

/-- What follows the first letter of `true`. -/
def trueTail : Bytes := [0x72, 0x75, 0x65]

/-- What follows the first letter of `false`. -/
def falseTail : Bytes := [0x61, 0x6C, 0x73, 0x65]

/-- Passes over a value that is no list and no object and begins with the octet `b`. -/
def skimScalar (b : UInt8) (r : Bytes) : Except Stop Bytes :=
  if b == 0x6E then skimLiteral nullTail r
  else if b == 0x74 then skimLiteral trueTail r
  else if b == 0x66 then skimLiteral falseTail r
  else if b == minus then skimNumber r
  else if isDigit b then skimNumber (b :: r)
  else if b == quote then skimString r
  else .error (.onNext .expectedValue (b :: r))

theorem length_skipSpace_le (bs : Bytes) : (skipSpace bs).length ≤ bs.length :=
  (List.dropWhile_sublist _).length_le

theorem length_skipDigits_le (bs : Bytes) : (skipDigits bs).length ≤ bs.length :=
  (List.dropWhile_sublist _).length_le

theorem skipSpace_shrinks {bs r : Bytes} {b : UInt8} (h : skipSpace bs = b :: r) :
    r.length < bs.length := by
  have := length_skipSpace_le bs
  rw [h] at this
  exact this

theorem length_skipSign_le (bs : Bytes) : (skipSign bs).length ≤ bs.length := by
  unfold skipSign
  split
  · exact Nat.le_refl _
  · split <;> simp

theorem skimExponent_shrinks {bs rest : Bytes} (h : skimExponent bs = .ok rest) :
    rest.length ≤ bs.length := by
  unfold skimExponent at h
  split at h
  · cases h
    exact Nat.le_refl _
  · rename_i e r
    split at h
    · split at h
      · cases h
      · rename_i d t ht
        split at h
        · cases h
          have h1 := length_skipDigits_le t
          have h2 := length_skipSign_le r
          rw [ht] at h2
          simp only [List.length_cons] at h2 ⊢
          omega
        · cases h
    · cases h
      exact Nat.le_refl _

theorem skimFraction_shrinks {bs rest : Bytes} (h : skimFraction bs = .ok rest) :
    rest.length ≤ bs.length := by
  unfold skimFraction at h
  split at h
  · cases h
    exact Nat.le_refl _
  · split at h
    · split at h
      · cases h
      · rename_i d t
        split at h
        · have h1 := skimExponent_shrinks h
          have h2 := length_skipDigits_le t
          simp only [List.length_cons]
          omega
        · cases h
    · exact skimExponent_shrinks h

theorem skimNumber_shrinks {bs rest : Bytes} (h : skimNumber bs = .ok rest) :
    rest.length < bs.length := by
  unfold skimNumber at h
  split at h
  · cases h
  · rename_i d r
    split at h
    · split at h
      · cases h
        simp
      · split at h
        · cases h
        · have h1 := skimFraction_shrinks h
          simp only [List.length_cons] at h1 ⊢
          omega
    · split at h
      · have h1 := skimFraction_shrinks h
        have h2 := length_skipDigits_le r
        simp only [List.length_cons]
        omega
      · cases h

theorem skimLiteral_shrinks {word bs rest : Bytes} (h : skimLiteral word bs = .ok rest) :
    rest.length ≤ bs.length := by
  induction word generalizing bs with
  | nil =>
    unfold skimLiteral at h
    cases h
    exact Nat.le_refl _
  | cons w word ih =>
    cases bs with
    | nil => cases h
    | cons b r =>
      unfold skimLiteral at h
      split at h
      · have := ih h
        simp only [List.length_cons]
        omega
      · cases h

/-- **A value that is no list and no object takes at least its first octet.** -/
theorem skimScalar_shrinks {b : UInt8} {r rest : Bytes} (h : skimScalar b r = .ok rest) :
    rest.length ≤ r.length := by
  unfold skimScalar at h
  repeat' split at h
  · exact skimLiteral_shrinks h
  · exact skimLiteral_shrinks h
  · exact skimLiteral_shrinks h
  · exact Nat.le_of_lt (skimNumber_shrinks h)
  · have := skimNumber_shrinks h
    simp only [List.length_cons] at this
    omega
  · exact Nat.le_of_lt (skimString_shrinks h)
  · cases h

/-! ## 3. Values -/

/-- Passes over the key of a member and the colon behind it. -/
def skimKey (bs : Bytes) : Except Stop Bytes :=
  match skipSpace bs with
  | [] => .error (.onNext .endInObject [])
  | b :: r =>
    if b == quote then
      match skimString r with
      | .error stop => .error stop
      | .ok r =>
        match skipSpace r with
        | [] => .error (.onNext .endInObject [])
        | c :: r => if c == colon then .ok r else .error (.onNext .expectedColon (c :: r))
    else .error (.onNext .keyNoString (b :: r))

theorem skimKey_shrinks {bs rest : Bytes} (h : skimKey bs = .ok rest) :
    rest.length < bs.length := by
  unfold skimKey at h
  split at h
  · cases h
  · rename_i b r hs
    split at h
    · split at h
      · cases h
      · rename_i r' hr
        split at h
        · cases h
        · rename_i c r'' hs'
          split at h
          · cases h
            have h1 := length_skipSpace_le bs
            have h2 := length_skipSpace_le r'
            have h3 := skimString_shrinks hr
            rw [hs] at h1
            rw [hs'] at h2
            simp only [List.length_cons] at h1 h2
            omega
          · cases h
    · cases h

/-- An open list or object. -/
inductive Frame where
  | list
  | object
  deriving DecidableEq, Repr

/-- Where in a text the reader stands. -/
inductive Place where
  /-- Before a value. -/
  | value
  /-- Behind the opening of a list or an object. -/
  | opened (frame : Frame)
  /-- Behind a value. -/
  | behind
  deriving DecidableEq, Repr

/-- Ranks places by the steps that take no octet away. -/
def Place.rank : Place → Nat
  | .opened _ => 1
  | _ => 0

/-- Passes over the rest of a value, given the lists and objects that are open. -/
def skimFrom (place : Place) (stack : List Frame) (bs : Bytes) : Except Stop Bytes :=
  match place, stack with
  | .value, stack =>
    match hs : skipSpace bs with
    | [] => .error (.onNext .endInValue [])
    | b :: r =>
      have := skipSpace_shrinks hs
      if b == openBracket then skimFrom (.opened .list) stack r
      else if b == openBrace then skimFrom (.opened .object) stack r
      else
        match h : skimScalar b r with
        | .error stop => .error stop
        | .ok rest =>
          have := skimScalar_shrinks h
          skimFrom .behind stack rest
  | .opened .list, stack =>
    match hs : skipSpace bs with
    | [] => .error (.onNext .endInList [])
    | b :: r =>
      have := skipSpace_shrinks hs
      if b == closeBracket then skimFrom .behind stack r
      else skimFrom .value (.list :: stack) (b :: r)
  | .opened .object, stack =>
    match hs : skipSpace bs with
    | [] => .error (.onNext .endInObject [])
    | b :: r =>
      have := skipSpace_shrinks hs
      if b == closeBrace then skimFrom .behind stack r
      else
        match h : skimKey (b :: r) with
        | .error stop => .error stop
        | .ok rest =>
          have := skimKey_shrinks h
          skimFrom .value (.object :: stack) rest
  | .behind, [] => .ok bs
  | .behind, .list :: stack =>
    match hs : skipSpace bs with
    | [] => .error (.onNext .endInList [])
    | b :: r =>
      have := skipSpace_shrinks hs
      if b == closeBracket then skimFrom .behind stack r
      else if b == comma then skimFrom .value (.list :: stack) r
      else .error (.onNext .expectedListEnd (b :: r))
  | .behind, .object :: stack =>
    match hs : skipSpace bs with
    | [] => .error (.onNext .endInObject [])
    | b :: r =>
      have := skipSpace_shrinks hs
      if b == closeBrace then skimFrom .behind stack r
      else if b == comma then
        match h : skimKey r with
        | .error stop => .error stop
        | .ok rest =>
          have := skimKey_shrinks h
          skimFrom .value (.object :: stack) rest
      else .error (.onNext .expectedObjectEnd (b :: r))
  termination_by (bs.length, place.rank)
  decreasing_by
    all_goals
      simp only [Place.rank, Prod.lex_def, List.length_cons] at *
      omega

/-- Passes over one value; what follows it. -/
def skim (bs : Bytes) : Except Stop Bytes := skimFrom .value [] bs

/-- Refuses anything but white space. -/
def finish (bs : Bytes) : Except Stop Unit :=
  match skipSpace bs with
  | [] => .ok ()
  | b :: r => .error (.onNext .trailingCharacters (b :: r))

/-- Refuses a text that is not one value between white space. -/
def checkDocument (bs : Bytes) : Except Stop Unit :=
  match skim bs with
  | .error stop => .error stop
  | .ok rest => finish rest

/-- Whether a text is one value between white space. -/
def isDocument (bs : Bytes) : Bool := (checkDocument bs).isOk

end CitationFusion.Json
