import CitationFusion.Json.Read

/-!
# Reading records

A record is read from an object by the names of its fields, or from a list by their order. Of an
object, unknown names are passed over, a name that is given twice is a fault, and so is a field
without a default that is missing. A list may stop before fields that have defaults.

A `Shape` lists the fields. The record is built up in a draft, which says of each field whether
it was given.

Where a text is read for its values, whatever they are (`checkStrictly`), strings and numbers are
checked as they are when read, lists and objects must not end with a comma, and nesting has a
limit.
-/

namespace CitationFusion.Json

open Ascii

/-- A field of a record that is built up as a `σ`. -/
structure Slot (σ : Type) where
  name : String
  /-- Whether a list may not stop before the field. -/
  needed : Bool
  /-- Whether the draft has the field. -/
  filled : σ → Bool
  /-- Reads the value of the field into the draft. -/
  read : σ → Reader σ

/-- A field of the draft that a list may leave out, with its place in the draft. -/
def Slot.optional {σ α : Type} (name : String) (get : σ → Option α) (put : σ → α → σ)
    (value : Reader α) : Slot σ :=
  { name, needed := false, filled := fun d => (get d).isSome,
    read := fun d bs => (value bs).map fun (a, rest) => (put d a, rest) }

/-- A field of the draft that has to be given, with its place in the draft. -/
def Slot.required {σ α : Type} (name : String) (get : σ → Option α) (put : σ → α → σ)
    (value : Reader α) : Slot σ :=
  { Slot.optional name get put value with needed := true }

/-- The value of a field that has to be given. -/
def required {α : Type} (name : String) : Option α → Except Fault α
  | some a => .ok a
  | none => .error (.missing name)

/-- How a record `α` is read. -/
structure Shape (σ α : Type) where
  /-- What messages call the record. -/
  name : String
  slots : List (Slot σ)
  draft : σ
  /-- The record of a draft, or the field that it lacks. -/
  build : σ → Except Fault α

/-- What messages say of a record of the given shape. -/
def Shape.expected {σ α : Type} (s : Shape σ α) : String := "struct " ++ s.name

/-- What messages say of a list of fields. -/
def Shape.expectedList {σ α : Type} (s : Shape σ α) : String :=
  "struct " ++ s.name ++ " with " ++ toString s.slots.length ++
    (if s.slots.length == 1 then " element" else " elements")

/-! ## 1. Objects -/

/-- What follows the closing brace, if it is the next octet. -/
def behindObject (bs : Bytes) : Bytes :=
  match skipSpace bs with
  | [] => []
  | b :: r => if b == closeBrace then r else b :: r

/-- Goes to the next key of an object, behind its opening quote, if there is one. -/
def nextKey (first : Bool) (bs : Bytes) : Except Stop (Option Bytes) :=
  match skipSpace bs with
  | [] => .error (.onNext .endInObject [])
  | b :: r =>
    if b == closeBrace then .ok none
    else if first then
      if b == quote then .ok (some r) else .error (.onNext .keyNoString (b :: r))
    else if b == comma then
      match skipSpace r with
      | [] => .error (.onNext .endInValue [])
      | c :: t =>
        if c == quote then .ok (some t)
        else if c == closeBrace then .error (.onNext .trailingComma (c :: t))
        else .error (.onNext .keyNoString (c :: t))
    else .error (.onNext .expectedObjectEnd (b :: r))

/-- Reads the colon between a key and its value. -/
def readColon (bs : Bytes) : Except Stop Bytes :=
  match skipSpace bs with
  | [] => .error (.onNext .endInObject [])
  | b :: r => if b == colon then .ok r else .error (.onNext .expectedColon (b :: r))

/-- Reads at most `fuel` members of an object, the values by `member`; every member takes an
    octet at least. -/
def readMembers {σ : Type} (member : String → σ → Reader σ) :
    (fuel : Nat) → (first : Bool) → σ → Reader σ
  | 0, _, _, bs => .error (.onNext .endInObject bs)
  | fuel + 1, first, draft, bs =>
    match nextKey first bs with
    | .error stop => .error stop
    | .ok none => .ok (draft, behindObject bs)
    | .ok (some key) =>
      match readString key with
      | .error stop => .error stop
      | .ok (name, rest) =>
        match member name draft rest with
        | .error stop => .error stop
        | .ok (draft, rest) => readMembers member fuel false draft rest

/-- Reads the value of a member, of which the name was read, into the draft. -/
def readField {σ : Type} (slots : List (Slot σ)) (name : String) (draft : σ) : Reader σ :=
  fun bs =>
    match slots.find? (fun slot => slot.name == name) with
    | some slot =>
      if slot.filled draft then .error (.after (.duplicate name) (behindObject bs))
      else
        match readColon bs with
        | .error stop => .error stop
        | .ok bs => slot.read draft bs
    | none =>
      match readColon bs with
      | .error stop => .error stop
      | .ok bs => (skim bs).map (draft, ·)

/-! ## 2. Lists -/

/-- Reads the fields in order; `count` were read already. -/
def readPositions {σ α : Type} (s : Shape σ α) (count : Nat) :
    List (Slot σ) → σ → Reader σ
  | [], draft, bs => (closeList bs).map (draft, ·)
  | slot :: slots, draft, bs =>
    match nextItem (count == 0) bs with
    | .error stop => .error stop
    | .ok none =>
      match closeList bs with
      | .error stop => .error stop
      | .ok rest =>
        match (slot :: slots).findIdx? (·.needed) with
        | some i => .error (.after (.badLength (count + i) s.expectedList) rest)
        | none => .ok (draft, rest)
    | .ok (some start) =>
      match slot.read draft start with
      | .error stop => .error stop
      | .ok (draft, rest) => readPositions s (count + 1) slots draft rest

/-! ## 3. Records -/

/-- Reads a record. -/
def Shape.read {σ α : Type} (s : Shape σ α) : Reader α := fun bs =>
  match skipSpace bs with
  | [] => .error (.onNext .endInValue [])
  | b :: r =>
    let draft :=
      if b == openBracket then readPositions s 0 s.slots s.draft r
      else if b == openBrace then readMembers (readField s.slots) (r.length + 1) true s.draft r
      else .error (refuse s.expected b r)
    match draft with
    | .error stop => .error stop
    | .ok (draft, rest) =>
      match s.build draft with
      | .error fault => .error (.after fault rest)
      | .ok a => .ok (a, rest)

/-! ## 4. Any value -/

/-- How deep lists and objects may be nested, and one more. -/
def depthLimit : Nat := 128

/-- Reads any value; `depth` bounds the nesting. -/
def readAny : (depth : Nat) → Reader Unit
  | 0, bs => .error (.onNext .tooDeep bs)
  | depth + 1, bs =>
    match skipSpace bs with
    | [] => .error (.onNext .endInValue [])
    | b :: r =>
      if b == openBracket then
        if depth == 0 then .error (.onNext .tooDeep (b :: r))
        else (readItems (readAny depth) (r.length + 1) [] r).map fun (_, rest) => ((), rest)
      else if b == openBrace then
        if depth == 0 then .error (.onNext .tooDeep (b :: r))
        else
          let member : String → Unit → Reader Unit := fun _ _ bs =>
            match readColon bs with
            | .error stop => .error stop
            | .ok rest => readAny depth rest
          readMembers member (r.length + 1) true () r
      else (findKind b r).map fun (_, rest) => ((), rest)

/-- Refuses a text that is not one value, or is nested too deep. -/
def checkStrictly (bs : Bytes) : Except Stop Unit := readDocument (readAny depthLimit) bs

end CitationFusion.Json
