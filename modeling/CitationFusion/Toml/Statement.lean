import CitationFusion.Toml.Item
import CitationFusion.Toml.Number

/-!
# The statements of a TOML document

A document is a list of statements: headers, which open tables, and keys with values. Lists and
tables between braces may go over several lines and end with a comma; they may be nested up to
`nestingLimit`. What a statement does to the document is another matter
(`CitationFusion.Toml.Document`), but a table between braces is put together here.
-/

namespace CitationFusion.Toml

/-! ## 1. Keys -/

/-- Whether a character may stand in a key without quotes. -/
def isBare (c : Char) : Bool := c.isAlphanum || c == '_' || c == '-'

/-- Reads one part of a key. -/
def readKeyPart : Scan String
  | '"' :: r => readBasic (r.length + 1) [] r
  | '\'' :: r => readLiteral [] r
  | cs =>
    let part := cs.takeWhile isBare
    if part.isEmpty then none else some (String.ofList part, cs.drop part.length)

/-- Reads the parts of a key, with dots between them; at most `fuel`. The blanks behind the key
    are read too. -/
def readKey : (fuel : Nat) → Scan (List String)
  | 0, _ => none
  | fuel + 1, cs =>
    match readKeyPart (skipBlanks cs) with
    | none => none
    | some (part, rest) =>
      match skipBlanks rest with
      | '.' :: rest => (readKey fuel rest).map fun (parts, rest) => (part :: parts, rest)
      | rest => some ([part], rest)

/-! ## 2. Keys in tables -/

/-- Puts a value under a key of a table, `dotted` saying whether tables were passed on the way
    to it. Those tables must have come about by keys with dots themselves. -/
def putHere (dotted : Bool) (key : String) (item : Item) (origin : Origin) (m : Members) :
    Option Members :=
  if (origin == .dotted) != dotted then none
  else if (m.get? key).isSome then none
  else some (m.add key item)

/-- Goes down a path of tables, making those that are missing, and changes the last one. -/
def descend (dotted : Bool) (change : Origin → Members → Option Members) :
    (path : List String) → Origin → Members → Option Members
  | [], origin, m => change origin m
  | key :: path, _, m =>
    match m.get? key with
    | none =>
      let origin : Origin := if dotted then .dotted else .implied
      (descend dotted change path origin []).map fun t => m.add key (.table origin t)
    | some (.table origin t) =>
      if origin == .inline || (dotted && origin == .header) then none
      else (descend dotted change path origin t).map fun t => m.replace key (.table origin t)
    | some (.tables (t :: rest)) =>
      (descend dotted change path .header t).map fun t => m.replace key (.tables (t :: rest))
    | some _ => none

/-- Puts a value under a key with dots, of which `last` is the last part. -/
def putKey (path : List String) (last : String) (item : Item) (origin : Origin) (m : Members) :
    Option Members :=
  descend true (putHere (!path.isEmpty) last item) path origin m

/-- Puts a value under a key. -/
def putPath (parts : List String) (item : Item) (origin : Origin) (m : Members) :
    Option Members :=
  match parts.getLast? with
  | none => none
  | some last => putKey parts.dropLast last item origin m

/-! ## 3. Values -/

/-- Whether a character ends a value without quotes. -/
def endsWord (c : Char) : Bool :=
  isBlank c || c == '\n' || c == '\r' || c == '#' || c == '=' || c == ',' || c == '[' ||
    c == ']' || c == '\x7b' || c == '\x7d' || c == '"' || c == '\''

/-- Reads a word without quotes; behind a date, a space and a time of day belong to it. -/
def readWord (cs : List Char) : List Char × List Char :=
  let word := cs.takeWhile (!endsWord ·)
  let rest := cs.drop word.length
  match rest with
  | ' ' :: d :: r =>
    if date? word == some [] && isDecimal d then
      let more := (d :: r).takeWhile (!endsWord ·)
      (word ++ ' ' :: more, (d :: r).drop more.length)
    else (word, rest)
  | _ => (word, rest)

/-- The value of a word without quotes. -/
def wordItem? (word : List Char) : Option Item :=
  if word == ['t', 'r', 'u', 'e'] then some (.boolean true)
  else if word == ['f', 'a', 'l', 's', 'e'] then some (.boolean false)
  else
    match number? word with
    | some (.integer n) => some (.integer n)
    | some .float => some .float
    | none => if isTime word then some .time else none

/-- Reads a value that is no list and no table. -/
def readPlainValue (cs : List Char) : Option (Item × List Char) :=
  match readString cs with
  | some found => found.map fun (s, rest) => (.text s, rest)
  | none =>
    let (word, rest) := readWord cs
    (wordItem? word).map fun item => (item, rest)

/-- Reads the items of a list behind its opening bracket; at most `fuel`. -/
def readItems (value : Scan Item) : (fuel : Nat) → (seen : List Item) → Scan (List Item)
  | 0, _, _ => none
  | fuel + 1, seen, cs =>
    match skipSpace cs with
    | ']' :: rest => some (seen.reverse, rest)
    | cs =>
      match value cs with
      | none => none
      | some (item, rest) =>
        match skipSpace rest with
        | ']' :: rest => some ((item :: seen).reverse, rest)
        | ',' :: rest => readItems value fuel (item :: seen) rest
        | _ => none

/-- Reads the members of a table behind its opening brace; at most `fuel`. -/
def readMembers (value : Scan Item) : (fuel : Nat) → Members → Scan Members
  | 0, _, _ => none
  | fuel + 1, m, cs =>
    match skipSpace cs with
    | '\x7d' :: rest => some (m, rest)
    | cs =>
      match readKey (cs.length + 1) cs with
      | some (parts, '=' :: rest) =>
        match value (skipBlanks rest) with
        | none => none
        | some (item, rest) =>
          match putPath parts item .header m with
          | none => none
          | some m =>
            match skipSpace rest with
            | '\x7d' :: rest => some (m, rest)
            | ',' :: rest => readMembers value fuel m rest
            | _ => none
      | _ => none

/-- Reads a value; `depth` bounds the nesting. -/
def readValue : (depth : Nat) → Scan Item
  | 0, cs => readPlainValue cs
  | depth + 1, cs =>
    match cs with
    | '[' :: r => (readItems (readValue depth) (r.length + 1) [] r).map
        fun (items, rest) => (.list items, rest)
    | '\x7b' :: r => (readMembers (readValue depth) (r.length + 1) [] r).map
        fun (m, rest) => (.table .inline m, rest)
    | _ => readPlainValue cs

/-- How deep lists and tables between braces may be nested. -/
def nestingLimit : Nat := 80

/-! ## 4. Statements -/

/-- A statement. -/
inductive Statement where
  /-- Opens a table. -/
  | header (path : List String)
  /-- Opens another table of a list of tables. -/
  | listHeader (path : List String)
  /-- Puts a value under a key of the open table. -/
  | keyValue (path : List String) (item : Item)
  deriving Repr

/-- Reads a statement that begins here. -/
def readStatement (cs : List Char) : Option (Statement × List Char) :=
  match cs with
  | '[' :: '[' :: r =>
    match readKey (r.length + 1) r with
    | some (path, ']' :: ']' :: rest) => some (.listHeader path, rest)
    | _ => none
  | '[' :: r =>
    match readKey (r.length + 1) r with
    | some (path, ']' :: rest) => some (.header path, rest)
    | _ => none
  | _ =>
    match readKey (cs.length + 1) cs with
    | some (path, '=' :: rest) =>
      (readValue nestingLimit (skipBlanks rest)).map
        fun (item, rest) => (.keyValue path item, rest)
    | _ => none

/-- Reads statements, each on lines of its own; at most `fuel`. -/
def readStatements : (fuel : Nat) → (seen : List Statement) → List Char → Option (List Statement)
  | 0, _, _ => none
  | fuel + 1, seen, cs =>
    match skipSpace cs with
    | [] => some seen.reverse
    | cs =>
      match readStatement cs with
      | none => none
      | some (statement, rest) =>
        match endLine rest with
        | none => none
        | some rest => readStatements fuel (statement :: seen) rest

end CitationFusion.Toml
