import CitationFusion.Event
import CitationFusion.Text.Alphanumeric
import CitationFusion.Text.Parts
import CitationFusion.Words

/-!
# What is logged

A filter is a list of directives with commas between them. A directive has a level, and says
which events it is about: those of targets that begin with a text, those with certain fields.

* `info` is about all events, `api=info` about some, `api` lets all of them through.
* `api[span{field}]=info` is about what happens within a span; nothing does here, but without a
  name of a span and a value of a field it is about the events that have the field.

Of the directives that are about an event the most specific one decides: the one with the longest
target, then the one with the most fields, and of two that are about the same the later one.
-/

namespace CitationFusion

/-- How much an event matters: the less, the higher the number. -/
def Level.rank : Level → Nat
  | .error => 1
  | .warn => 2
  | .info => 3
  | .debug => 4
  | .trace => 5

/-- A directive. -/
structure Directive where
  /-- What targets begin with. -/
  target : Option String
  /-- Whether the directive is about what happens in a span of some name. -/
  inSpan : Bool
  fields : List String
  /-- Whether the directive is about the values of fields. -/
  hasValues : Bool
  /-- The highest rank that is let through. -/
  verbosity : Nat
  deriving DecidableEq, Repr

/-- A filter. -/
structure LogFilter where
  directives : List Directive
  deriving DecidableEq, Repr

/-! ## 1. Levels -/

/-- Texts that differ in the case of their letters at most. -/
def sameLetters (a b : String) : Bool :=
  a.toList.map Char.toLower == b.toList.map Char.toLower

/-- The verbosity that a name or a number stands for. -/
def verbosity? (text : String) : Option Nat :=
  match Text.unsigned word64 text with
  | .ok n => if n ≤ 5 then some n else none
  | .error _ =>
    if sameLetters text "off" then some 0
    else if sameLetters text "error" then some 1
    else if sameLetters text "warn" then some 2
    else if sameLetters text "info" then some 3
    else if sameLetters text "debug" then some 4
    else if sameLetters text "trace" then some 5
    else none

/-- Everything is let through. -/
def fullVerbosity : Nat := 5

/-! ## 2. Reading -/

namespace Directive

/-- The directive that is about everything. -/
def everything : Directive := ⟨none, false, [], false, fullVerbosity⟩

/-- Where the reading of a directive stands; the numbers say where the present part began. -/
inductive Place where
  | start
  | name (since : Nat)
  | span (since : Nat)
  | field (since : Nat)
  | behindFields
  | behindSpan
  | level (since : Nat)
  deriving DecidableEq, Repr

/-- The part of a text between two places. -/
def cut (text : List Char) (since upTo : Nat) : String :=
  String.ofList ((text.take upTo).drop since)

/-- Whether a directive may begin with a character, apart from a span. -/
def isInitial (c : Char) : Bool :=
  c == '-' || c == ':' || c == '_' || Text.isAlphanumeric c

/-- The directive with one more field, perhaps with a value. -/
def withField (d : Directive) (text : String) : Option Directive :=
  if text.isEmpty then none
  else
    let name := String.ofList (text.toList.takeWhile (· != '='))
    some { d with
      fields := d.fields ++ [name]
      hasValues := d.hasValues || text.toList.contains '=' }

/-- Reads the character at place `i`; parts are cut out of `text`. -/
def step (text : List Char) (d : Directive) (i : Nat) (c : Char) :
    Place → Option (Directive × Place)
  | .start =>
    if c == '[' then some (d, .span (i + 1))
    else if isInitial c then some (d, .name i)
    else none
  | .name since =>
    if c == '=' then some ({ d with target := some (cut text since i) }, .level (i + 1))
    else if c == '[' then some ({ d with target := some (cut text since i) }, .span (i + 1))
    else some (d, .name since)
  | .span since =>
    if c == ']' then some ({ d with inSpan := true }, .behindSpan)
    else if c == '\x7b' then
      some ({ d with inSpan := !(cut text since i).isEmpty }, .field (i + 1))
    else some (d, .span since)
  | .field since =>
    if c == '\x7d' then (d.withField (cut text since i)).map (·, .behindFields)
    else some (d, .field since)
  | .behindFields => if c == ']' then some (d, .behindSpan) else none
  | .behindSpan => if c == '=' then some (d, .level (i + 1)) else none
  | .level since => some (d, .level since)

/-- Reads the characters from place `i` on. -/
def walk (text : List Char) (d : Directive) (place : Place) (i : Nat) :
    List Char → Option (Directive × Place)
  | [] => some (d, place)
  | c :: r => do
    let (d, place) ← step text d i c place
    walk text d place (i + 1) r

/-- The directive that a text writes. Places are counted without the blanks around the text, and
    parts are cut out of the text with them. -/
def parse? (text : List Char) : Option Directive := do
  let (d, place) ← walk text everything .start 0 (Text.trim text)
  match place with
  | .name since =>
    let word := cut text since text.length
    match verbosity? word with
    | some verbosity => return { d with verbosity }
    | none => return { d with target := some word }
  | .level since =>
    let word := cut text since text.length
    if word.isEmpty then return d
    else return { d with verbosity := ← verbosity? word }
  | .behindSpan => return d
  | _ => none

/-! ## 3. Events -/

/-- Whether a directive is about an event of a target that has some fields. -/
def isAbout (d : Directive) (target : String) (fields : List String) : Bool :=
  !d.inSpan && !d.hasValues &&
    (match d.target with
      | some start => start.toList.isPrefixOf target.toList
      | none => true) &&
    d.fields.all (fields.contains ·)

/-- How specific a directive is, the target first: its length, and the number of fields. -/
def weight (d : Directive) : Nat × Nat :=
  (match d.target with
    | some start => start.utf8ByteSize + 1
    | none => 0,
   d.fields.length)

/-- Whether a directive yields to another one that comes later. -/
def yieldsTo (d later : Directive) : Bool :=
  let (a, b) := d.weight
  let (x, y) := later.weight
  a < x || (a == x && (b < y || (b == y && !decide (later.fields < d.fields))))

end Directive

namespace LogFilter

/-- Only errors are let through. -/
def standard : LogFilter := ⟨[{ Directive.everything with verbosity := 1 }]⟩

/-- The parts of a text between commas, as far as they are not empty. -/
def parts (text : List Char) : List (List Char) :=
  match text with
  | [] => []
  | c :: r =>
    if c == ',' then parts r
    else
      (c :: r.takeWhile (· != ',')) :: parts (r.dropWhile (· != ','))
  termination_by text.length
  decreasing_by
    · simp
    · have := (List.dropWhile_sublist (l := r) (fun x => x != ',')).length_le
      simp; omega

/-- The filter that a text writes. -/
def parse? (text : String) : Option LogFilter := do
  let directives ← (parts text.toList).mapM Directive.parse?
  return if directives.isEmpty then standard else ⟨directives⟩

/-- What a setting stands for; one that cannot be read lets through what is told by default. -/
def ofSetting (text : String) : LogFilter :=
  (parse? text).getD ⟨[{ Directive.everything with verbosity := 3 }]⟩

/-- The directive that decides about an event. -/
def deciding (f : LogFilter) (target : String) (fields : List String) : Option Directive :=
  (f.directives.filter (·.isAbout target fields)).foldl
    (fun best d =>
      match best with
      | none => some d
      | some b => if b.yieldsTo d then some d else some b)
    none

/-- Whether an event of a target is let through. -/
def shows (f : LogFilter) (target : String) (e : Event) : Bool :=
  match f.deciding target ("message" :: e.fields.map Prod.fst) with
  | some d => e.level.rank ≤ d.verbosity
  | none => false

end LogFilter

end CitationFusion
