/-!
# What a TOML document holds

Values, and tables of them. A table remembers how it came about, because that decides what may
still be added to it.
-/

namespace CitationFusion.Toml

/-- How a table came about. -/
inductive Origin where
  /-- Written between braces; complete. -/
  | inline
  /-- Opened by a header of its own, or the document itself. -/
  | header
  /-- On the way to a table with a header. -/
  | implied
  /-- On the way to a key with dots. -/
  | dotted
  deriving DecidableEq, Repr

/-- A value or a table. -/
inductive Item where
  | text (s : String)
  | integer (n : Int)
  | float
  | boolean (b : Bool)
  | time
  /-- A list between brackets; complete. -/
  | list (items : List Item)
  /-- Tables with headers of their own, the last one first. -/
  | tables (items : List (List (String × Item)))
  | table (origin : Origin) (members : List (String × Item))
  deriving Repr

/-- The members of a table. -/
abbrev Members := List (String × Item)

/-- The member of a name. -/
def Members.get? (m : Members) (key : String) : Option Item :=
  (List.find? (fun e => e.1 == key) m).map Prod.snd

/-- The members with a new one at the end. -/
def Members.add (m : Members) (key : String) (item : Item) : Members :=
  List.append m [(key, item)]

/-- The members with one replaced. -/
def Members.replace (m : Members) (key : String) (item : Item) : Members :=
  List.map (fun e => if e.1 == key then (key, item) else e) m

end CitationFusion.Toml
